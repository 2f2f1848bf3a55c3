import RepoAtlas.Record.TypeDefinition
import RepoAtlas.Source.Expression
import RepoAtlas.Source.Tree
import RepoAtlas.Source.Written
import RepoAtlas.Text.Pieces

/-!
Dotted names, and what type annotations refer to.
-/
namespace RepoAtlas.Source

/-! ### Dotted names

A call is named by what it calls; what stands below the attributes of any other expression is
left out.
-/

def Expr.dottedName? : Expr → Option String
  | .name id => some id
  | .attribute value id =>
    some (match value.dottedName? with
      | some below => below ++ "." ++ id
      | none => id)
  | .call _ function _ _ => function.dottedName?
  | _ => none

/-- The last part of the dotted name, empty without one. -/
def Expr.shortName (e : Expr) : String :=
  String.ofList (Text.afterLast '.' (e.dottedName?.getD "").toList)

/-- A subscript's arguments: the items of a tuple, or the index alone. -/
def Expr.arguments : Expr → List Expr
  | .tuple items => items
  | e => [e]

def isPrivateName (name : String) : Bool := name.toList.head? = some '_'

/-! ### Annotations

`X | None` and `Optional[X]` are optional references to `X`;
collections refer to their last argument; a text is read as an annotation of its own, and
stands for itself if it cannot be read.
-/

def collectionTypes : List String :=
  ["list", "List", "set", "Set", "frozenset", "FrozenSet", "tuple", "Tuple", "Sequence",
   "Iterable", "Iterator", "Collection", "dict", "Dict", "Mapping", "MutableMapping", "deque",
   "Deque"]

/-- The reference of a field that has no annotation. -/
def anyType : TypeRef := { name := "Any", raw := "" }

/-- The reference of a union in bars: of its one member that is not `None`, or of a union. -/
def unionOfBars (raw : String) (members : List TypeRef) : TypeRef :=
  match members with
  | [ref] => { ref with raw, optional := true }
  | members => { name := "Union", raw, generics := members }

/-- The reference of a subscript with the given base. `hasNone` tells whether `None` is among
the arguments, `generics` are the others. -/
def subscripted (base raw : String) (hasNone : Bool) (generics : List TypeRef) : TypeRef :=
  match base, generics with
  | "Optional", ref :: _ => { ref with raw, optional := true }
  | "Union", [ref] => { ref with raw, optional := hasNone }
  | "Union", _ => { name := "Union", raw, optional := hasNone, generics }
  | _, _ =>
    if collectionTypes.contains base then
      { name := (generics.getLast?.map (·.name)).getD "Any", raw, isCollection := true, generics }
    else { name := if base.isEmpty then raw else base, raw, generics }

mutual

/-- The reference of an annotation; `quoted` answers for texts. `None` among the members of
a union or the arguments of a subscript has no reference. -/
def typeRefWith (quoted : String → Result TypeRef) : Expr → Result TypeRef
  | .constant (.text s marked) => do
    let _ ← (Expr.constant (.text s marked)).written
    quoted s
  | .binary .bitOr left right => do
    let raw ← (Expr.binary .bitOr left right).written
    let l ← if left.isNone then pure [] else List.singleton <$> typeRefWith quoted left
    let r ← if right.isNone then pure [] else List.singleton <$> typeRefWith quoted right
    return unionOfBars raw (l ++ r)
  | .subscript value (.tuple items) => do
    let raw ← (Expr.subscript value (.tuple items)).written
    let generics ← typeRefs quoted items
    return subscripted value.shortName raw (items.any Expr.isNone) generics
  | .subscript value index => do
    let raw ← (Expr.subscript value index).written
    let ref ← if index.isNone then pure [] else List.singleton <$> typeRefWith quoted index
    return subscripted value.shortName raw index.isNone ref
  | e => do
    let raw ← e.written
    let name := e.shortName
    return { name := if name.isEmpty then raw else name, raw }

def typeRefs (quoted : String → Result TypeRef) : List Expr → Result (List TypeRef)
  | [] => .ok []
  | e :: rest => do
    let head ← if e.isNone then pure [] else List.singleton <$> typeRefWith quoted e
    return head ++ (← typeRefs quoted rest)

end

/-- The reference of an annotation in quotes. Texts within it are shorter, which bounds the
fuel. -/
def quotedTypeRef : Nat → String → Result TypeRef
  | 0, s => .ok { name := s, raw := s }
  | fuel + 1, s =>
    if s.toList.contains '\x00' then .error .nullInSource
    else match expression? s.toList with
      | none => .ok { name := s, raw := s }
      | some e => typeRefWith (quotedTypeRef fuel) e

def typeRef (e : Expr) : Result TypeRef :=
  typeRefWith (fun s => quotedTypeRef (s.length + 1) s) e

/-- The reference of a single annotation's source text. -/
def typeRefOfText (source : String) : Result TypeRef :=
  if source.toList.contains '\x00' then .error .nullInSource
  else match expression? source.toList with
    | none => .error .sourceForm
    | some e => typeRef e

end RepoAtlas.Source
