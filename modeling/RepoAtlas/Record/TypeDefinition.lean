import RepoAtlas.Record.Schema

/-!
Type definitions: data structures declared somewhere in a repository, with their fields,
variants and parents. `toDoc` writes the full document form and `ofDoc` reads any document that
conforms to the schema and has texts where texts are needed.
-/
namespace RepoAtlas

inductive TypeKind where
  | struct | class_ | interface | enum | trait | typeAlias | union | protocol
  deriving DecidableEq, Repr, Inhabited

namespace TypeKind

def text : TypeKind → String
  | .struct => "struct"
  | .class_ => "class"
  | .interface => "interface"
  | .enum => "enum"
  | .trait => "trait"
  | .typeAlias => "type_alias"
  | .union => "union"
  | .protocol => "protocol"

def all : List TypeKind :=
  [.struct, .class_, .interface, .enum, .trait, .typeAlias, .union, .protocol]

def ofText? (s : String) : Option TypeKind := all.find? (·.text == s)

theorem ofText?_text (k : TypeKind) : ofText? k.text = some k := by
  cases k <;> decide

end TypeKind

structure TypeRef where
  name : String
  raw : String
  optional : Bool := false
  isCollection : Bool := false
  generics : List TypeRef := []
  deriving Repr, Inhabited

structure Field where
  name : String
  typeRef : TypeRef
  optional : Bool := false
  deriving Repr, Inhabited

structure Variant where
  name : String
  value : Doc := .null
  deriving Repr, Inhabited

structure TypeDefinition where
  name : String
  kind : TypeKind
  file : String := ""
  line : Int := 0
  language : String := "unknown"
  visibility : String := "public"
  fields : List Field := []
  variants : List Variant := []
  parents : List TypeRef := []
  interfaces : List TypeRef := []
  tags : List String := []
  doc : String := ""
  deriving Repr, Inhabited

mutual

def TypeRef.toDoc : TypeRef → Doc
  | ⟨name, raw, optional, isCollection, generics⟩ =>
    .object [("name", .text name), ("raw", .text raw), ("optional", .bool optional),
      ("is_collection", .bool isCollection), ("generics", .list (TypeRef.toDocs generics))]

def TypeRef.toDocs : List TypeRef → List Doc
  | [] => []
  | r :: rest => r.toDoc :: TypeRef.toDocs rest

end

mutual

/-- Reads a document in full form. -/
def TypeRef.ofFull : Doc → Result TypeRef
  | .object [(_, .text name), (_, .text raw), (_, .bool optional), (_, .bool isCollection),
      (_, .list generics)] => do
    return { name, raw, optional, isCollection, generics := ← TypeRef.ofFulls generics }
  | _ => .error .wrongKind

def TypeRef.ofFulls : List Doc → Result (List TypeRef)
  | [] => .ok []
  | d :: rest => do
    let head ← TypeRef.ofFull d
    return head :: (← TypeRef.ofFulls rest)

end

mutual

theorem TypeRef.ofFull_toDoc : (r : TypeRef) → TypeRef.ofFull r.toDoc = .ok r
  | ⟨name, raw, optional, isCollection, generics⟩ => by
    simp [TypeRef.toDoc, TypeRef.ofFull, TypeRef.ofFulls_toDocs generics, bind, Except.bind,
      pure, Except.pure]

theorem TypeRef.ofFulls_toDocs :
    (rs : List TypeRef) → TypeRef.ofFulls (TypeRef.toDocs rs) = .ok rs
  | [] => rfl
  | r :: rest => by
    simp [TypeRef.toDocs, TypeRef.ofFulls, TypeRef.ofFull_toDoc r,
      TypeRef.ofFulls_toDocs rest, bind, Except.bind, pure, Except.pure]

end

def Doc.toText : Doc → Result String
  | .text s => .ok s
  | _ => .error .wrongKind

def Field.toDoc (f : Field) : Doc :=
  .object [("name", .text f.name), ("type_ref", f.typeRef.toDoc), ("optional", .bool f.optional)]

def Field.ofFull : Doc → Result Field
  | .object [(_, .text name), (_, ref), (_, .bool optional)] => do
    return { name, typeRef := ← TypeRef.ofFull ref, optional }
  | _ => .error .wrongKind

def Variant.toDoc (v : Variant) : Doc :=
  .object [("name", .text v.name), ("value", v.value)]

def Variant.ofFull : Doc → Result Variant
  | .object [(_, .text name), (_, value)] => .ok { name, value }
  | _ => .error .wrongKind

namespace TypeDefinition

/-- What tells definitions of one snapshot apart. -/
def key (t : TypeDefinition) : String × String × Int := (t.name, t.file, t.line)

def isPublic (t : TypeDefinition) : Bool := t.visibility == "public"

def toDoc (t : TypeDefinition) : Doc :=
  .object [("name", .text t.name), ("kind", .text t.kind.text), ("file", .text t.file),
    ("line", .int t.line), ("language", .text t.language), ("visibility", .text t.visibility),
    ("fields", .list (t.fields.map Field.toDoc)),
    ("variants", .list (t.variants.map Variant.toDoc)),
    ("extends", .list (TypeRef.toDocs t.parents)),
    ("implements", .list (TypeRef.toDocs t.interfaces)),
    ("tags", .ofTexts t.tags), ("doc", .text t.doc)]

def ofFull : Doc → Result TypeDefinition
  | .object [(_, .text name), (_, .text kind), (_, .text file), (_, .int line),
      (_, .text language), (_, .text visibility), (_, .list fields), (_, .list variants),
      (_, .list parents), (_, .list interfaces), (_, .list tags), (_, .text doc)] => do
    let kind ← match TypeKind.ofText? kind with
      | some k => .ok k
      | none => .error .wrongKind
    return { name, kind, file, line, language, visibility, doc,
             fields := ← fields.mapM Field.ofFull, variants := ← variants.mapM Variant.ofFull,
             parents := ← TypeRef.ofFulls parents, interfaces := ← TypeRef.ofFulls interfaces,
             tags := ← tags.mapM Doc.toText }
  | _ => .error .wrongKind

def ofDoc (d : Doc) : Result TypeDefinition := do
  ofFull (← conform .typeDefinition d)

end TypeDefinition

end RepoAtlas
