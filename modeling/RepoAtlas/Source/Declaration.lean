import RepoAtlas.Source.Tree
import RepoAtlas.Source.TypeAnnotation
import RepoAtlas.Text.CharClass
import RepoAtlas.Text.Pieces

/-!
Type definitions that a module declares: classes with their fields, enumerations with their
variants, and aliases at the top level.
-/
namespace RepoAtlas.Source

/-! ### Summaries

The summary of a definition is the first line of the text that opens its body. Tabs reach to the
next multiple of eight columns, the common indentation of the later lines is taken away, and
empty lines at the top are skipped.
-/

/-- Blanks for tabs; `column` counts from the last line break. -/
def expandTabs (column : Nat) : List Char → List Char
  | [] => []
  | '\t' :: rest =>
    let width := 8 - column % 8
    List.replicate width ' ' ++ expandTabs (column + width) rest
  | c :: rest => c :: expandTabs (if c = '\n' ∨ c = '\r' then 0 else column + 1) rest

def indentation (line : List Char) : Nat := (line.takeWhile Text.isBlank).length

/-- The least indentation of the lines that are not blank, `none` if all are. -/
def commonIndentation (lines : List (List Char)) : Option Nat :=
  ((lines.filter (fun l => !l.all Text.isBlank)).map indentation).min?

/-- The lines of a text without their common indentation. The first line stands behind the
opening quotes and has none to share. -/
def alignedLines (text : List Char) : List (List Char) :=
  match Text.splitAt '\n' (expandTabs 0 text) with
  | [] => []
  | first :: later =>
    first.dropWhile Text.isBlank ::
      later.map (fun l => l.drop ((commonIndentation later).getD 0))

def summaryLine (text : String) : String :=
  String.ofList (Text.firstLine (((alignedLines text.toList).find? (!·.isEmpty)).getD []))

/-- The summary of a definition with the given body, empty without a text at its top. -/
def summaryOf : List Stmt → String
  | .expression (.constant (.text s _)) :: _ => summaryLine s
  | _ => ""

/-! ### Declarations -/

def enumBases : List String := ["Enum", "IntEnum", "StrEnum", "Flag", "IntFlag"]
def protocolBases : List String := ["Protocol"]
def interfaceBases : List String := ["ABC", "ABCMeta"]
def structBases : List String := ["BaseModel", "TypedDict", "NamedTuple", "Struct"]
def structDecorators : List String := ["dataclass", "attrs", "define", "frozen"]

/-- Bases that say what sort of class it is and are no parents. -/
def markerBases : List String :=
  enumBases ++ protocolBases ++ interfaceBases ++ structBases ++ ["object", "Generic"]

def isAbstractMeta : Expr → Bool
  | .keyword _ (.name "ABCMeta") => true
  | _ => false

/-- The sort of a class; the first rule that applies decides. -/
def classKind (bases decorators : List String) (keywords : List Expr) : TypeKind :=
  if bases.any enumBases.contains then .enum
  else if bases.any protocolBases.contains then .protocol
  else if bases.any interfaceBases.contains || keywords.any isAbstractMeta then .interface
  else if bases.any structBases.contains || decorators.any structDecorators.contains then .struct
  else .class_

/-- Appends the lists level by level. -/
def mergeLevels {α : Type} : List (List α) → List (List α) → List (List α)
  | [], ys => ys
  | xs, [] => xs
  | x :: xs, y :: ys => (x ++ y) :: mergeLevels xs ys

mutual

/-- The statement and all below it, by depth. -/
def Stmt.levels : Stmt → List (List Stmt)
  | .function isAsync name body => [.function isAsync name body] :: Stmt.levelsAll body
  | .class_ line name decorators bases keywords body =>
    [.class_ line name decorators bases keywords body] :: Stmt.levelsAll body
  | .block head body => [.block head body] :: Stmt.levelsAll body
  | s => [[s]]

def Stmt.levelsAll : List Stmt → List (List Stmt)
  | [] => []
  | s :: rest => mergeLevels s.levels (Stmt.levelsAll rest)

end

/-- The attribute of the instance that a statement writes, with its annotation if it has one. -/
def instanceAttribute? : Stmt → Option (String × Option Expr)
  | .annotated _ (.attribute (.name "self") name) declared _ => some (name, some declared)
  | .assign _ [.attribute (.name "self") name] _ => some (name, none)
  | _ => none

/-- The field that a statement in the body of a class declares. -/
def declaredField? : Stmt → Result (Option Field)
  | .annotated _ (.name id) declared _ => do
    let ref ← typeRef declared
    if Text.occursIn "ClassVar".toList ref.raw.toList then return none
    else return some { name := id, typeRef := ref, optional := ref.optional }
  | _ => .ok none

/-- The statements of the initialisers of a class, by depth. -/
def initialiserStatements (body : List Stmt) : List Stmt :=
  body.flatMap (fun s => match s with
    | .function false "__init__" _ => s.levels.flatten
    | _ => [])

/-- Adds a field for each attribute that has none yet; the first writing decides its type. -/
def attributeFields (known : List String) :
    List (String × Option Expr) → Result (List Field)
  | [] => .ok []
  | (name, declared) :: rest =>
    if known.contains name then attributeFields known rest
    else do
      let ref ← match declared with
        | some e => typeRef e
        | none => pure anyType
      return { name, typeRef := ref } :: (← attributeFields (name :: known) rest)

/-- The declared fields in order, then the attributes that only initialisers write. -/
def classFields (body : List Stmt) : Result (List Field) := do
  let declared := (← body.mapM declaredField?).filterMap id
  let written := (initialiserStatements body).filterMap instanceAttribute?
  return declared ++ (← attributeFields (declared.map (·.name)) written)

/-- The value of a literal text or whole number. -/
def literalDoc : Expr → Doc
  | .constant (.text s _) => .text s
  | .constant (.int n) => .int n
  | _ => .null

def enumVariants (body : List Stmt) : List Variant :=
  body.flatMap (fun s => match s with
    | .assign _ targets value => targets.filterMap (fun target => match target with
      | .name id => if isPrivateName id then none else some { name := id, value := literalDoc value }
      | _ => none)
    | _ => [])

def visibilityOf (name : String) : String := if isPrivateName name then "private" else "public"

/-- A definition of which nothing but the name is known. -/
def bareDefinition (path : String) (line : Nat) (kind : TypeKind) (name : String) :
    TypeDefinition :=
  { name, kind, file := path, line, language := "python", visibility := visibilityOf name }

def classDefinition (path : String) (line : Nat) (name : String)
    (decorators bases keywords : List Expr) (body : List Stmt) : Result TypeDefinition := do
  let bases := bases.map Expr.shortName
  let decorators := decorators.map Expr.shortName
  let kind := classKind bases decorators keywords
  let fields ← if kind = .enum then pure [] else classFields body
  let parents := bases.filter (fun b => !b.isEmpty && !markerBases.contains b)
  return { bareDefinition path line kind name with
    fields
    variants := if kind = .enum then enumVariants body else []
    parents := parents.map (fun b => { name := b, raw := b })
    tags := decorators.filter (!·.isEmpty)
    doc := summaryOf body }

/-- The alias that a top-level statement declares. -/
def aliasDefinition? (path : String) : Stmt → Option TypeDefinition
  | .assign line [.name id] (.subscript value _) =>
    if value.shortName = "Union" then some (bareDefinition path line .union id) else none
  | .annotated line (.name id) declared _ =>
    if declared.shortName = "TypeAlias" then some (bareDefinition path line .typeAlias id)
    else none
  | _ => none

end RepoAtlas.Source
