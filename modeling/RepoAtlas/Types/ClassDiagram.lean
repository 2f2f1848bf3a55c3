import RepoAtlas.Diagram.Parts
import RepoAtlas.Types.Relations

/-!
Class diagrams of one repository: the most important types as classes with up to eight fields,
and the relationships between the classes that are shown.
-/
namespace RepoAtlas.Types

open RepoAtlas.Diagram RepoAtlas.Text

def arrow : RelationKind → String
  | .parent => "<|--"
  | .interface => "<|.."
  | .contains => "*--"
  | .collection => "o--"

def hasStereotype (k : TypeKind) : Bool := isContract k || k == .enum

def fieldLine (f : Field) : String :=
  "        " ++ labelWithin 40 f.typeRef.name ++ " " ++ identifier f.name

def classLines (ids : OrderedMap String String) (t : TypeDefinition) : List String :=
  ["    class " ++ idOf ids t.name ++ " \x7b"] ++
    (if hasStereotype t.kind then ["        <<" ++ t.kind.text ++ ">>"] else []) ++
    (t.fields.take 8).map fieldLine ++ ["    \x7d"]

def relationLine (ids : OrderedMap String String) (r : Relationship) : String :=
  let via := match r.viaField with
    | some name => if name.isEmpty then "" else " : " ++ labelWithin 40 name
    | none => ""
  "    " ++ idOf ids r.target ++ " " ++ arrow r.kind ++ " " ++ idOf ids r.source ++ via

/-- The types a diagram may show: those that the focused relationships name, entities only if
so wanted. -/
def candidates (facts : TypeFacts) (focus : String) (entitiesOnly : Bool) : List TypeDefinition :=
  let rels := touching focus facts.relationships
  let involved := rels.map (·.source) ++ rels.map (·.target)
  facts.types.filter (fun t =>
    (focus.isEmpty || involved.contains t.name) && (!entitiesOnly || isEntity t))

/-- The most important candidates. -/
def shownTypes (facts : TypeFacts) (focus : String) (maxTypes : Int) (entitiesOnly : Bool) :
    List TypeDefinition :=
  takeInt maxTypes ((candidates facts focus entitiesOnly).mergeSort
    (fun a b => importance b ≤ importance a))

def shownRelations (facts : TypeFacts) (focus : String) (names : List String) :
    List Relationship :=
  (touching focus facts.relationships).filter (fun r =>
    names.contains r.source && names.contains r.target)

/-- How many types a diagram shows if nothing else is asked for. -/
def usualMaxTypes : Int := 40

def classDiagram (facts : TypeFacts) (focus : String := "") (maxTypes : Int := usualMaxTypes)
    (entitiesOnly : Bool := false) : String :=
  let types := shownTypes facts focus maxTypes entitiesOnly
  let names := types.map (·.name)
  let ids := uniqueIds names
  joinWith "\n"
    (["classDiagram"] ++ types.flatMap (classLines ids) ++
      (shownRelations facts focus names).map (relationLine ids))

end RepoAtlas.Types
