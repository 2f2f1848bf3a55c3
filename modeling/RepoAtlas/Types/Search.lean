import RepoAtlas.Diagram.Parts
import RepoAtlas.Types.Match
import RepoAtlas.Types.Relations

/-!
Search for definitions by part of the name and by kind. Public types with more fields come
first, then more important ones, then by repository and name.
-/
namespace RepoAtlas.Types

structure Query where
  name : String := ""
  kind : String := ""

def Query.accepts (q : Query) (t : TypeDefinition) : Bool :=
  (q.kind.isEmpty || t.kind.text == q.kind) && (q.name.isEmpty || mentions q.name t.name)

/-- Visibility and size as one number: a hundred for a public type, one per field. -/
def weight (t : TypeDefinition) : Nat := (if t.isPublic then 100 else 0) + t.fields.length

def Instance.before (a b : Instance) : Bool :=
  if weight a.type ≠ weight b.type then weight b.type < weight a.type
  else if importance a.type ≠ importance b.type then importance b.type < importance a.type
  else if a.repo ≠ b.repo then a.repo < b.repo
  else a.type.name ≤ b.type.name

def search (q : Query) (limit : Int) (types : List (String × List TypeDefinition)) :
    List Instance :=
  Diagram.takeInt limit
    (((instancesOf types).filter (fun i => q.accepts i.type)).mergeSort Instance.before)

end RepoAtlas.Types
