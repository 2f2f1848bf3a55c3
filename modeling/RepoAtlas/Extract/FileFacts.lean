import RepoAtlas.Record.Facts

/-!
What one source file contributes to a snapshot. Facts of several files are joined in order.
-/
namespace RepoAtlas

/-- An object that a cluster manifest declares. -/
structure Resource where
  kind : String
  name : String
  scope : String
  file : String
  deriving DecidableEq, Repr, Inhabited

structure FileFacts where
  types : List TypeDefinition := []
  calls : List CallEdge := []
  services : List Service := []
  outboundCalls : List OutboundCall := []
  resources : List Resource := []
  deriving Repr, Inhabited

namespace FileFacts

def append (a b : FileFacts) : FileFacts where
  types := a.types ++ b.types
  calls := a.calls ++ b.calls
  services := a.services ++ b.services
  outboundCalls := a.outboundCalls ++ b.outboundCalls
  resources := a.resources ++ b.resources

instance : Append FileFacts := ⟨append⟩

theorem append_def (a b : FileFacts) : a ++ b = append a b := rfl

@[simp] theorem empty_append (a : FileFacts) : ({} : FileFacts) ++ a = a := by
  simp [append_def, append]

@[simp] theorem append_empty (a : FileFacts) : a ++ ({} : FileFacts) = a := by
  simp [append_def, append]

theorem append_assoc (a b c : FileFacts) : a ++ b ++ c = a ++ (b ++ c) := by
  simp [append_def, append, List.append_assoc]

def join (parts : List FileFacts) : FileFacts := parts.foldr (· ++ ·) {}

/-- Whether a value among the facts holds itself. Only the annotations that manifests give to
services and requests can. -/
def isEndless (f : FileFacts) : Bool :=
  f.services.any (·.image.isEndless) ||
    f.outboundCalls.any (fun c => c.caller.isEndless || c.method.isEndless)

/-- A copy of the facts, as they are stored; there is none of a value that holds itself. -/
def copy (f : FileFacts) : Result FileFacts := if f.isEndless then .error .endless else .ok f

end FileFacts

/-- Each part of joined facts is joined of those parts. -/
theorem part_join {α : Type} (part : FileFacts → List α) (hempty : part {} = [])
    (happend : ∀ a b : FileFacts, part (a ++ b) = part a ++ part b) (parts : List FileFacts) :
    part (.join parts) = parts.flatMap part := by
  induction parts with
  | nil => exact hempty
  | cons first rest ih =>
    rw [FileFacts.join, List.foldr_cons, happend, List.flatMap_cons, ← ih]
    rfl

def Resource.toDoc (r : Resource) : Doc :=
  .object [("kind", .text r.kind), ("name", .text r.name), ("namespace", .text r.scope),
    ("file", .text r.file)]

end RepoAtlas
