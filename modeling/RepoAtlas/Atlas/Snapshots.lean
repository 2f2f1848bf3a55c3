import RepoAtlas.NotFound
import RepoAtlas.Settings.Basic
import RepoAtlas.Store.Reading
import RepoAtlas.Text.CloseMatch
import RepoAtlas.Types.Relations

/-!
The atlas answers questions about the repositories of a store under given settings. A question
about something unknown is answered with what is there instead.
-/
namespace RepoAtlas

/-- Where snapshots come from: the latest one of a repository, or the latest one of a ref. -/
structure SnapshotSource where
  repos : List String
  latest : String → Result (Option Snapshot)
  atRef : String → String → Result (Option Snapshot)
  /-- What is listed of a repository, the latest snapshot first. -/
  entries : String → Result (List Store.Entry) := fun _ => .ok []

def Store.source (s : Store) : SnapshotSource where
  repos := s.repos
  latest := s.latest
  atRef := s.atRef
  entries := s.entries

structure Atlas where
  store : Store
  settings : Settings := .defaults
  deriving Repr, Inhabited

/-- An answer, a miss, or a fault. -/
abbrev Query := ExceptT NotFound Result

namespace Atlas

/-- How alike a name must be to be offered instead of an unknown one. -/
def nearEnough : Nat × Nat := (4, 10)

def near (word : String) (names : List String) : List String :=
  Text.closeMatches NotFound.maxAlternatives nearEnough word names

def unknownRepo (repo : String) (known : List String) : NotFound :=
  { kind := "repository", requested := repo,
    alternatives := NotFound.suggestions (near repo known) known }

end Atlas

namespace SnapshotSource

/-- The snapshot of a ref, or the latest one if no ref is given. -/
def snapshot? (source : SnapshotSource) (repo ref : String) : Result (Option Snapshot) :=
  if ref.isEmpty then source.latest repo else source.atRef repo ref

/-- One snapshot per repository, of all repositories if none are given. -/
def snapshots (source : SnapshotSource) (repos : List String) (ref : String) :
    Result (List (String × Option Snapshot)) := do
  let repos := if repos.isEmpty then source.repos else repos
  let found ← repos.mapM (fun repo => do return (repo, ← source.snapshot? repo ref))
  return (OrderedMap.ofList found).entries

/-- The snapshot of a known repository. -/
def snapshotOf (source : SnapshotSource) (repo ref : String) : Query Snapshot := do
  let known := source.repos
  if !known.contains repo then
    throw (Atlas.unknownRepo repo known)
  match ← source.snapshot? repo ref with
  | some s => return s
  | none =>
    let requested := if ref.isEmpty then repo else repo ++ "@" ++ ref
    throw { kind := "snapshot", requested,
            alternatives := (← source.entries repo).map (·.ref.shown),
            message := "No snapshot for '" ++ requested ++ "'." }

/-- The type facts of a snapshot. Relationships and modules are derived from the definitions,
whatever is stored. -/
def typeFacts (source : SnapshotSource) (repo ref : String) : Query TypeFacts := do
  let facts ← (← source.snapshotOf repo ref).typeFacts
  return Types.factsOf facts.types facts.calls

/-- The ref that is listed first. -/
def latestRef (source : SnapshotSource) (repo : String) : Result String := do
  return (((← source.entries repo).head?).map (·.ref.shown)).getD ""

end SnapshotSource

def Atlas.snapshots (a : Atlas) (repos : List String := []) (ref : String := "") :
    Result (List (String × Option Snapshot)) :=
  a.store.source.snapshots repos ref

def Atlas.snapshotOf (a : Atlas) (repo : String) (ref : String := "") : Query Snapshot :=
  a.store.source.snapshotOf repo ref

end RepoAtlas
