import RepoAtlas.Store.Reading

/-!
Changing a store. A save replaces the snapshot of the same ref unless that was captured later.
A change that fails keeps what it has done up to there.
-/
namespace RepoAtlas.Store

/-- Changes of the tree in sequence; a fault ends them. -/
abbrev Change := ExceptT Fault (StateM FileTree)

namespace Change

def lift {α : Type} : Result α → Change α
  | .ok a => pure a
  | .error f => throw f

/-- One step that makes a new tree or fails. -/
def step (f : FileTree → Result FileTree) : Change Unit := do
  set (← lift (f (← get)))

/-- The answer of a change and the store after it. -/
def run {α : Type} (c : Change α) (s : Store) : Result α × Store :=
  let (answer, tree) := StateT.run (ExceptT.run c) s.tree
  (answer, ⟨tree⟩)

end Change

/-- Writes a document as a file of a folder. -/
def writeDocument (folder name : String) (d : Doc) (t : FileTree) : Result FileTree := do
  match Json.encode? d with
  | none => throw .notJson
  | some text => t.writeAt (← t.resolve [] (folder ++ "/" ++ name)) (.text text)

def removeIfThere (path : Path) (t : FileTree) : Result FileTree :=
  if (t.find? path).isSome then t.removeFolder path else .ok t

/-- The entry that a save would replace. -/
def replacedEntry (t : FileTree) (folder : String) : Result (Option Entry) := do
  let place := folder ++ "/" ++ manifestName
  if ← t.existsAt [] place then entryAt t (← t.resolve [] place) else return none

def isNewer (e : Entry) (s : Snapshot) : Bool := s.capturedAt.instant < e.capturedAt.instant

/-- Writes a snapshot; false if a later one of the same ref is kept. -/
def save (s : Snapshot) : Change Bool := do
  Change.lift (checkRepoName s.repo)
  let folder := folderText s.repo s.refType.text s.ref
  let old ← Change.lift (replacedEntry (← get) folder)
  if old.any (isNewer · s) then return false
  let path := [s.repo, folderName s.refType.text s.ref]
  Change.step (removeIfThere path)
  Change.step (·.makeFolder [s.repo])
  Change.step (·.makeFolder path)
  s.facts.forM (fun (domain, payload) =>
    Change.step (writeDocument folder (domainFile domain) payload))
  Change.step (writeDocument folder manifestName (manifestOf s))
  return true

/-- Takes away a whole repository; false if there is none. -/
def deleteRepo (repo : String) : Change Bool := do
  Change.lift (checkRepoName repo)
  if ((← get).find? [repo]).isNone then return false
  Change.step (·.removeFolder [repo])
  return true

/-- Takes away the snapshot that an entry stands for. -/
def deleteEntry (repo : String) (e : Entry) : Change Unit := do
  let ref ← Change.lift e.ref.toText
  Change.step (fun t => do
    t.removeFolder (← t.resolve [] (folderText repo e.refType.shown ref)))

/-- Takes away the branch and the tag of a name; false if there is neither. -/
def deleteRef (repo ref : String) : Change Bool := do
  let found := (← Change.lift (Store.entries ⟨← get⟩ repo)).filter (·.isFor ref)
  found.forM (deleteEntry repo)
  return !found.isEmpty

/-- What follows the first `n` items; the last `-n` ones if `n` is negative. -/
def dropInt {α : Type} (n : Int) (xs : List α) : List α :=
  if 0 ≤ n then xs.drop n.toNat else xs.drop (xs.length - n.natAbs)

def defaultKeep : Int := 5

/-- Takes away all but the latest snapshots, and answers with their refs. -/
def prune (repo : String) (keep : Int := defaultKeep) : Change (List Doc) := do
  let dropped := dropInt keep (← Change.lift (Store.entries ⟨← get⟩ repo))
  dropped.forM (deleteEntry repo)
  return dropped.map (·.ref)

end RepoAtlas.Store
