import RepoAtlas.Store.Manifest

/-!
Reading a store: its repositories, the snapshots of each with the latest one first, and single
snapshots.
-/
namespace RepoAtlas

/-- Snapshots in a tree of folders. -/
structure Store where
  tree : FileTree := {}
  deriving Repr, Inhabited

namespace Store

/-- The repositories: folders that are not empty. -/
def repos (s : Store) : List String :=
  sortTexts ((s.tree.children []).filter (fun name =>
    s.tree.isFolder [name] && !(s.tree.children [name]).isEmpty))

/-- Later entries first. -/
def newestFirst (entries : List Entry) : List Entry :=
  entries.mergeSort (fun a b => decide (b.capturedAt.instant ≤ a.capturedAt.instant))

/-- The entries of a repository. -/
def entries (s : Store) (repo : String) : Result (List Entry) := do
  checkRepoName repo
  match s.tree.find? [repo] with
  | none => return []
  | some (.file _) => throw (.file .notADirectory)
  | some .folder =>
    let found ← (s.tree.children [repo]).mapM (fun name =>
      entryAt s.tree [repo, name, manifestName])
    return newestFirst (found.filterMap id)

/-- The document in a file; `none` if the file is no JSON text. -/
def documentAt (t : FileTree) (path : Path) : Result (Option Doc) := do
  return Json.decode? (← t.readAt path)

/-- The payload of a domain: `none` without its file, and `some none` if that is no JSON text. -/
def payloadAt (t : FileTree) (folder : String) (domain : Doc) :
    Result (Option (String × Option Doc)) := do
  let place := folder ++ "/" ++ domainFile domain.shown
  if ← t.existsAt [] place then
    return some (domain.shown, ← documentAt t (← t.resolve [] place))
  else return none

/-- The payloads that a manifest names; `none` if one of them is no JSON text. -/
def payloads (t : FileTree) (folder : String) : List Doc → Result (Option (List (String × Doc)))
  | [] => .ok (some [])
  | domain :: rest => do
    match ← payloadAt t folder domain with
    | none => payloads t folder rest
    | some (_, none) => return none
    | some (name, some d) => return (← payloads t folder rest).map ((name, d) :: ·)

/-- The domains that a manifest names. -/
def namedDomains : Doc → Result (List Doc)
  | .object ms =>
    match OrderedMap.lookup "domains" ms with
    | some d => d.toItems
    | none => .ok []
  | _ => .error .notARecord

/-- The document of a snapshot: its manifest with the payloads. -/
def snapshotDoc (manifest : Doc) (facts : List (String × Doc)) : Doc :=
  match manifest with
  | .object ms => .object ((OrderedMap.mk ms).insert "facts_by_domain"
      (.object (OrderedMap.ofList facts).entries)).entries
  | d => d

/-- The snapshot in a folder; `none` without a manifest, or if a file is no JSON text. -/
def load (s : Store) (repo refType ref : String) : Result (Option Snapshot) := do
  checkRepoName repo
  let folder := folderText repo refType ref
  let place := folder ++ "/" ++ manifestName
  if ← s.tree.existsAt [] place then
    match ← documentAt s.tree (← s.tree.resolve [] place) with
    | none => return none
    | some manifest =>
      match ← payloads s.tree folder (← namedDomains manifest) with
      | none => return none
      | some facts => return some (← Snapshot.ofDoc (snapshotDoc manifest facts))
  else return none

/-- The snapshot that an entry stands for. -/
def loadEntry (s : Store) (repo : String) (e : Entry) : Result (Option Snapshot) := do
  s.load repo e.refType.shown (← e.ref.toText)

/-- The latest snapshot of a ref. -/
def atRef (s : Store) (repo ref : String) : Result (Option Snapshot) := do
  match (← s.entries repo).find? (·.isFor ref) with
  | some e => s.loadEntry repo e
  | none => return none

/-- The latest snapshot of a repository. -/
def latest (s : Store) (repo : String) : Result (Option Snapshot) := do
  match (← s.entries repo).head? with
  | some e => s.loadEntry repo e
  | none => return none

end Store

end RepoAtlas
