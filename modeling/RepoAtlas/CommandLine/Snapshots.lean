import RepoAtlas.CommandLine.Command
import RepoAtlas.CommandLine.Desk
import RepoAtlas.Extract.Capture

/-!
The commands on snapshots: capturing a working tree, and listing, deleting and pruning what is
stored.
-/
namespace RepoAtlas.CommandLine

open Steps RepoAtlas.Text

/-- The folder that a path names; anything else is a misuse. -/
def sourceFolder (path : String) : Steps Path := do
  let d ← desk
  if path.isEmpty then throw .misused
  match d.files.resolve d.folder path with
  | .error .nullInPath => throw .failed
  | .error _ => throw .misused
  | .ok place => if d.files.isFolder place then return place else throw .misused

/-- The name of a repository that lies in a folder. -/
def folderRepo (place : Path) : String :=
  String.ofList ((place.getLast?.getD "").toList.map (fun c => if c = ' ' then '_' else c))

def captureLine (place : Path) (repo ref : String) : String :=
  "Extracted '/" ++ joinWith "/" place ++ "' as '" ++ repo ++ "@" ++ ref ++ "'."

def countsLine (f : FileFacts) : String :=
  "Types: " ++ toString f.types.length ++ " | Calls: " ++ toString f.calls.length ++
    " | Services: " ++ toString f.services.length ++
    " | Outbound calls: " ++ toString f.outboundCalls.length

def extract (o : ExtractOptions) : Steps Unit := do
  let place ← sourceFolder o.path
  let repo := if o.repo.isEmpty then folderRepo place else o.repo
  let facts ← orFail (treeFacts (← desk).files place).copy
  let label : CaptureLabel :=
    { repo, ref := o.ref, refType := o.refType, sha := .ofOption o.sha, capturedAt := ← readClock }
  let isSaved ← orMisuse (← changeStore (Store.save (label.snapshot facts)))
  if isSaved then
    say (captureLine place repo o.ref)
    say (countsLine facts)
  else say ("Kept existing newer snapshot for '" ++ repo ++ "@" ++ o.ref ++ "'.")

/-- A value as a cell of a table: nothing or a text. -/
def cell? : Doc → Option String
  | .null => some ""
  | .text s => some s
  | _ => none

def entryRow? (repo : String) (e : Store.Entry) : Option (List String) := do
  some [repo, ← cell? e.ref, ← cell? e.refType, e.capturedAt.minuteText]

def listTable (rows : List (List String)) : Report.BoxTable :=
  { title := some "📸 Snapshots",
    columns := [⟨"Repo", .left⟩, ⟨"Ref", .left⟩, ⟨"Type", .left⟩, ⟨"Captured", .left⟩], rows }

def listSnapshots (repo : Option String) : Steps Unit := do
  let store := (← desk).store
  let repos := match repo with
    | some r => [r]
    | none => store.repos
  if repos.isEmpty then
    say "No snapshots found. Use 'ecograph snapshot extract <path>' first."
  else
    let rows ← repos.mapM (fun r => do
      (← orFail (store.entries r)).mapM (fun e => given .failed (entryRow? r e)))
    sayTable (listTable rows.flatten)

/-- A repository and the ref in it, if one is named. -/
def refText (repo : String) (ref : Option String) : String :=
  let name := ref.getD ""
  "'" ++ repo ++ "'" ++ if name.isEmpty then "" else "@" ++ name

def delete (repo : String) (ref : Option String) : Steps Unit := do
  let change := match ref with
    | some r => Store.deleteRef repo r
    | none => Store.deleteRepo repo
  if ← orFail (← changeStore change) then say ("Deleted " ++ refText repo ref ++ ".")
  else
    say ("Nothing to delete for " ++ refText repo ref ++ ".")
    throw .failed

def prune (repo : String) (keep : Int) : Steps Unit := do
  let removed ← orFail (← changeStore (Store.prune repo keep))
  let refs ← orFail (removed.mapM Doc.toText)
  say ("Removed " ++ toString refs.length ++ " snapshot(s)" ++
    if refs.isEmpty then "." else ": " ++ joinWith ", " refs)

def runSnapshot : SnapshotCommand → Steps Unit
  | .extract o => extract o
  | .list repo => listSnapshots repo
  | .delete repo ref => delete repo ref
  | .prune repo keep => prune repo keep

end RepoAtlas.CommandLine
