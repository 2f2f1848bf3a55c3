import RepoAtlas.Extract.Manifest
import RepoAtlas.Files.Tree
import RepoAtlas.Record.Snapshot
import RepoAtlas.Source.Facts
import RepoAtlas.Types.Relations

/-!
Snapshots of working trees. Which files facts are drawn from, and by which front end; a front end
that cannot read a file draws nothing from it.
-/
namespace RepoAtlas

inductive FrontEnd where
  | source | manifest | inventory
  deriving DecidableEq, Repr, Inhabited

def endsWith (s ending : String) : Bool := ending.toList.isSuffixOf s.toList

namespace FrontEnd

def all : List FrontEnd := [.source, .manifest, .inventory]

def name : FrontEnd → String
  | .source => "python"
  | .manifest => "kubernetes"
  | .inventory => "service_inventory"

/-- The name of the file in which a repository declares its services. -/
def inventoryFile : String := "ecograph.services.yaml"

def applies (path : String) : FrontEnd → Bool
  | .source => endsWith path ".py"
  | .manifest =>
    let name := FileTree.lastName path
    (endsWith name ".yaml" || endsWith name ".yml") && name != inventoryFile
  | .inventory => FileTree.lastName path == inventoryFile

def forPath (path : String) : List FrontEnd := all.filter (applies path)

def facts (content path : String) : FrontEnd → Result FileFacts
  | .source => Source.facts content path
  | .manifest => Manifest.facts content path
  | .inventory => Inventory.facts content path

end FrontEnd

/-- The facts that the front ends for a path draw from its content. -/
def fileFacts (content path : String) : FileFacts :=
  FileFacts.join ((FrontEnd.forPath path).map (fun f => (f.facts content path).toOption.getD {}))

end RepoAtlas

namespace RepoAtlas.SourceWalk

/-! ### Source files

Files with a known suffix that lie in no skipped folder. The files of a folder come before those
of its subfolders, both in ascending order.
-/

def skippedFolders : List String :=
  [".git", ".hg", ".svn", "__pycache__", ".mypy_cache", ".pytest_cache", ".tox", ".venv", "venv",
   "env", "node_modules", "build", "dist", ".eggs"]

def isSkipped (folder : String) : Bool :=
  skippedFolders.contains folder || endsWith folder ".egg-info"

def suffixes : List String := [".py", ".yaml", ".yml"]

/-- The last point and what follows it. A name that begins or ends there has no suffix. -/
def suffix (name : String) : String :=
  let last := Text.afterLast '.' name.toList
  if last.isEmpty || name.length ≤ last.length + 1 then ""
  else String.ofList ('.' :: last)

def isSource (path : Path) : Bool :=
  !path.dropLast.any isSkipped && suffixes.contains (suffix (path.getLast?.getD ""))

/-- The order of the walk. -/
def before : Path → Path → Bool
  | [], _ => true
  | _, [] => false
  | [a], [b] => decide (a ≤ b)
  | [_], _ => true
  | _, [_] => false
  | a :: p, b :: q => if a = b then before p q else decide (a < b)

def pathText (path : Path) : String := String.intercalate "/" path

/-- The source files below a folder, by their paths from there. -/
def sourceFiles (t : FileTree) (root : Path) : List (Path × FileContent) :=
  ((t.filesBelow root).filter (fun f => isSource f.1)).mergeSort (fun f g => before f.1 g.1)

end RepoAtlas.SourceWalk

namespace RepoAtlas

/-! ### Snapshots

Files that cannot be read as text are passed over.
-/

/-- The facts of one file of a tree. -/
def treeFileFacts (f : Path × FileContent) : FileFacts :=
  match f.2.read with
  | .ok content => fileFacts content (SourceWalk.pathText f.1)
  | .error _ => {}

def treeFacts (t : FileTree) (root : Path) : FileFacts :=
  FileFacts.join ((SourceWalk.sourceFiles t root).map treeFileFacts)

def resourceDomain : String := "kubernetes"

/-- A service without an owner belongs to the repository that declares it. -/
def Service.ownedBy (repo : String) (s : Service) : Service :=
  if s.owner.isEmpty then { s with owner := repo } else s

/-- The payloads that a repository's facts are stored as. -/
def domainFacts (repo : String) (f : FileFacts) : List (String × Doc) :=
  [(typeDomain, (Types.factsOf f.types f.calls).toDoc),
   (topologyDomain, TopologyFacts.toDoc ⟨f.services.map (Service.ownedBy repo), f.outboundCalls⟩)]
  ++ if f.resources.isEmpty then []
     else [(resourceDomain, .object [("resources", .list (f.resources.map Resource.toDoc))])]

/-- What a capture is labelled with. -/
structure CaptureLabel where
  repo : String
  ref : String := "local"
  refType : RefType := .branch
  sha : Doc := .null
  capturedAt : Timestamp

def CaptureLabel.snapshot (label : CaptureLabel) (facts : FileFacts) : Snapshot :=
  { label with facts := domainFacts label.repo facts }

/-- The snapshot of the working tree below a folder. -/
def capture (label : CaptureLabel) (t : FileTree) (root : Path) : Result Snapshot := do
  return label.snapshot (← (treeFacts t root).copy)

end RepoAtlas
