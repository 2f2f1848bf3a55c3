import RepoAtlas.Diagram.Parts
import RepoAtlas.Diff.Domain

/-!
The differences of an ecosystem as a flowchart with one node per domain and direction, and as
a text with every key.
-/
namespace RepoAtlas.Diff

open RepoAtlas.Diagram RepoAtlas.Text

/-- How many keys a node shows. -/
def previewLength : Nat := 3

def preview (keys : List String) : String :=
  let more := keys.length - previewLength
  joinWith ", " (keys.take previewLength) ++ (if more = 0 then "" else s!" (+{more})")

/-- One node of the flowchart. -/
structure ChangeNode where
  name : String
  glyph : String
  sign : String
  domain : String
  keys : List String

def changeNodes (domain : String) (c : SetChange String) : List ChangeNode :=
  [⟨domain ++ "_added", "✅", "+", domain, c.added⟩,
    ⟨domain ++ "_removed", "❌", "-", domain, c.removed⟩]

def ChangeNode.line (ids : OrderedMap String String) (n : ChangeNode) : String :=
  "        " ++ titled (idOf ids n.name)
    (label (n.glyph ++ " " ++ n.domain ++ " " ++ n.sign ++ toString n.keys.length ++ ": " ++
      preview n.keys))

def changeDiagram (e : EcosystemDiff) : String :=
  let found := e.aggregated
  let nodes := (sortTexts found.keys).flatMap (fun d => changeNodes d ((found.get? d).getD {}))
  let ids := uniqueIds (nodes.map (·.name)) ["Changes", "no_changes"]
  let drawn := nodes.filter (!·.keys.isEmpty)
  joinWith "\n"
    (["flowchart LR", "    subgraph " ++
        titled "Changes" (label ("📊 Changes " ++ e.fromRef ++ " → " ++ e.toRef))] ++
      drawn.map (ChangeNode.line ids) ++
      (if drawn.isEmpty then ["        " ++ titled "no_changes" "No changes"] else []) ++ ["    end"])

def domainLines (d : DomainDiff) : List String :=
  match d.status with
  | .unchanged => []
  | .new | .removed => ["    " ++ d.domain ++ ": domain " ++ d.status.text]
  | .changed =>
    ["    " ++ d.domain ++ s!": +{d.keys.added.length} -{d.keys.removed.length}"] ++
      d.keys.added.map ("      + " ++ ·) ++ d.keys.removed.map ("      - " ++ ·)

def repoLines (e : EcosystemDiff) (r : RepoDiff) : List String :=
  if !(r.hasBefore && r.hasAfter) then
    let missing := if r.hasBefore then e.toRef else e.fromRef
    ["  " ++ r.repo ++ ": no snapshot for '" ++ missing ++ "'"]
  else if r.hasChanges then ["  " ++ r.repo ++ ":"] ++ r.domains.flatMap domainLines
  else []

def changeText (e : EcosystemDiff) : String :=
  joinWith "\n"
    (["Diff " ++ e.fromRef ++ " → " ++ e.toRef ++
        s!": {e.changedRepos.length}/{e.repos.length} repos changed"] ++
      e.repos.flatMap (repoLines e))

end RepoAtlas.Diff
