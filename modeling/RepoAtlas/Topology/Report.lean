import RepoAtlas.Diagram.Dot
import RepoAtlas.Diagram.Parts
import RepoAtlas.Number.Numeral
import RepoAtlas.Report.TextTable
import RepoAtlas.Topology.Ecosystem

/-!
The ecosystem as a flowchart with one box per layer, as a ranking, and as a DOT document.
-/
namespace RepoAtlas.Topology

open RepoAtlas.Diagram RepoAtlas.Text

/-- The layers from the outside in, with the repositories without services at the end. -/
def boxes : List (Option Layer) := Layer.all.map some ++ [none]

def boxName : Option Layer → String
  | some layer => layer.text
  | none => "none"

def boxTitle : Option Layer → String
  | some .edge => "🌐 Edge"
  | some .backend => "⚙️ Backend"
  | some .internal => "🏠 Internal"
  | none => "📁 No services"

def boxId (layer : Option Layer) : String := boxName layer ++ "_layer"

def repoTitle (g : Ecosystem) (repo : String) (score : String) : String :=
  let hasData := ((g.impact? repo).map (·.hasData)).getD true
  "📦 " ++ label repo ++ " (" ++ score ++ ")" ++ (if hasData then "" else " no data")

def repoLine (g : Ecosystem) (ids : OrderedMap String String) (repo : String) : Result String := do
  let score ← Numeral.intText (g.score repo)
  return "        " ++ titled (idOf ids repo) (repoTitle g repo score)

/-- The repositories of a layer. -/
def boxMembers (g : Ecosystem) (layer : Option Layer) : List String :=
  g.repos.filter (fun r => g.primaryLayer? r == layer)

def boxLines (g : Ecosystem) (ids : OrderedMap String String) (layer : Option Layer) :
    Result (List String) := do
  let lines ← (boxMembers g layer).mapM (repoLine g ids)
  if lines.isEmpty then return []
  else return ["    subgraph " ++ titled (boxId layer) (boxTitle layer)] ++ lines ++ ["    end"]

/-- Length of the text on the arrow of a type contract. -/
def maxContractLabel : Int := 60

def dependencyArrow : DependencyKind → String
  | .typeContract => "-.->"
  | .call => "-->"

/-- The types of a contract, or how many calls there are if there is more than one. -/
def dependencyLabel? (e : Dependency) : Option String :=
  match e.kind with
  | .typeContract => some (labelWithin maxContractLabel (joinWith ", " (e.evidence.take 3)))
  | .call => if 1 < e.evidence.length then some (toString e.evidence.length ++ " calls") else none

def dependencyLine (ids : OrderedMap String String) (e : Dependency) : String :=
  "    " ++ linked (idOf ids e.source) (dependencyArrow e.kind) (dependencyLabel? e)
    (idOf ids e.target)

/-- Identifiers that no repository gets. -/
def reservedIds : List String := boxes.map boxId ++ ["note"]

def layerDiagram (g : Ecosystem) : Result String := do
  let ids := uniqueIds (g.repos ++ g.edges.flatMap (fun e => [e.source, e.target])) reservedIds
  let boxed ← boxes.mapM (boxLines g ids)
  return joinWith "\n"
    (["flowchart TB"] ++ boxed.flatten ++ g.edges.map (dependencyLine ids) ++
      (if g.repos.isEmpty then ["    " ++ titled "note" "No repositories with snapshots"] else []))

def impactRow (rank : Nat) (i : Impact) : Result (List String) := do
  return [toString rank, i.repo, ← Numeral.intText i.score, toString i.providedServices,
    toString i.dependents.length, toString i.dependencies.length, toString i.sharedTypes.length,
    if i.hasData then "" else "no data"]

def impactTable (g : Ecosystem) (limit : Int := 30) : Result String := do
  let rows ← ((takeInt limit g.impacts).zipIdx 1).mapM (fun (i, rank) => impactRow rank i)
  if rows.isEmpty then return "No repositories to rank."
  else return joinWith "\n" (Report.tableLines
    ["#", "Repo", "Score", "Services", "Dependents", "Depends on", "Shared types", ""] rows)

/-- The DOT document shows the score on a line of its own. -/
def dotDocument (g : Ecosystem) (focus : String := "") : Result String := do
  let nodes ← g.repos.mapM (fun r => do
    return (r, r ++ "\\nscore " ++ (← Numeral.intText (g.score r))))
  return Dot.render (.ofList nodes) (g.edges.map (fun e => ⟨e.source, e.target, e.kind.text⟩))
    focus

end RepoAtlas.Topology
