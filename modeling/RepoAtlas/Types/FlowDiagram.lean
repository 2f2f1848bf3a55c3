import RepoAtlas.Diagram.Parts
import RepoAtlas.Report.TextTable
import RepoAtlas.Types.Match

/-!
Type flow as a flowchart with one arrow per ordered pair of repositories, and the table of
shared types.
-/
namespace RepoAtlas.Types

open RepoAtlas.Diagram RepoAtlas.Text

-- The zero of a sum stays that of the core library, whatever imports this file.
attribute [local instance (high)] Zero.ofOfNat0

/-- From this mean confidence on an arrow is drawn thick. -/
def strongContract : Int := 80

def edgesByPair (edges : List FlowEdge) : OrderedMap (String × String) (List FlowEdge) :=
  .groupedBy (fun e => (e.sourceRepo, e.targetRepo)) edges

def totalConfidence (edges : List FlowEdge) : Int := (edges.map (·.confidence)).sum

/-- The mean is a double, so one that is too large for a double is none. -/
def meanConfidence (edges : List FlowEdge) : Result Int :=
  Doc.roundedRatio (.int (totalConfidence edges)) (.int edges.length)

def pairLabel (edges : List FlowEdge) : String :=
  let names := distinct (edges.map (·.sourceType))
  joinWith ", " (names.take 3) ++ (if 3 < edges.length then "..." else "")

def pairArrow (edges : List FlowEdge) : Result String := do
  return if strongContract ≤ (← meanConfidence edges) then "==>" else "-->"

def pairLine (ids : OrderedMap String String) (pair : (String × String) × List FlowEdge) :
    Result String := do
  let ((source, target), edges) := pair
  return "    " ++ linked (idOf ids source) (← pairArrow edges) (some (label (pairLabel edges)))
    (idOf ids target)

/-- The edges at a repository, or all of them. -/
def focused (edges : List FlowEdge) (focus : String) : List FlowEdge :=
  if focus.isEmpty then edges
  else edges.filter (fun e => e.sourceRepo == focus || e.targetRepo == focus)

/-- The repositories at either end of an edge. -/
def endsOf (edges : List FlowEdge) : List String :=
  sortedSet (edges.map (·.sourceRepo) ++ edges.map (·.targetRepo))

def flowDiagram (edges : List FlowEdge) (focus : String := "") : Result String := do
  let edges := focused edges focus
  let repos := endsOf edges
  let ids := uniqueIds repos ["note"]
  let arrows ← (edgesByPair edges).entries.mapM (pairLine ids)
  return joinWith "\n"
    (["flowchart LR"] ++
      repos.map (fun r => "    " ++ titled (idOf ids r) ("📦 " ++ label r)) ++ arrows ++
      (if edges.isEmpty then ["    " ++ titled "note" "No shared types found above similarity threshold"]
        else []))

def sharedRow (m : Match) : List String :=
  [(m.instances.head?.map (·.type.name)).getD "", toString m.score, toString m.repos.length,
    joinWith ", " m.repos]

def sharedTypesTable (found : List Match) (limit : Int := 30) : String :=
  let rows := (takeInt limit found).map sharedRow
  if rows.isEmpty then "No types are shared across repositories."
  else joinWith "\n" (Report.tableLines ["Type", "Score", "Repos", "Found in"] rows)

end RepoAtlas.Types
