import RepoAtlas.Calls.Callee
import RepoAtlas.Calls.Traversal
import RepoAtlas.Diagram.Parts

/-!
A traversal as a flowchart and as a sequence diagram. The sequence shows calls by site, which
approximates their order in time, and leaves plumbing out.
-/
namespace RepoAtlas.Calls

open RepoAtlas.Diagram RepoAtlas.Text

/-- How often one function calls the other, if more than once. -/
def countLabel? (g : Graph) (call : String × String) : Option String :=
  let n := g.pairCount call.1 call.2
  if 1 < n then some (toString n ++ "x") else none

def callLine (g : Graph) (ids : OrderedMap String String) (call : String × String) : String :=
  "    " ++ linked (idOf ids call.1) "-->" (countLabel? g call) (idOf ids call.2)

def classLine? (g : Graph) (ids : OrderedMap String String) (hotspotDegree : Int)
    (node : String) : Option String :=
  match g.classOf node hotspotDegree with
  | .plain => none
  | c => some ("    class " ++ idOf ids node ++ " " ++ c.text)

def flowchart (g : Graph) (t : Traversal) (hotspotDegree : Int := defaultHotspotDegree) : String :=
  let ids := uniqueIds t.nodes
  joinWith "\n"
    (["flowchart TD", "    classDef entry fill:#d4edda,stroke:#28a745",
        "    classDef hotspot fill:#f8d7da,stroke:#dc3545"] ++
      t.nodes.map (fun n => "    " ++ titled (idOf ids n) (label n)) ++
      t.edges.map (callLine g ids) ++
      t.nodes.filterMap (classLine? g ids hotspotDegree))

/-- By file and line, then by caller and callee. -/
def callBefore (a b : CallEdge) : Bool :=
  if a.file ≠ b.file then a.file < b.file
  else if a.line ≠ b.line then a.line < b.line
  else if a.caller ≠ b.caller then a.caller < b.caller
  else a.callee ≤ b.callee

/-- The calls of a traversal at their first sites, in approximate order of execution. -/
def orderedCalls (g : Graph) (t : Traversal) : List CallEdge :=
  ((t.edges.filter (fun e => !isPlumbing e.2)).map (fun e =>
    let site := (g.sites.get? e).getD ("", 0)
    ⟨e.1, e.2, site.1, site.2⟩)).mergeSort callBefore

def sequenceLabel (name : String) : String := labelWithin 60 name

def callLines (ids : OrderedMap String String) (callers : List String) (c : CallEdge) :
    List String :=
  let caller := idOf ids c.caller
  let callee := idOf ids c.callee
  ("    " ++ caller ++ "->>" ++ callee ++ ": " ++ sequenceLabel (lastSegment c.callee) ++ "()") ::
    (if callers.contains c.callee then []
      else ["    " ++ callee ++ "-->>" ++ caller ++ ": return"])

/-- Without calls the diagram shows the first seed alone. -/
def quietLines (t : Traversal) : List String :=
  match t.seeds with
  | [] => []
  | seed :: _ =>
    ["    participant " ++ identifier seed ++ " as " ++ sequenceLabel seed,
      "    Note over " ++ identifier seed ++ ": No business-logic calls in range"]

def sequenceDiagram (g : Graph) (t : Traversal) : String :=
  let calls := orderedCalls g t
  let participants := distinct (calls.flatMap (fun c => [c.caller, c.callee]))
  let ids := uniqueIds participants
  joinWith "\n"
    (["sequenceDiagram"] ++
      participants.map (fun p => "    participant " ++ idOf ids p ++ " as " ++ sequenceLabel p) ++
      calls.flatMap (callLines ids (calls.map (·.caller))) ++
      (if calls.isEmpty then quietLines t else []))

end RepoAtlas.Calls
