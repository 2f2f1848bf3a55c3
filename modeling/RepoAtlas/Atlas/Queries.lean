import RepoAtlas.Atlas.Snapshots
import RepoAtlas.Calls.Traversal
import RepoAtlas.Diff.Domain
import RepoAtlas.Types.Search

/-!
The questions: types and their flow between repositories, calls and what they reach, the
ecosystem, and what has changed between two refs.
-/
namespace RepoAtlas.Atlas

/-- The types of each repository that has type facts. -/
def typesOf (snapshots : List (String × Option Snapshot)) :
    Result (List (String × List TypeDefinition)) := do
  let found ← snapshots.mapM (fun (repo, s) => do
    match s with
    | none => return (repo, none)
    | some s => return (repo, (← s.typeFacts?).map (·.types)))
  return Types.withData found

def matchesIn (settings : Settings) (snapshots : List (String × Option Snapshot)) :
    Result (List Types.Match) := do
  let types ← typesOf snapshots
  Types.matchAcrossRepos (← settings.similarityWeights) types

def sharedTypesOf (settings : Settings) (source : SnapshotSource) (repos : List String)
    (ref : String) : Result (List Types.Match) := do
  matchesIn settings (← source.snapshots repos ref)

/-- The flow of types; without a bound on the similarity that of the settings holds. -/
def typeFlowOf (settings : Settings) (source : SnapshotSource) (repos : List String)
    (ref : String) (minSimilarity : Option Int) : Result (List Types.FlowEdge) := do
  let found ← sharedTypesOf settings source repos ref
  match minSimilarity with
  | some floor => return Types.flowEdges floor found
  | none => return Types.flowEdges (← settings.minSimilarity found) found

/-- How many types a search answers with. -/
def searchLimit : Int := 50

def searchTypesOf (source : SnapshotSource) (repo : String) (q : Types.Query) (limit : Int) :
    Query (List Types.Instance) := do
  if repo.isEmpty then
    return Types.search q limit (← typesOf (← source.snapshots [] ""))
  else
    return Types.search q limit [(repo, (← source.typeFacts repo "").types)]

def relationshipsOf (source : SnapshotSource) (repo focus ref : String) : Query TypeFacts := do
  let facts ← source.typeFacts repo ref
  return { facts with relationships := Types.touching focus facts.relationships }

/-- A part of the call graph of a snapshot. -/
structure CallView where
  ref : String
  graph : Calls.Graph
  traversal : Calls.Traversal

/-- The functions that a name stands for, or the entries of the graph if no name is given, or
all functions if it has none. -/
def seeds (graph : Calls.Graph) (hotspotDegree : Int) (function : String) :
    Query (List String) := do
  if function.isEmpty then
    let entries := graph.nodes.filter (fun n => graph.classOf n hotspotDegree == .entry)
    return if entries.isEmpty then graph.nodes else entries
  let found := graph.find function
  if found.isEmpty then
    throw { kind := "function", requested := function, alternatives := near function graph.nodes }
  return found

/-- Where a walk through a call graph begins and how far it goes. -/
structure CallQuery where
  function : String := ""
  direction : String := Calls.Direction.callees.text
  maxDepth : Option Int := none
  maxNodes : Option Int := none

/-- The value given, or that of the settings. -/
def boundOr (settings : Settings) (key : String) : Option Int → Result Int
  | some n => .ok n
  | none => settings.whole "impact" key

def callGraphOf (settings : Settings) (source : SnapshotSource) (repo : String) (q : CallQuery)
    (ref : String) : Query CallView := do
  let facts ← source.typeFacts repo ref
  let graph := Calls.Graph.ofCalls facts.calls
  let seeds ← seeds graph (← settings.hotspotDegree) q.function
  let direction ← Calls.Direction.ofText q.direction
  let traversal ← graph.traverse seeds direction (← boundOr settings "max_depth" q.maxDepth)
    (← boundOr settings "max_nodes" q.maxNodes)
  let ref ← if ref.isEmpty then source.latestRef repo else pure ref
  return { ref, graph, traversal }

def impactTreeOf (settings : Settings) (source : SnapshotSource) (repo ref : String) :
    Query (List Calls.Impact) := do
  let facts ← source.typeFacts repo ref
  return Calls.impactTree (Calls.Graph.ofCalls facts.calls)
    (← settings.whole "impact" "upstream_depth") (← settings.whole "impact" "max_surfaces")
    (← settings.riskBands)

/-- The service topology of each repository that has a snapshot. -/
def topologiesOf (snapshots : List (String × Option Snapshot)) :
    Result (List (String × Option TopologyFacts)) :=
  snapshots.mapM (fun (repo, s) => do
    match s with
    | none => return (repo, none)
    | some s => return (repo, some (← s.topologyFacts)))

/-- The graph of the loaded repositories under the settings. -/
def graphOf (settings : Settings) (snapshots : List (String × Option Snapshot)) :
    Result Topology.Ecosystem := do
  let found ← matchesIn settings snapshots
  let flows := Types.flowEdges (← settings.minSimilarity found) found
  Topology.Ecosystem.build (← topologiesOf snapshots) flows settings.ownershipRules
    (← settings.contractFloor flows) (← settings.impactWeights)

/-- The graph of the repositories of a source, or the part of it around one of them. -/
def ecosystemOf (settings : Settings) (source : SnapshotSource) (repos : List String)
    (ref focus : String) : Query Topology.Ecosystem := do
  let graph ← graphOf settings (← source.snapshots repos ref)
  if focus.isEmpty then return graph
  else (graph.focus focus : Found Topology.Ecosystem)

/-! ### The questions to an atlas -/

def sharedTypes (a : Atlas) (repos : List String := []) (ref : String := "") :
    Result (List Types.Match) :=
  sharedTypesOf a.settings a.store.source repos ref

def typeFlow (a : Atlas) (repos : List String := []) (ref : String := "")
    (minSimilarity : Option Int := none) : Result (List Types.FlowEdge) :=
  typeFlowOf a.settings a.store.source repos ref minSimilarity

def searchTypes (a : Atlas) (repo : String := "") (q : Types.Query := {})
    (limit : Int := searchLimit) : Query (List Types.Instance) :=
  searchTypesOf a.store.source repo q limit

def relationships (a : Atlas) (repo : String) (focus : String := "") (ref : String := "") :
    Query TypeFacts :=
  relationshipsOf a.store.source repo focus ref

def callGraph (a : Atlas) (repo : String) (q : CallQuery := {}) (ref : String := "") :
    Query CallView :=
  callGraphOf a.settings a.store.source repo q ref

def impactTree (a : Atlas) (repo : String) (ref : String := "") : Query (List Calls.Impact) :=
  impactTreeOf a.settings a.store.source repo ref

def ecosystem (a : Atlas) (repos : List String := []) (ref : String := "")
    (focus : String := "") : Query Topology.Ecosystem :=
  ecosystemOf a.settings a.store.source repos ref focus

/-- The refs of the given repositories, each once and in ascending order. -/
def refsOf (a : Atlas) (repos : List String) : Result (List String) := do
  let found ← repos.mapM a.store.entries
  return sortedSet (found.flatten.map (·.ref.shown))

/-- Refuses a ref of which no repository has a snapshot. -/
def checkRef (a : Atlas) (repos : List String) (ref : String)
    (found : List (String × Option Snapshot)) : Query Unit := do
  if found.all (·.2.isNone) then
    let refs ← a.refsOf repos
    throw { kind := "snapshot", requested := ref,
            alternatives := NotFound.suggestions (near ref refs) refs,
            message := "No snapshot for ref '" ++ ref ++ "'." }

/-- What has changed between two refs, in all repositories or in one. -/
def diff (a : Atlas) (fromRef toRef : String) (repo : String := "") (domain : String := "") :
    Query Diff.EcosystemDiff := do
  let known := a.store.repos
  if !repo.isEmpty && !known.contains repo then
    throw (unknownRepo repo known)
  let repos := if repo.isEmpty then known else [repo]
  let at? := fun ref => repos.mapM (fun r => do return (r, ← a.store.atRef r ref))
  let before ← at? fromRef
  let after ← at? toRef
  a.checkRef repos fromRef before
  a.checkRef repos toRef after
  Diff.EcosystemDiff.between before after fromRef toRef domain

end RepoAtlas.Atlas
