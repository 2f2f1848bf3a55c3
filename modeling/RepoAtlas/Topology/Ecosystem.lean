import RepoAtlas.NotFound
import RepoAtlas.Record.Facts
import RepoAtlas.Text.CloseMatch
import RepoAtlas.Topology.Provider
import RepoAtlas.Types.Match

/-!
The ecosystem: which repository depends on which, through observed requests and through types
they share, and how much of the ecosystem leans on each of them.
-/
namespace RepoAtlas.Topology

inductive DependencyKind where
  | call | typeContract
  deriving DecidableEq, Repr, Inhabited

def DependencyKind.text : DependencyKind → String
  | .call => "call"
  | .typeContract => "type_contract"

structure Dependency where
  source : String
  target : String
  kind : DependencyKind
  evidence : List String := []
  deriving DecidableEq, Repr, Inhabited

structure Impact where
  repo : String
  providedServices : Nat := 0
  dependents : List String := []
  dependencies : List String := []
  sharedTypes : List String := []
  score : Int := 0
  hasData : Bool := true
  deriving DecidableEq, Repr, Inhabited

structure ImpactWeights where
  services : Int := 5
  dependents : Int := 10
  sharedTypes : Int := 1
  deriving DecidableEq, Repr

/-- Points for every service provided, every dependent and every shared type. -/
def Impact.scored (weights : ImpactWeights) (i : Impact) : Int :=
  weights.services * i.providedServices + weights.dependents * i.dependents.length +
    weights.sharedTypes * i.sharedTypes.length

structure Ecosystem where
  repos : List String
  impacts : List Impact
  edges : List Dependency
  services : OrderedMap String (List Service) := {}
  externalCalls : List (String × OutboundCall) := []
  missing : List String := []
  deriving Repr

/-- Evidence by the ends and the kind of a dependency, in the order of discovery. -/
abbrev Evidence := OrderedMap (String × String × DependencyKind) (List String)

/-- A repository does not depend on itself, and evidence counts once. -/
def Evidence.add (found : Evidence) (source target : String) (kind : DependencyKind)
    (text : String) : Evidence :=
  if source = target then found
  else found.update (source, target, kind) (fun texts =>
    let texts := texts.getD []
    if texts.contains text then texts else texts ++ [text])

/-- The services with their owners, in the order of the repositories that declare them. -/
def ownedServices (rules : OwnershipRules) (known : List String)
    (facts : List (String × TopologyFacts)) : Result (List Service) := do
  let owned ← facts.mapM (fun (repo, f) => f.services.mapM (fun s => do
    return { s with owner := ← ownerOf rules known repo s }))
  return owned.flatten

def servicesByOwner (services : List Service) : OrderedMap String (List Service) :=
  .groupedBy (·.owner) services

/-- A request with the repository that sends it and whoever answers it. -/
structure ResolvedCall where
  repo : String
  call : OutboundCall
  provider : Option Provider
  deriving Repr

def resolvedCalls (providers : OrderedMap String Provider)
    (facts : List (String × TopologyFacts)) : Result (List ResolvedCall) := do
  let calls ← facts.mapM (fun (repo, f) => f.outboundCalls.mapM (fun c => do
    return ResolvedCall.mk repo c (← matchProvider providers c.target)))
  return calls.flatten

def callEvidence (calls : List ResolvedCall) : Evidence :=
  calls.foldl
    (fun found c => match c.provider with
      | some p => found.add c.repo p.repo .call c.call.target
      | none => found) {}

/-- Flows between two repositories that are sure enough to count as contracts. -/
def contracts (floor : Int) (flows : List Types.FlowEdge) : List Types.FlowEdge :=
  flows.filter (fun f => floor ≤ f.confidence && f.sourceRepo ≠ f.targetRepo)

def contractEvidence (found : Evidence) (flows : List Types.FlowEdge) : Evidence :=
  flows.foldl (fun found f => found.add f.sourceRepo f.targetRepo .typeContract f.sourceType) found

/-- The types of a repository at either end of a contract. -/
def sharedTypesOf (flows : List Types.FlowEdge) (repo : String) : List String :=
  sortedSet (flows.flatMap (fun f =>
    (if f.sourceRepo = repo then [f.sourceType] else []) ++
      (if f.targetRepo = repo then [f.targetType] else [])))

def Dependency.before (a b : Dependency) : Bool :=
  a.source < b.source || (a.source == b.source &&
    (a.target < b.target || (a.target == b.target && decide (a.kind.text ≤ b.kind.text))))

/-- The dependencies by source, target and kind. -/
def dependenciesOf (found : Evidence) : List Dependency :=
  (found.entries.map (fun ((source, target, kind), texts) =>
    Dependency.mk source target kind texts)).mergeSort Dependency.before

/-- Higher scores first, equal scores by name. -/
def Impact.before (a b : Impact) : Bool :=
  b.score < a.score || (a.score == b.score && decide (a.repo ≤ b.repo))

def impactOf (weights : ImpactWeights) (edges : List Dependency)
    (services : OrderedMap String (List Service)) (flows : List Types.FlowEdge)
    (missing : List String) (repo : String) : Impact :=
  let found : Impact :=
    { repo,
      providedServices := ((services.get? repo).getD []).length,
      dependents := sortedSet ((edges.filter (·.target == repo)).map (·.source)),
      dependencies := sortedSet ((edges.filter (·.source == repo)).map (·.target)),
      sharedTypes := sharedTypesOf flows repo,
      hasData := !missing.contains repo }
  { found with score := found.scored weights }

/-- The graph of the services with their owners and the requests with their answers. -/
def Ecosystem.assemble (known missing : List String) (owned : List Service)
    (calls : List ResolvedCall) (flows : List Types.FlowEdge) (weights : ImpactWeights) :
    Ecosystem :=
  let services := servicesByOwner owned
  let edges := dependenciesOf (contractEvidence (callEvidence calls) flows)
  let repos := sortedSet
    (known ++ services.keys ++ edges.map (·.source) ++ edges.map (·.target))
  { repos, edges, services,
    impacts := (repos.map (impactOf weights edges services flows missing)).mergeSort Impact.before,
    externalCalls := (calls.filter (·.provider.isNone)).map (fun c => (c.repo, c.call)),
    missing := sortTexts missing }

/-- The graph of repositories with facts, those without, and all that these name. -/
def Ecosystem.build (facts : List (String × Option TopologyFacts))
    (flows : List Types.FlowEdge := []) (rules : OwnershipRules := {}) (floor : Int := 60)
    (weights : ImpactWeights := {}) : Result Ecosystem := do
  let known := facts.map (·.1)
  let missing := (facts.filter (·.2.isNone)).map (·.1)
  let present := facts.filterMap (fun (repo, f) => f.map (repo, ·))
  let owned ← ownedServices rules known present
  let calls ← resolvedCalls (providerIndex owned) present
  return assemble known missing owned calls (contracts floor flows) weights

namespace Ecosystem

def impact? (g : Ecosystem) (repo : String) : Option Impact :=
  g.impacts.find? (·.repo == repo)

def score (g : Ecosystem) (repo : String) : Int := ((g.impact? repo).map (·.score)).getD 0

/-- The outermost layer of the services that a repository provides. -/
def primaryLayer? (g : Ecosystem) (repo : String) : Option Layer :=
  let layers := ((g.services.get? repo).getD []).map (·.layer)
  Layer.all.find? layers.contains

/-- How alike a name must be to be offered instead of an unknown repository. -/
def nearEnough : Nat × Nat := (3, 10)

/-- A repository with those that depend on it. -/
def focus (g : Ecosystem) (repo : String) : Found Ecosystem :=
  match g.impact? repo with
  | none =>
    let near := Text.closeMatches NotFound.maxAlternatives nearEnough repo g.repos
    .error { kind := "repository", requested := repo,
             alternatives := NotFound.suggestions near g.repos }
  | some target =>
    let kept := repo :: target.dependents
    .ok { repos := sortedSet kept,
          impacts := g.impacts.filter (fun i => kept.contains i.repo),
          edges := g.edges.filter (fun e => e.target == repo && kept.contains e.source),
          services := ⟨g.services.entries.filter (fun s => kept.contains s.1)⟩,
          externalCalls := g.externalCalls.filter (·.1 == repo),
          missing := g.missing.filter kept.contains }

end Ecosystem

def Dependency.toDoc (e : Dependency) : Doc :=
  .object [("source", .text e.source), ("target", .text e.target), ("kind", .text e.kind.text),
    ("evidence", .ofTexts e.evidence)]

def Impact.toDoc (i : Impact) : Doc :=
  .object [("repo", .text i.repo), ("provided_services", .int i.providedServices),
    ("depended_on_by", .ofTexts i.dependents), ("depends_on", .ofTexts i.dependencies),
    ("shared_type_names", .ofTexts i.sharedTypes), ("impact_score", .int i.score),
    ("has_data", .bool i.hasData)]

/-- An external call with the repository that sends it, which is its first member. -/
def externalCallDoc (repo : String) (c : OutboundCall) : Doc :=
  .object (("repo", .text repo) :: (c.toDoc.members?.getD []))

def Ecosystem.toDoc (g : Ecosystem) : Doc :=
  .object [("repos", .ofTexts g.repos), ("impacts", .list (g.impacts.map Impact.toDoc)),
    ("edges", .list (g.edges.map Dependency.toDoc)),
    ("services", .object (g.services.entries.map (fun (repo, services) =>
      (repo, .list (services.map Service.toDoc))))),
    ("external_calls", .list (g.externalCalls.map (fun (repo, c) => externalCallDoc repo c))),
    ("missing_repos", .ofTexts g.missing)]

end RepoAtlas.Topology
