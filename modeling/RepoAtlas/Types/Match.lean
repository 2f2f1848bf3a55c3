import RepoAtlas.Types.Similarity

/-!
Types declared under one normalized name in several repositories are candidate contracts. A
group is scored by the mean similarity of its pairs across repositories, and strong groups
become directed flow edges.
-/
namespace RepoAtlas.Types

-- The zero of a sum stays that of the core library, whatever imports this file.
attribute [local instance (high)] Zero.ofOfNat0

structure Instance where
  repo : String
  type : TypeDefinition
  deriving Repr, Inhabited

structure Match where
  name : String
  instances : List Instance
  score : Int
  deriving Repr, Inhabited

structure FlowEdge where
  sourceRepo : String
  sourceType : String
  targetRepo : String
  targetType : String
  confidence : Int
  sharedFields : List String := []
  deriving Repr, DecidableEq, Inhabited

/-- Each pair of different places once, earlier item first. -/
def pairs {α : Type} : List α → List (α × α)
  | [] => []
  | x :: rest => rest.map (x, ·) ++ pairs rest

/-- The pairs that join two repositories. -/
def crossPairs (instances : List Instance) : List (Instance × Instance) :=
  (pairs instances).filter (fun p => p.1.repo ≠ p.2.repo)

/-- Repositories with their types, without those that have no type data. -/
def withData (types : List (String × Option (List TypeDefinition))) :
    List (String × List TypeDefinition) :=
  types.filterMap (fun (repo, found) => found.map (repo, ·))

def instancesOf (types : List (String × List TypeDefinition)) : List Instance :=
  types.flatMap (fun (repo, ts) => ts.map (Instance.mk repo))

def groups (instances : List Instance) : OrderedMap String (List Instance) :=
  .groupedBy (fun i => normalized i.type.name) instances

def groupScore (weights : SimilarityWeights) (instances : List Instance) : Result Int := do
  let scores ← (crossPairs instances).mapM (fun p => similarity weights p.1.type p.2.type)
  if scores.isEmpty then return 0
  else return roundHalfUp (nearest ((scores.sum : Rat) / (scores.length : Nat)))

def spansRepos (instances : List Instance) : Bool :=
  2 ≤ (distinct (instances.map (·.repo))).length

/-- Higher scores first, equal scores by name. -/
def Match.before (a b : Match) : Bool :=
  a.score > b.score || (a.score == b.score && a.name ≤ b.name)

def matchAcrossRepos (weights : SimilarityWeights) (types : List (String × List TypeDefinition)) :
    Result (List Match) := do
  let found := (groups (instancesOf types)).entries.filter (fun g => spansRepos g.2)
  let scored ← found.mapM (fun (name, instances) => do
    return ⟨name, instances, ← groupScore weights instances⟩)
  return scored.mergeSort Match.before

def Match.repos (m : Match) : List String := sortedSet (m.instances.map (·.repo))

def FlowEdge.ofPair (confidence : Int) (left right : Instance) : FlowEdge :=
  let rightFields := fieldNames right.type
  { sourceRepo := left.repo, sourceType := left.type.name,
    targetRepo := right.repo, targetType := right.type.name, confidence,
    sharedFields := sortTexts ((fieldNames left.type).filter rightFields.contains) }

/-- One edge per cross-repository pair of each group that is similar enough. -/
def flowEdges (minSimilarity : Int) (found : List Match) : List FlowEdge :=
  (found.filter (fun m => minSimilarity ≤ m.score)).flatMap (fun m =>
    (crossPairs m.instances).map (fun p => FlowEdge.ofPair m.score p.1 p.2))

def Instance.summary (i : Instance) : Doc :=
  .object [("repo", .text i.repo), ("name", .text i.type.name), ("kind", .text i.type.kind.text),
    ("file", .text i.type.file), ("line", .int i.type.line),
    ("fields", .ofTexts (i.type.fields.map (·.name)))]

def Match.toDoc (m : Match) : Doc :=
  .object [("normalized_name", .text m.name), ("similarity_score", .int m.score),
    ("repos", .ofTexts m.repos), ("instances", .list (m.instances.map Instance.summary))]

def FlowEdge.toDoc (e : FlowEdge) : Doc :=
  .object [("from_repo", .text e.sourceRepo), ("from_type", .text e.sourceType),
    ("to_repo", .text e.targetRepo), ("to_type", .text e.targetType),
    ("confidence", .int e.confidence), ("shared_fields", .ofTexts e.sharedFields)]

end RepoAtlas.Types
