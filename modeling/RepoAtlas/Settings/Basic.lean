import RepoAtlas.Calls.Impact
import RepoAtlas.Topology.Ecosystem
import RepoAtlas.Types.Match

/-!
Settings: values by section and name. There is a default for everything that an analysis needs;
other sections and names are kept for later.
-/
namespace RepoAtlas

abbrev Section := OrderedMap String Doc

structure Settings where
  sections : OrderedMap String Section := {}
  deriving Repr, Inhabited

namespace Settings

def wholes (values : List (String × Int)) : Section := ⟨values.map (fun v => (v.1, .int v.2))⟩

def defaults : Settings where
  sections := ⟨[
    ("scoring", wholes [("name_weight", 50), ("kind_weight", 20), ("field_weight", 30),
      ("min_similarity", 50), ("contract_floor", 60)]),
    ("impact", wholes [("service_weight", 5), ("dependent_weight", 10),
      ("shared_type_weight", 1), ("medium_risk_at", 1), ("high_risk_at", 3),
      ("hotspot_degree", 10), ("max_depth", 5), ("max_nodes", 50), ("upstream_depth", 6),
      ("max_surfaces", 10)]),
    ("ownership", {}),
    ("image_rewrites", {})]⟩

/-- The settings with the values of a section laid over its own. -/
def overlay (s : Settings) (name : String) (values : List (String × Doc)) : Settings :=
  ⟨s.sections.update name (fun found => (found.getD {}).insertAll values)⟩

/-- The settings with the tables of a document laid over theirs; other members do not count. -/
def overlayAll (s : Settings) (tables : List (String × Doc)) : Settings :=
  tables.foldl
    (fun s t => match t.2 with
      | .object values => s.overlay t.1 values
      | _ => s) s

def section? (s : Settings) (name : String) : Section := (s.sections.get? name).getD {}

def value? (s : Settings) (name key : String) : Option Doc := (s.section? name).get? key

/-- A setting that must be a whole number. -/
def whole (s : Settings) (name key : String) : Result Int :=
  match (s.value? name key).bind Doc.whole? with
  | some i => .ok i
  | none => .error .wrongKind

/-- The least whole number that is not below a setting: a bound on counts from below. -/
def atLeast (s : Settings) (name key : String) : Result Int :=
  match s.value? name key with
  | some (.float (.finite negative m e)) => .ok (Binary64.finite negative m e).toRat.ceil
  | _ => s.whole name key

/-- The greatest whole number that is not above a setting. -/
def atMost (s : Settings) (name key : String) : Result Int :=
  match s.value? name key with
  | some (.float (.finite negative m e)) => .ok (Binary64.finite negative m e).toRat.floor
  | _ => s.whole name key

def similarityWeights (s : Settings) : Result Types.SimilarityWeights := do
  return { name := ← s.whole "scoring" "name_weight", kind := ← s.whole "scoring" "kind_weight",
           fields := ← s.whole "scoring" "field_weight" }

/-- The least whole number that lets the same scores pass as a setting does. A bound that is no
number lets all of them pass, and without scores nothing is asked of the setting but to be there. -/
def scoreBound (s : Settings) (key : String) (scores : List Int) : Result Int :=
  match s.value? "scoring" key with
  | some (.float .nan) | some (.float (.infinite true)) => .ok (scores.min?.getD 0)
  | some (.float (.infinite false)) => .ok (scores.max?.getD 0 + 1)
  | some _ => if scores.isEmpty then .ok 0 else s.atLeast "scoring" key
  | none => .error .wrongKind

def minSimilarity (s : Settings) (found : List Types.Match) : Result Int :=
  s.scoreBound "min_similarity" (found.map (·.score))

def contractFloor (s : Settings) (flows : List Types.FlowEdge) : Result Int :=
  s.scoreBound "contract_floor" (flows.map (·.confidence))

def impactWeights (s : Settings) : Result Topology.ImpactWeights := do
  return { services := ← s.whole "impact" "service_weight",
           dependents := ← s.whole "impact" "dependent_weight",
           sharedTypes := ← s.whole "impact" "shared_type_weight" }

def riskBands (s : Settings) : Result Calls.RiskBands := do
  return { mediumAt := ← s.atLeast "impact" "medium_risk_at",
           highAt := ← s.atLeast "impact" "high_risk_at" }

def hotspotDegree (s : Settings) : Result Int := s.atMost "impact" "hotspot_degree"

def ownershipRules (s : Settings) : Topology.OwnershipRules :=
  { explicit := (s.section? "ownership").entries, images := (s.section? "image_rewrites").entries }

theorem get?_overlay (s : Settings) (name other : String) (values : List (String × Doc)) :
    (s.overlay name values).sections.get? other =
      if other = name then some ((s.section? name).insertAll values)
      else s.sections.get? other := by
  simp [overlay, section?]

end Settings

end RepoAtlas
