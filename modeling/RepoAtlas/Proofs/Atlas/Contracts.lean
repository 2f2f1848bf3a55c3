import Mathlib.Logic.Relation
import RepoAtlas.Atlas.Queries
import RepoAtlas.Proofs.Record.TypedRecords
import RepoAtlas.Proofs.Settings.Bounds
import RepoAtlas.Proofs.Topology.Newcomer
import RepoAtlas.Proofs.Types.Precedence

/-!
The contracts of the ecosystem, from the loaded repositories to the dependencies of the graph. A
repository depends on those that are loaded after it and declare one of its types, so contracts
never go round in a circle.
-/
namespace RepoAtlas

open RepoAtlas.Types (Match Precedes)

/-- The repositories that are asked for, or all of a source, each once. -/
def SnapshotSource.order (source : SnapshotSource) (repos : List String) : List String :=
  distinct (if repos.isEmpty then source.repos else repos)

/-- A score that reaches both bounds of the settings. -/
def Settings.IsStrong (s : Settings) (score : Int) : Prop :=
  max (s.bound "min_similarity") (s.bound "contract_floor") ≤ (Doc.int score).bound

/-- For whole numbers, the score reaches the larger of the two. -/
theorem Settings.isStrong_iff {s : Settings} {least floor score : Int}
    (hleast : s.value? "scoring" "min_similarity" = some (.int least))
    (hfloor : s.value? "scoring" "contract_floor" = some (.int floor)) :
    s.IsStrong score ↔ max least floor ≤ score := by
  have hwhole : ∀ i : Int, (Doc.int i).bound ≤ (Doc.int score).bound ↔ i ≤ score :=
    fun _ => coe_le_score_iff.trans Rat.intCast_le_intCast
  rw [IsStrong, bound, hleast, bound, hfloor, max_le_iff, max_le_iff]
  exact and_congr (hwhole least) (hwhole floor)

namespace Topology.Ecosystem

/-- One repository depends on another by contract. -/
def ContractEdge (g : Ecosystem) (source target : String) : Prop :=
  ∃ e ∈ g.edges, e.kind = .typeContract ∧ e.source = source ∧ e.target = target

/-- The contracts follow from the strong matches, each from the repository that comes first. -/
structure HasContractsOf (g : Ecosystem) (order : List String) (strong : Match → Prop) : Prop where
  edges : ∀ source target, g.ContractEdge source target ↔
    Precedes order source target ∧ ∃ m, strong m ∧ source ∈ m.repos ∧ target ∈ m.repos
  evidence : ∀ e ∈ g.edges, e.kind = .typeContract → e.evidence.Nodup ∧
    ∀ text, text ∈ e.evidence ↔ ∃ m, strong m ∧ e.target ∈ m.repos ∧
      ∃ i ∈ m.instances, i.repo = e.source ∧ i.type.name = text
  acyclic : ∀ repo, ¬ Relation.TransGen g.ContractEdge repo repo
  oneWay : ∀ source target, g.ContractEdge source target → ¬ g.ContractEdge target source

variable {g : Ecosystem} {order : List String} {strong : Match → Prop}

/-- Along contracts the repositories come later and later. -/
theorem not_transGen_of_precedes (hnodup : order.Nodup)
    (hforward : ∀ source target, g.ContractEdge source target → Precedes order source target)
    (repo : String) : ¬ Relation.TransGen g.ContractEdge repo repo := by
  have hrank : ∀ source target, g.ContractEdge source target →
      order.idxOf source < order.idxOf target :=
    fun source target h => ((Types.precedes_iff_idxOf hnodup).1 (hforward source target h)).2
  intro hcircle
  have hlater := hcircle.lift order.idxOf hrank
  rw [Relation.transGen_eq_self] at hlater
  exact lt_irrefl _ hlater

/-- The contracts of a graph are told by their reasons. -/
theorem EdgesAccounted.hasContractsOf {flows : List Types.FlowEdge} {floor : Int}
    (haccounted : g.EdgesAccounted flows floor) (hnodup : order.Nodup)
    (hevident : ∀ source target text, g.Evident source target .typeContract text ↔
      Precedes order source target ∧ ∃ m, strong m ∧ target ∈ m.repos ∧
        ∃ i ∈ m.instances, i.repo = source ∧ i.type.name = text) :
    g.HasContractsOf order strong := by
  have hedges : ∀ source target, g.ContractEdge source target ↔
      Precedes order source target ∧ ∃ m, strong m ∧ source ∈ m.repos ∧ target ∈ m.repos := by
    intro source target
    constructor
    · rintro ⟨e, he, hkind, rfl, rfl⟩
      obtain ⟨text, htext⟩ := List.exists_mem_of_ne_nil _ (haccounted.reasons e he).1
      obtain ⟨hbefore, m, hm, htarget, i, hi, hsource, -⟩ :=
        (hevident _ _ text).1 ⟨e, he, rfl, rfl, hkind, htext⟩
      exact ⟨hbefore, m, hm, Types.mem_repos.2 ⟨i, hi, hsource⟩, htarget⟩
    · rintro ⟨hbefore, m, hm, hsource, htarget⟩
      obtain ⟨i, hi, hrepo⟩ := Types.mem_repos.1 hsource
      obtain ⟨e, he, hends, htarget', hkind, -⟩ :=
        (hevident source target i.type.name).2 ⟨hbefore, m, hm, htarget, i, hi, hrepo, rfl⟩
      exact ⟨e, he, hkind, hends, htarget'⟩
  have hforward : ∀ source target, g.ContractEdge source target → Precedes order source target :=
    fun source target h => ((hedges source target).1 h).1
  refine ⟨hedges, ?_, not_transGen_of_precedes hnodup hforward, ?_⟩
  · intro e he hkind
    refine ⟨(haccounted.reasons e he).2, fun text => ?_⟩
    have hbefore := hforward _ _ ⟨e, he, hkind, rfl, rfl⟩
    rw [haccounted.mem_evidence_iff he, hkind, hevident]
    exact and_iff_right hbefore
  · exact fun source target h hback => (hforward _ _ h).asymm hnodup (hforward _ _ hback)

end Topology.Ecosystem

namespace Atlas

variable {settings : Settings} {loaded : List (String × Option Snapshot)}
variable {types : List (String × List TypeDefinition)} {found : List Match}
variable {g : Topology.Ecosystem}

/-- Repositories with types stand in the order in which they were loaded. -/
theorem typesOf_sublist (h : typesOf loaded = .ok types) :
    (types.map (·.1)).Sublist (loaded.map (·.1)) := by
  rw [typesOf, bind_eq_ok_iff] at h
  obtain ⟨declared, hdeclared, htypes⟩ := h
  obtain rfl := pure_eq_ok_iff.1 htypes
  have hkeys : declared.map (·.1) = loaded.map (·.1) := by
    refine map_eq_of_mapM_eq_ok (fun x y hxy => ?_) hdeclared
    obtain ⟨repo, s⟩ := x
    cases s with
    | none => rw [← pure_eq_ok_iff.1 hxy]
    | some s =>
      obtain ⟨facts, -, hy⟩ := bind_eq_ok_iff.1 hxy
      rw [← pure_eq_ok_iff.1 hy]
  rw [← hkeys]
  exact Types.withData_sublist declared

/-- What flows between two repositories, in the order in which they were loaded. -/
theorem exists_flow_iff_loaded (hfound : matchesIn settings loaded = .ok found)
    (hnodup : (loaded.map (·.1)).Nodup) {floor : Int} {source target name : String}
    {p : Int → Prop} :
    (∃ f ∈ Types.flowEdges floor found, p f.confidence ∧ f.sourceRepo = source ∧
      f.targetRepo = target ∧ f.sourceType = name) ↔ Precedes (loaded.map (·.1)) source target ∧
        ∃ m ∈ found, (floor ≤ m.score ∧ p m.score) ∧ target ∈ m.repos ∧
          ∃ i ∈ m.instances, i.repo = source ∧ i.type.name = name := by
  rw [matchesIn, bind_eq_ok_iff] at hfound
  obtain ⟨types, htypes, hfound⟩ := hfound
  obtain ⟨w, -, hfound⟩ := bind_eq_ok_iff.1 hfound
  have hpart := typesOf_sublist htypes
  rw [Types.exists_flow_iff hfound (hnodup.sublist hpart), and_congr_left_iff]
  rintro ⟨m, hm, -, htarget, i, hi, rfl, -⟩
  obtain ⟨j, hj, rfl⟩ := Types.mem_repos.1 htarget
  rw [Types.instances_of_matchAcrossRepos hfound hm] at hi hj
  exact Types.precedes_of_sublist hpart hnodup
    (Types.repo_mem_of_mem_instancesOf (List.mem_filter.1 hi).1)
    (Types.repo_mem_of_mem_instancesOf (List.mem_filter.1 hj).1)

/-- The graph of the loaded repositories has the contracts of their strong matches. -/
theorem hasContractsOf_graphOf (h : graphOf settings loaded = .ok g)
    (hnodup : (loaded.map (·.1)).Nodup) : ∃ found, matchesIn settings loaded = .ok found ∧
      g.HasContractsOf (loaded.map (·.1)) (fun m => m ∈ found ∧ settings.IsStrong m.score) := by
  rw [graphOf, bind_eq_ok_iff] at h
  obtain ⟨found, hfound, h⟩ := h
  obtain ⟨floor, hfloor, h⟩ := bind_eq_ok_iff.1 h
  obtain ⟨facts, -, h⟩ := bind_eq_ok_iff.1 h
  obtain ⟨least, hleast, h⟩ := bind_eq_ok_iff.1 h
  obtain ⟨weights, -, h⟩ := bind_eq_ok_iff.1 h
  obtain ⟨owned, calls, -, -, hg⟩ := Topology.build_eq_ok_iff.1 h
  have haccounted : g.EdgesAccounted (Types.flowEdges floor found) least :=
    hg ▸ Topology.edgesAccounted_assemble least _
  have hcontract : ∀ f ∈ Types.flowEdges floor found, (Topology.IsContract least f ↔
      settings.bound "contract_floor" ≤ (Doc.int f.confidence).bound) := by
    intro f hf
    rw [← Settings.scoreBound_le_iff hleast (List.mem_map_of_mem hf)]
    exact and_iff_left (Types.apart_of_mem_flowEdges hf)
  refine ⟨found, hfound, haccounted.hasContractsOf hnodup fun source target text => ?_⟩
  have hflows := @exists_flow_iff_loaded settings loaded found hfound hnodup floor source target
    text (fun score => settings.bound "contract_floor" ≤ (Doc.int score).bound)
  rw [haccounted.contracts, exists_congr fun f => and_congr_right fun hf =>
    and_congr_left' (hcontract f hf), hflows]
  refine and_congr_right fun _ => exists_congr fun m => Iff.trans ?_ and_assoc.symm
  refine and_congr_right fun hm => and_congr_left' ?_
  rw [Settings.IsStrong, max_le_iff, ← Settings.scoreBound_le_iff hfloor (List.mem_map_of_mem hm)]

/-- The repositories are loaded in the order in which they are asked for. -/
theorem keys_of_snapshots {source : SnapshotSource} {repos : List String} {ref : String}
    (h : source.snapshots repos ref = .ok loaded) : loaded.map (·.1) = source.order repos := by
  rw [SnapshotSource.snapshots, bind_eq_ok_iff] at h
  obtain ⟨found, hfound, hloaded⟩ := h
  obtain rfl := pure_eq_ok_iff.1 hloaded
  have hkeys : found.map (·.1) = (if repos.isEmpty then source.repos else repos).map id := by
    refine map_eq_of_mapM_eq_ok (fun repo entry hentry => ?_) hfound
    obtain ⟨s, -, hs⟩ := bind_eq_ok_iff.1 hentry
    rw [← pure_eq_ok_iff.1 hs]
    rfl
  rw [SnapshotSource.order, ← List.map_id (if repos.isEmpty then source.repos else repos), ← hkeys]
  exact OrderedMap.keys_ofList found

/-- Without a focus the answer is the whole graph. -/
theorem run_ecosystemOf (source : SnapshotSource) (repos : List String) (ref : String) :
    (ecosystemOf settings source repos ref "").run = (do
      let graph ← graphOf settings (← source.snapshots repos ref)
      return .ok graph) := by
  rw [ecosystemOf]
  cases source.snapshots repos ref with
  | error fault => rfl
  | ok loaded =>
    change (ExceptT.bind (liftM (graphOf settings loaded)) _).run =
      (graphOf settings loaded >>= fun graph => pure (.ok graph))
    cases graphOf settings loaded <;> rfl

/-- Whatever the settings, the source and the repositories, the contracts of the graph are those
of the strong matches. -/
theorem contracts_of_ecosystemOf {source : SnapshotSource} {repos : List String} {ref : String}
    (h : (ecosystemOf settings source repos ref "").run = .ok (.ok g)) :
    ∃ loaded found, source.snapshots repos ref = .ok loaded ∧
      loaded.map (·.1) = source.order repos ∧ matchesIn settings loaded = .ok found ∧
      g.HasContractsOf (source.order repos)
        (fun m => m ∈ found ∧ settings.IsStrong m.score) := by
  rw [run_ecosystemOf, bind_eq_ok_iff] at h
  obtain ⟨loaded, hloaded, h⟩ := h
  obtain ⟨graph, hgraph, hg⟩ := bind_eq_ok_iff.1 h
  obtain rfl := Except.ok.inj (pure_eq_ok_iff.1 hg)
  have hkeys := keys_of_snapshots hloaded
  have hnodup : (loaded.map (·.1)).Nodup := hkeys ▸ nodup_distinct _
  obtain ⟨found, hfound, hcontracts⟩ := hasContractsOf_graphOf hgraph hnodup
  exact ⟨loaded, found, hloaded, hkeys, hfound, hkeys ▸ hcontracts⟩

/-! ### A shop and a bank -/

/-- A snapshot that offers users. -/
def userSnapshot (repo : String) : Snapshot :=
  { repo, ref := "main", capturedAt := default,
    facts := [(typeDomain, TypeFacts.toDoc { types := [Types.user] })] }

def traders : SnapshotSource where
  repos := ["shop", "bank"]
  latest := fun repo => .ok (some (userSnapshot repo))
  atRef := fun _ _ => .ok none

def loadedTraders : List (String × Option Snapshot) :=
  [("shop", some (userSnapshot "shop")), ("bank", some (userSnapshot "bank"))]

def sharedUser : Match :=
  { name := "user", instances := [⟨"shop", Types.user⟩, ⟨"bank", Types.user⟩], score := 100 }

theorem typeFacts?_userSnapshot (repo : String) :
    (userSnapshot repo).typeFacts? = .ok (some { types := [Types.user] }) := by
  have hpayload : (userSnapshot repo).payload? typeDomain =
      some (TypeFacts.toDoc { types := [Types.user] }) := rfl
  rw [Snapshot.typeFacts?, hpayload]
  exact congrArg (some <$> ·) (TypeFacts.ofDoc_toDoc { types := [Types.user] })

theorem matchesIn_loadedTraders : matchesIn .defaults loadedTraders = .ok [sharedUser] := by
  have htypes : typesOf loadedTraders = .ok [("shop", [Types.user]), ("bank", [Types.user])] := by
    simp [typesOf, loadedTraders, typeFacts?_userSnapshot, Types.withData, List.mapM_cons, bind,
      Except.bind, pure, Except.pure]
  have hweights : Settings.defaults.similarityWeights = .ok {} := rfl
  have hgroups : ((Types.groups (Types.instancesOf [("shop", [Types.user]),
      ("bank", [Types.user])])).entries.filter (fun g => Types.spansRepos g.2)) =
        [("user", sharedUser.instances)] := rfl
  have hscored : Types.scored {} ("user", sharedUser.instances) = .ok sharedUser :=
    Types.scored_eq_ok_iff.2 ⟨rfl, rfl, by decide +kernel⟩
  rw [matchesIn, htypes]
  simp only [hweights, bind, Except.bind]
  rw [Types.matchAcrossRepos_eq, hgroups, List.mapM_cons, hscored]
  exact congrArg Except.ok (List.mergeSort_singleton _)

/-- The shop depends on the bank by their users, and the bank not on the shop. -/
theorem contracts_of_traders :
    ∃ g, (ecosystemOf .defaults traders [] "" "").run = .ok (.ok g) ∧
      (∃ e ∈ g.edges, e.kind = .typeContract ∧ e.source = "shop" ∧ e.target = "bank" ∧
        "User" ∈ e.evidence) ∧ ¬ g.ContractEdge "bank" "shop" := by
  have hsnapshots : traders.snapshots [] "" = .ok loadedTraders := rfl
  obtain ⟨g, hgraph⟩ : ∃ g, graphOf .defaults loadedTraders = .ok g := by
    rw [graphOf, matchesIn_loadedTraders]
    exact ⟨_, rfl⟩
  have hg : (ecosystemOf .defaults traders [] "" "").run = .ok (.ok g) := by
    rw [run_ecosystemOf]
    exact bind_eq_ok_iff.2 ⟨_, hsnapshots, bind_eq_ok_iff.2 ⟨g, hgraph, rfl⟩⟩
  obtain ⟨loaded, found, hloaded, -, hfound, hcontracts⟩ := contracts_of_ecosystemOf hg
  obtain rfl := Except.ok.inj (hsnapshots.symm.trans hloaded)
  obtain rfl := Except.ok.inj (matchesIn_loadedTraders.symm.trans hfound)
  have hstrong : sharedUser ∈ [sharedUser] ∧ Settings.defaults.IsStrong sharedUser.score :=
    ⟨List.mem_singleton_self _,
      (@Settings.isStrong_iff .defaults 50 60 100 rfl rfl).2 (by decide)⟩
  have hbank : "bank" ∈ sharedUser.repos :=
    Types.mem_repos.2 ⟨_, List.mem_cons_of_mem _ List.mem_cons_self, rfl⟩
  have hshop : "shop" ∈ sharedUser.repos := Types.mem_repos.2 ⟨_, List.mem_cons_self, rfl⟩
  have hedge : g.ContractEdge "shop" "bank" := (hcontracts.edges "shop" "bank").2
    ⟨List.Sublist.refl _, sharedUser, hstrong, hshop, hbank⟩
  refine ⟨g, hg, ?_, hcontracts.oneWay _ _ hedge⟩
  obtain ⟨e, he, hkind, hsource, htarget⟩ := hedge
  refine ⟨e, he, hkind, hsource, htarget, ((hcontracts.evidence e he hkind).2 "User").2 ?_⟩
  rw [hsource, htarget]
  exact ⟨sharedUser, hstrong, hbank, _, List.mem_cons_self, rfl, rfl⟩

end Atlas

end RepoAtlas
