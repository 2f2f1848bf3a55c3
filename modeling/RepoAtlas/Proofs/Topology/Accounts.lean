import Mathlib.Algebra.BigOperators.Group.Finset.Basic
import Mathlib.Algebra.Ring.Nat
import RepoAtlas.Proofs.Topology.Evidence
import RepoAtlas.Proofs.Topology.Ownership

/-!
The graph of the ecosystem accounts for every fact. Each request ends in one place, each service
belongs to one repository, and each dependency has its reasons and is seen from both of its ends.
-/
namespace RepoAtlas.Topology

/-- The text is a reason for the source to depend on the target. -/
def Ecosystem.Evident (g : Ecosystem) (source target : String) (kind : DependencyKind)
    (text : String) : Prop :=
  ∃ e ∈ g.edges, e.source = source ∧ e.target = target ∧ e.kind = kind ∧ text ∈ e.evidence

/-- A flow that is sure enough to count as a contract between two repositories. -/
def IsContract (floor : Int) (f : Types.FlowEdge) : Prop :=
  floor ≤ f.confidence ∧ f.sourceRepo ≠ f.targetRepo

/-- Requests without an answer are external, those that the sender answers itself leave no trace,
and all others are evidence of a dependency. -/
structure Ecosystem.CallsAccounted (g : Ecosystem) (owned : List Service)
    (calls : List (String × OutboundCall)) (answer : String → Option Provider) : Prop where
  answers : ∀ c ∈ calls, matchProvider (providerIndex owned) c.2.target = .ok (answer c.2.target)
  external : g.externalCalls = calls.filter (fun c => (answer c.2.target).isNone)
  evident : ∀ source target text, g.Evident source target .call text ↔
    source ≠ target ∧ ∃ c ∈ calls, c.1 = source ∧ c.2.target = text ∧
      ∃ p, answer text = some p ∧ p.repo = target
  place : ∀ c ∈ calls, match answer c.2.target with
    | none => c ∈ g.externalCalls ∧ ∀ owner, ¬ g.Evident c.1 owner .call c.2.target
    | some p => c ∉ g.externalCalls ∧
      ∀ owner, g.Evident c.1 owner .call c.2.target ↔ owner = p.repo ∧ p.repo ≠ c.1

/-- Dependencies join two repositories, once for each kind and for a reason; those by contract are
the flows that count as contracts. -/
structure Ecosystem.EdgesAccounted (g : Ecosystem) (flows : List Types.FlowEdge) (floor : Int) :
    Prop where
  ends : ∀ e ∈ g.edges, e.source ≠ e.target
  once : (g.edges.map (fun e => (e.source, e.target, e.kind))).Nodup
  reasons : ∀ e ∈ g.edges, e.evidence ≠ [] ∧ e.evidence.Nodup
  contracts : ∀ source target text, g.Evident source target .typeContract text ↔
    ∃ f ∈ flows, IsContract floor f ∧ f.sourceRepo = source ∧ f.targetRepo = target ∧
      f.sourceType = text

/-- Each declared service is listed once, under its owner. -/
structure Ecosystem.ServicesAccounted (g : Ecosystem) (rules : OwnershipRules) (known : List String)
    (declared : List (String × Service)) (owned : List Service) : Prop where
  resolved : List.Forall₂ (IsOwned rules known) declared owned
  once : g.services.values.flatten.Perm owned
  keys : g.services.keys.Nodup
  owners : ∀ owner services, (owner, services) ∈ g.services.entries ↔
    services = owned.filter (fun s => s.owner = owner) ∧ services ≠ []
  total : (g.impacts.map (·.providedServices)).sum = declared.length

/-- The impact of a repository is read off the services, the dependencies and the contracts. -/
structure Ecosystem.ImpactAccounted (g : Ecosystem) (facts : List (String × Option TopologyFacts))
    (owned : List Service) (flows : List Types.FlowEdge) (floor : Int) (weights : ImpactWeights)
    (i : Impact) : Prop where
  services : i.providedServices = (owned.filter (fun s => s.owner = i.repo)).length
  dependents : ∀ repo, repo ∈ i.dependents ↔ ∃ e ∈ g.edges, e.source = repo ∧ e.target = i.repo
  dependencies : ∀ repo, repo ∈ i.dependencies ↔
    ∃ e ∈ g.edges, e.source = i.repo ∧ e.target = repo
  sharedTypes : ∀ name, name ∈ i.sharedTypes ↔ ∃ f ∈ flows, IsContract floor f ∧
    (f.sourceRepo = i.repo ∧ f.sourceType = name ∨ f.targetRepo = i.repo ∧ f.targetType = name)
  distinct : i.dependents.Nodup ∧ i.dependencies.Nodup ∧ i.sharedTypes.Nodup
  score : i.score = i.scored weights
  hasData : i.hasData = true ↔ (i.repo, none) ∉ facts

/-- Each repository that is known, owns a service or is an end of a dependency has one impact. -/
structure Ecosystem.ImpactsAccounted (g : Ecosystem) (facts : List (String × Option TopologyFacts))
    (owned : List Service) (flows : List Types.FlowEdge) (floor : Int) (weights : ImpactWeights) :
    Prop where
  repos : ∀ repo, repo ∈ g.repos ↔ repo ∈ facts.map (·.1) ∨ (∃ s ∈ owned, s.owner = repo) ∨
    ∃ e ∈ g.edges, e.source = repo ∨ e.target = repo
  sorted : g.repos.Pairwise (· < ·)
  once : (g.impacts.map (·.repo)).Perm g.repos
  ranked : g.impacts.Pairwise (fun i j => j.score < i.score ∨ j.score = i.score ∧ i.repo < j.repo)
  each : ∀ i ∈ g.impacts, g.ImpactAccounted facts owned flows floor weights i
  missing : ∀ repo, repo ∈ g.missing ↔ (repo, none) ∈ facts
  bothWays : ∀ i ∈ g.impacts, ∀ j ∈ g.impacts, (i.repo ∈ j.dependents ↔ j.repo ∈ i.dependencies)

/-! ### Requests and contracts -/

theorem mem_contracts {floor : Int} {flows : List Types.FlowEdge} {f : Types.FlowEdge} :
    f ∈ contracts floor flows ↔ f ∈ flows ∧ IsContract floor f := by
  rw [contracts, List.mem_filter, IsContract, Bool.and_eq_true, decide_eq_true_iff,
    decide_eq_true_iff]

/-- The texts of a dependency are its reasons. -/
theorem Ecosystem.EdgesAccounted.mem_evidence_iff {g : Ecosystem} {flows : List Types.FlowEdge}
    {floor : Int} (h : g.EdgesAccounted flows floor) {e : Dependency} (he : e ∈ g.edges)
    {text : String} : text ∈ e.evidence ↔ g.Evident e.source e.target e.kind text := by
  constructor
  · exact fun htext => ⟨e, he, rfl, rfl, rfl, htext⟩
  · rintro ⟨other, hother, hsource, htarget, hkind, htext⟩
    have hkey : (other.source, other.target, other.kind) = (e.source, e.target, e.kind) := by
      rw [hsource, htarget, hkind]
    rwa [← List.inj_on_of_nodup_map h.once hother he hkey]

section Graph

variable {known missing : List String} {owned : List Service} {flows : List Types.FlowEdge}
variable {weights : ImpactWeights} {calls : List (String × OutboundCall)}
variable {answer : String → Option Provider}

/-- A dependency of either kind has its reasons from the clues of that kind. -/
theorem evident_assemble {resolved : List ResolvedCall} {source target : String}
    {kind : DependencyKind} {text : String} :
    (Ecosystem.assemble known missing owned resolved flows weights).Evident source target kind text ↔
      source ≠ target ∧ (⟨source, target, kind, text⟩ ∈ callClues resolved ∨
        ⟨source, target, kind, text⟩ ∈ contractClues flows) := by
  rw [← List.mem_append]
  exact (records_callsAndContracts resolved flows).evident_iff

theorem externalCalls_assemble :
    (Ecosystem.assemble known missing owned (withAnswers answer calls) flows
      weights).externalCalls = calls.filter (fun c => (answer c.2.target).isNone) := by
  rw [Ecosystem.assemble, withAnswers, List.filter_map, List.map_map]
  exact List.map_id' _

/-- The reasons by calls are the requests that another repository answers. -/
theorem evident_call_assemble {source target text : String} :
    (Ecosystem.assemble known missing owned (withAnswers answer calls) flows weights).Evident
      source target .call text ↔ source ≠ target ∧ ∃ c ∈ calls, c.1 = source ∧ c.2.target = text ∧
        ∃ p, answer text = some p ∧ p.repo = target := by
  rw [evident_assemble, mem_callClues, mem_contractClues, withAnswers]
  simp only [List.mem_map, exists_exists_and_eq_and, true_and, reduceCtorEq, false_and, or_false]
  refine and_congr_right fun _ => exists_congr fun c => and_congr_right fun _ =>
    and_congr_right fun _ => and_congr_right fun htext => ?_
  rw [htext]

theorem callsAccounted_assemble (hanswers : ∀ c ∈ calls,
      matchProvider (providerIndex owned) c.2.target = .ok (answer c.2.target)) :
    (Ecosystem.assemble known missing owned (withAnswers answer calls) flows
      weights).CallsAccounted owned calls answer := by
  refine ⟨hanswers, externalCalls_assemble, fun _ _ _ => evident_call_assemble, ?_⟩
  intro c hc
  rw [externalCalls_assemble, List.mem_filter]
  simp only [evident_call_assemble]
  split
  next hnone =>
    constructor
    · exact ⟨hc, by rw [hnone]; rfl⟩
    · rintro owner ⟨-, -, -, -, -, p, hp, -⟩
      rw [hnone] at hp
      cases hp
  next p hsome =>
    constructor
    · rintro ⟨-, h⟩
      rw [hsome] at h
      cases h
    · intro owner
      constructor
      · rintro ⟨hapart, -, -, -, -, q, hq, rfl⟩
        rw [hsome] at hq
        obtain rfl := Option.some.inj hq
        exact ⟨rfl, hapart.symm⟩
      · rintro ⟨rfl, hapart⟩
        exact ⟨hapart.symm, c, hc, rfl, rfl, p, hsome, rfl⟩

theorem edgesAccounted_assemble {resolved : List ResolvedCall} (floor : Int)
    (all : List Types.FlowEdge) :
    (Ecosystem.assemble known missing owned resolved (contracts floor all) weights).EdgesAccounted
      all floor where
  ends := fun _ he => (records_callsAndContracts resolved _).ends_ne he
  once := by
    have hordered := dependenciesOf_ordered (records_callsAndContracts resolved
      (contracts floor all)).keys
    refine List.pairwise_map.2 (hordered.imp ?_)
    intro a b hlt heq
    obtain ⟨hsource, hends⟩ := Prod.mk.inj heq
    obtain ⟨htarget, hkind⟩ := Prod.mk.inj hends
    rw [Dependency.rank, Dependency.rank, hsource, htarget, hkind] at hlt
    exact lt_irrefl _ hlt
  reasons := fun _ he => (records_callsAndContracts resolved _).texts_of_mem he
  contracts := by
    intro source target text
    rw [evident_assemble, mem_callClues, mem_contractClues]
    simp only [reduceCtorEq, false_and, false_or, true_and, mem_contracts]
    constructor
    · rintro ⟨-, f, ⟨hf, hcontract⟩, hends⟩
      exact ⟨f, hf, hcontract, hends⟩
    · rintro ⟨f, hf, hcontract, rfl, rfl, rfl⟩
      exact ⟨hcontract.2, f, ⟨hf, hcontract⟩, rfl, rfl, rfl⟩

/-! ### Services and impacts -/

/-- Each service counts for one of the repositories. -/
theorem sum_lengths_by_owner {repos : List String} (hnodup : repos.Nodup)
    (hall : ∀ s ∈ owned, s.owner ∈ repos) :
    (repos.map (fun repo => (owned.filter (fun s => s.owner = repo)).length)).sum =
      owned.length := by
  have hcount : ∀ repo, (owned.filter (fun s => s.owner = repo)).length =
      Multiset.count repo (owned.map (·.owner) : Multiset String) := by
    intro repo
    rw [Multiset.coe_count, List.count, List.countP_map, List.countP_eq_length_filter]
    rfl
  have hmem : ∀ repo ∈ (owned.map (·.owner) : Multiset String), repo ∈ repos.toFinset := by
    intro repo hrepo
    rw [Multiset.mem_coe, List.mem_map] at hrepo
    obtain ⟨s, hs, rfl⟩ := hrepo
    exact List.mem_toFinset.2 (hall s hs)
  simp only [hcount]
  rw [← List.sum_toFinset _ hnodup, Multiset.sum_count_eq_card hmem, Multiset.coe_card,
    List.length_map]

theorem mem_repos_assemble {resolved : List ResolvedCall} {repo : String} :
    repo ∈ (Ecosystem.assemble known missing owned resolved flows weights).repos ↔
      repo ∈ known ∨ (∃ s ∈ owned, s.owner = repo) ∨
        ∃ e ∈ (Ecosystem.assemble known missing owned resolved flows weights).edges,
          e.source = repo ∨ e.target = repo := by
  rw [Ecosystem.assemble, mem_sortedSet, servicesByOwner]
  simp only [List.mem_append, List.mem_map, OrderedMap.mem_keys_groupedBy, or_assoc, and_or_left,
    exists_or]

/-- The impacts are those of the repositories. -/
theorem impacts_assemble {resolved : List ResolvedCall} {g : Ecosystem}
    (hg : g = Ecosystem.assemble known missing owned resolved flows weights) :
    g.impacts = (g.repos.map (impactOf weights g.edges (servicesByOwner owned) flows
      missing)).mergeSort Impact.before := by
  rw [hg]
  rfl

theorem servicesAccounted_assemble {resolved : List ResolvedCall} {rules : OwnershipRules}
    {declared : List (String × Service)}
    (howned : List.Forall₂ (IsOwned rules known) declared owned) :
    (Ecosystem.assemble known missing owned resolved flows weights).ServicesAccounted rules known
      declared owned where
  resolved := howned
  once := OrderedMap.values_groupedBy_perm _ owned
  keys := OrderedMap.nodup_keys_groupedBy _ owned
  owners := fun _ _ => OrderedMap.mem_entries_groupedBy _
  total := by
    have hall : ∀ s ∈ owned, s.owner ∈
        (Ecosystem.assemble known missing owned resolved flows weights).repos :=
      fun s hs => mem_repos_assemble.2 (Or.inr (Or.inl ⟨s, hs, rfl⟩))
    rw [impacts_assemble rfl, ((List.mergeSort_perm _ _).map _).sum_eq, List.map_map,
      howned.length_eq, ← sum_lengths_by_owner (nodup_sortedSet _) hall]
    congr 1
    refine List.map_congr_left fun repo _ => ?_
    exact congrArg List.length (OrderedMap.getD_get?_groupedBy _ owned repo)

theorem Impact.before_iff (a b : Impact) :
    a.before b = true ↔ b.score < a.score ∨ a.score = b.score ∧ a.repo ≤ b.repo := by
  rw [before]
  simp only [Bool.or_eq_true, Bool.and_eq_true, decide_eq_true_eq, beq_iff_eq]

/-- Impacts of distinct repositories are strictly ranked. -/
theorem ranked_impacts {repos : List String} (hnodup : repos.Nodup) (impact : String → Impact)
    (himpact : ∀ repo, (impact repo).repo = repo) :
    (((repos.map impact).mergeSort Impact.before).map (·.repo)).Perm repos ∧
      ((repos.map impact).mergeSort Impact.before).Pairwise
        (fun i j => j.score < i.score ∨ j.score = i.score ∧ i.repo < j.repo) := by
  have hnames : (repos.map impact).map (·.repo) = repos := by
    rw [List.map_map]
    exact (List.map_congr_left fun repo _ => himpact repo).trans (List.map_id' _)
  constructor
  · have honce := (List.mergeSort_perm (repos.map impact) Impact.before).map (·.repo)
    rwa [hnames] at honce
  · exact ranked_mergeSort Impact.before_iff (hnames.symm ▸ hnodup)

theorem mem_missing {facts : List (String × Option TopologyFacts)} {repo : String} :
    repo ∈ (facts.filter (·.2.isNone)).map (·.1) ↔ (repo, none) ∈ facts := by
  simp only [List.mem_map, List.mem_filter, Option.isNone_iff_eq_none]
  constructor
  · rintro ⟨⟨name, f⟩, ⟨hf, rfl⟩, rfl⟩
    exact hf
  · exact fun h => ⟨_, ⟨h, rfl⟩, rfl⟩

theorem impactAccounted_impactOf {facts : List (String × Option TopologyFacts)}
    {all : List Types.FlowEdge} {floor : Int} {g : Ecosystem} (repo : String) :
    g.ImpactAccounted facts owned all floor weights
      (impactOf weights g.edges (servicesByOwner owned) (contracts floor all)
        ((facts.filter (·.2.isNone)).map (·.1)) repo) where
  services := congrArg List.length (OrderedMap.getD_get?_groupedBy _ owned repo)
  dependents := by
    intro other
    simp only [impactOf, mem_sortedSet, List.mem_map, List.mem_filter, beq_iff_eq]
    exact exists_congr fun e => by tauto
  dependencies := by
    intro other
    simp only [impactOf, mem_sortedSet, List.mem_map, List.mem_filter, beq_iff_eq]
    exact exists_congr fun e => by tauto
  sharedTypes := by
    intro name
    simp only [impactOf, sharedTypesOf, mem_sortedSet, List.mem_flatMap, mem_contracts,
      List.mem_append]
    refine exists_congr fun f => ?_
    rw [and_assoc]
    refine and_congr_right fun _ => and_congr_right fun _ => or_congr ?_ ?_
    · split <;> simp_all [eq_comm]
    · split <;> simp_all [eq_comm]
  distinct := ⟨nodup_sortedSet _, nodup_sortedSet _, nodup_sortedSet _⟩
  score := rfl
  hasData := by
    simp only [impactOf, Bool.not_eq_true', List.contains_eq_mem, decide_eq_false_iff_not,
      mem_missing]

theorem impactsAccounted_assemble {resolved : List ResolvedCall}
    (facts : List (String × Option TopologyFacts)) (all : List Types.FlowEdge) (floor : Int) :
    (Ecosystem.assemble (facts.map (·.1)) ((facts.filter (·.2.isNone)).map (·.1)) owned resolved
      (contracts floor all) weights).ImpactsAccounted facts owned all floor weights := by
  generalize hg : Ecosystem.assemble (facts.map (·.1)) ((facts.filter (·.2.isNone)).map (·.1)) owned
    resolved (contracts floor all) weights = g
  have hrepos : g.repos.Pairwise (· < ·) := by
    rw [← hg]
    exact pairwise_sortedSet _
  obtain ⟨honce, hranked⟩ := ranked_impacts hrepos.nodup (impactOf weights g.edges
    (servicesByOwner owned) (contracts floor all) ((facts.filter (·.2.isNone)).map (·.1)))
    (fun _ => rfl)
  rw [← impacts_assemble hg.symm] at honce hranked
  have heach : ∀ i ∈ g.impacts, g.ImpactAccounted facts owned all floor weights i := by
    intro i hi
    rw [impacts_assemble hg.symm, List.mem_mergeSort] at hi
    obtain ⟨repo, -, rfl⟩ := List.mem_map.1 hi
    exact impactAccounted_impactOf repo
  refine ⟨?_, hrepos, honce, hranked, heach, ?_, ?_⟩
  · intro repo
    rw [← hg]
    exact mem_repos_assemble
  · intro repo
    rw [← hg, ← mem_missing]
    exact mem_sortTexts
  · intro i hi j hj
    rw [(heach j hj).dependents, (heach i hi).dependencies]

end Graph

/-- Where the rules name repositories, images are texts and every target reads as one, there is a
graph of the ecosystem, and it accounts for every request, contract and service. -/
theorem build_accounts {facts : List (String × Option TopologyFacts)}
    {flows : List Types.FlowEdge} {rules : OwnershipRules} {floor : Int} {weights : ImpactWeights}
    (hrules : rules.IsPlain) (himages : ∀ d ∈ declaredServices facts, HasPlainImage d.2)
    (htargets : ∀ c ∈ sentCalls facts, ∃ t, Target.parse c.2.target = .ok t) :
    ∃ g owned answer, Ecosystem.build facts flows rules floor weights = .ok g ∧
      g.CallsAccounted owned (sentCalls facts) answer ∧
      g.EdgesAccounted flows floor ∧
      g.ServicesAccounted rules (facts.map (·.1)) (declaredServices facts) owned ∧
      g.ImpactsAccounted facts owned flows floor weights := by
  obtain ⟨owned, howned, hresolved⟩ := exists_ownedServices hrules himages (facts.map (·.1))
  obtain ⟨answer, hanswers, hcalls⟩ := exists_resolvedCalls (providerIndex owned) htargets
  refine ⟨_, owned, answer, ?_, callsAccounted_assemble hanswers,
    edgesAccounted_assemble floor flows, servicesAccounted_assemble hresolved,
    impactsAccounted_assemble facts flows floor⟩
  rw [Ecosystem.build]
  simp only [howned, hcalls, bind, Except.bind, pure, Except.pure]

/-- A shop that asks the bank, and a mill without facts. -/
def shopAndBank : List (String × Option TopologyFacts) :=
  [("shop", some { outboundCalls := [{ target := "bank-api" }] }),
    ("bank", some { services := [{ name := "bank-api", layer := .backend }] }), ("mill", none)]

/-- The shop depends on the bank, which owns the one service by its name. -/
theorem build_accounts_shopAndBank :
    ∃ g, Ecosystem.build shopAndBank = .ok g ∧ g.Evident "shop" "bank" .call "bank-api" ∧
      (g.impacts.map (·.providedServices)).sum = 1 ∧ "mill" ∈ g.missing := by
  have hplain : OwnershipRules.IsPlain {} := fun _ h => by cases h
  have himages : ∀ d ∈ declaredServices shopAndBank, HasPlainImage d.2 := by
    intro d hd
    obtain rfl := List.mem_singleton.1 hd
    exact Or.inl rfl
  have htargets : ∀ c ∈ sentCalls shopAndBank, ∃ t, Target.parse c.2.target = .ok t := by
    intro c hc
    obtain rfl := List.mem_singleton.1 hc
    exact ⟨{ text := "bank-api" }, by rfl⟩
  obtain ⟨g, owned, answer, hg, hcalls, -, hservices, himpacts⟩ :=
    @build_accounts shopAndBank [] {} 60 {} hplain himages htargets
  refine ⟨g, hg, ?_, hservices.total, (himpacts.missing "mill").2 (by simp [shopAndBank])⟩
  obtain ⟨s, rest, ⟨owner, howner, rfl⟩, hrest, rfl⟩ :=
    List.forall₂_cons_left_iff.1 hservices.resolved
  obtain rfl := List.forall₂_nil_left_iff.1 hrest
  have hbank : ownerOf {} (shopAndBank.map (·.1)) "bank" { name := "bank-api", layer := .backend } =
      .ok "bank" := by rfl
  rw [hbank] at howner
  obtain rfl := Except.ok.inj howner
  have hanswer := hcalls.answers ("shop", { target := "bank-api" }) List.mem_cons_self
  have hfound : matchProvider
      (providerIndex [{ name := "bank-api", layer := .backend, owner := "bank" }]) "bank-api" =
        .ok (some ⟨"bank-api", "bank", "bank-api", .backend⟩) := by rfl
  exact (hcalls.evident _ _ _).2 ⟨by decide, _, List.mem_cons_self, rfl, rfl, _,
    (Except.ok.inj (hfound.symm.trans hanswer)).symm, rfl⟩

end RepoAtlas.Topology
