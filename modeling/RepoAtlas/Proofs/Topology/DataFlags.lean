import RepoAtlas.Proofs.Topology.Newcomer

/-!
Which repositories a graph marks as having data. A repository is in the graph because the mapping
has an entry for it, because a service is found to be its own, or because a contract ends there; it
is marked as having none only if its entry is empty. A repository without an entry is thus marked as
having data that nobody has.
-/
namespace RepoAtlas.Topology

/-- The mapping holds facts of the repository. -/
def HasFacts (facts : List (String × Option TopologyFacts)) (repo : String) : Prop :=
  ∃ f, (repo, some f) ∈ facts

/-- A service of the facts belongs to the repository, by a rule, an image or a name. -/
def OwnsService (rules : OwnershipRules) (facts : List (String × Option TopologyFacts))
    (repo : String) : Prop :=
  ∃ d ∈ declaredServices facts, ownerOf rules (facts.map (·.1)) d.1 d.2 = .ok repo

/-- A contract leads to or from the repository. -/
def EndsContract (flows : List Types.FlowEdge) (floor : Int) (repo : String) : Prop :=
  ∃ f ∈ flows, IsContract floor f ∧ (f.sourceRepo = repo ∨ f.targetRepo = repo)

/-- One row for each repository with an entry, a service or a contract. Data are missing where the
entry is empty, which is right exactly for the repositories that have an entry. -/
structure Ecosystem.MarksData (g : Ecosystem) (facts : List (String × Option TopologyFacts))
    (flows : List Types.FlowEdge) (rules : OwnershipRules) (floor : Int) : Prop where
  rows : (g.impacts.map (·.repo)).Perm g.repos
  repos : ∀ repo, repo ∈ g.repos ↔
    repo ∈ facts.map (·.1) ∨ OwnsService rules facts repo ∨ EndsContract flows floor repo
  missing : ∀ i ∈ g.impacts, i.hasData = false ↔ (i.repo, none) ∈ facts
  right_iff : ∀ i ∈ g.impacts,
    (i.hasData = true ↔ HasFacts facts i.repo) ↔ i.repo ∈ facts.map (·.1)
  all_right_iff : (∀ i ∈ g.impacts, i.hasData = true ↔ HasFacts facts i.repo) ↔
    ∀ repo, OwnsService rules facts repo ∨ EndsContract flows floor repo → repo ∈ facts.map (·.1)

section Entries

variable {facts : List (String × Option TopologyFacts)}

theorem HasFacts.mem_names {repo : String} (h : HasFacts facts repo) :
    repo ∈ facts.map (·.1) := by
  obtain ⟨f, hf⟩ := h
  exact List.mem_map_of_mem hf

/-- A repository has one entry, with facts or without. -/
theorem hasFacts_iff (hnodup : (facts.map (·.1)).Nodup) {repo : String} :
    HasFacts facts repo ↔ repo ∈ facts.map (·.1) ∧ (repo, none) ∉ facts := by
  constructor
  · rintro ⟨f, hf⟩
    refine ⟨List.mem_map_of_mem hf, fun hnone => ?_⟩
    obtain ⟨-, hsame⟩ := Prod.mk.inj (List.inj_on_of_nodup_map hnodup hf hnone rfl)
    cases hsame
  · rintro ⟨hmem, hnone⟩
    obtain ⟨⟨name, entry⟩, hentry, rfl⟩ := List.mem_map.1 hmem
    cases entry with
    | none => exact absurd hentry hnone
    | some f => exact ⟨f, hentry⟩

/-- Only facts send requests. -/
theorem mem_names_of_mem_sentCalls {c : String × OutboundCall} (h : c ∈ sentCalls facts) :
    c.1 ∈ facts.map (·.1) := by
  obtain ⟨entry, hentry, hc⟩ := List.mem_flatMap.1 h
  obtain ⟨call, -, rfl⟩ := List.mem_map.1 hc
  exact List.mem_map_of_mem hentry

end Entries

section Graph

variable {facts : List (String × Option TopologyFacts)} {flows : List Types.FlowEdge}
variable {rules : OwnershipRules} {floor : Int} {weights : ImpactWeights} {g : Ecosystem}
variable {owned : List Service} {calls : List ResolvedCall}

theorem ownsService_iff
    (howned : (declaredServices facts).mapM (own rules (facts.map (·.1))) = .ok owned)
    {repo : String} : OwnsService rules facts repo ↔ ∃ s ∈ owned, s.owner = repo := by
  constructor
  · rintro ⟨d, hd, howner⟩
    obtain ⟨s, hs, hown⟩ := exists_mem_of_mapM_eq_ok howned hd
    obtain ⟨owner, hsame, rfl⟩ := own_eq_ok_iff.1 hown
    rw [howner] at hsame
    exact ⟨_, hs, (Except.ok.inj hsame).symm⟩
  · rintro ⟨s, hs, rfl⟩
    obtain ⟨d, hd, hown⟩ := mem_of_mapM_eq_ok howned hs
    obtain ⟨owner, howner, rfl⟩ := own_eq_ok_iff.1 hown
    exact ⟨d, hd, howner⟩

/-- A dependency brings a repository into the graph only by a contract, since who sends a request
has an entry and who answers it owns a service. -/
theorem mem_repos_iff
    (howned : (declaredServices facts).mapM (own rules (facts.map (·.1))) = .ok owned)
    (hcalls : (sentCalls facts).mapM (resolve (providerIndex owned)) = .ok calls)
    (hg : g = Ecosystem.assemble (facts.map (·.1)) ((facts.filter (·.2.isNone)).map (·.1)) owned
      calls (contracts floor flows) weights) {repo : String} :
    repo ∈ g.repos ↔
      repo ∈ facts.map (·.1) ∨ OwnsService rules facts repo ∨ EndsContract flows floor repo := by
  have hreason : ∀ source target, (∃ e ∈ g.edges, e.source = source ∧ e.target = target) ↔
      source ≠ target ∧
        HasReason (providerIndex owned) (sentCalls facts) (contracts floor flows) source target :=
    fun _ _ => exists_edge_iff_hasReason hcalls hg
  have hall : repo ∈ g.repos ↔ repo ∈ facts.map (·.1) ∨ (∃ s ∈ owned, s.owner = repo) ∨
      ∃ e ∈ g.edges, e.source = repo ∨ e.target = repo := by
    rw [hg]
    exact mem_repos_assemble
  rw [hall, ownsService_iff howned]
  constructor
  · rintro (hentry | howner | ⟨e, he, hend⟩)
    · exact Or.inl hentry
    · exact Or.inr (Or.inl howner)
    · obtain ⟨-, hcall | hcontract⟩ := (hreason e.source e.target).1 ⟨e, he, rfl, rfl⟩
      · obtain ⟨c, hc, hsender, hanswer⟩ := hcall
        rcases hend with rfl | rfl
        · exact Or.inl (hsender ▸ mem_names_of_mem_sentCalls hc)
        · exact Or.inr (Or.inl (exists_owned_of_isAnsweredBy hanswer))
      · obtain ⟨f, hf, hsource, htarget⟩ := hcontract
        obtain ⟨hmem, hcontract⟩ := mem_contracts.1 hf
        refine Or.inr (Or.inr ⟨f, hmem, hcontract, ?_⟩)
        rwa [hsource, htarget]
  · rintro (hentry | howner | ⟨f, hf, hcontract, hend⟩)
    · exact Or.inl hentry
    · exact Or.inr (Or.inl howner)
    · obtain ⟨e, he, hsource, htarget⟩ := (hreason f.sourceRepo f.targetRepo).2
        ⟨hcontract.2, Or.inr ⟨f, mem_contracts.2 ⟨hf, hcontract⟩, rfl, rfl⟩⟩
      rw [← hsource, ← htarget] at hend
      exact Or.inr (Or.inr ⟨e, he, hend⟩)

end Graph

/-- In a graph that was built, a repository is marked as having data exactly if facts of it are
held, as long as the mapping has an entry for it. Every other repository of the graph, owner of a service
or end of a contract, is marked as having data, and none are held. -/
theorem marksData_of_build {facts : List (String × Option TopologyFacts)}
    {flows : List Types.FlowEdge} {rules : OwnershipRules} {floor : Int} {weights : ImpactWeights}
    {g : Ecosystem} (hnodup : (facts.map (·.1)).Nodup)
    (hbuild : Ecosystem.build facts flows rules floor weights = .ok g) :
    g.MarksData facts flows rules floor := by
  obtain ⟨owned, calls, howned, hcalls, hg⟩ := build_eq_ok_iff.1 hbuild
  have hrepos : ∀ repo, repo ∈ g.repos ↔
      repo ∈ facts.map (·.1) ∨ OwnsService rules facts repo ∨ EndsContract flows floor repo :=
    fun _ => mem_repos_iff howned hcalls hg
  have himpacts : g.ImpactsAccounted facts owned flows floor weights :=
    hg ▸ impactsAccounted_assemble facts flows floor
  have hmarked : ∀ i ∈ g.impacts, i.hasData = true ↔ (i.repo, none) ∉ facts :=
    fun i hi => (himpacts.each i hi).hasData
  have hright : ∀ i ∈ g.impacts,
      (i.hasData = true ↔ HasFacts facts i.repo) ↔ i.repo ∈ facts.map (·.1) := by
    intro i hi
    rw [hmarked i hi, hasFacts_iff hnodup]
    constructor
    · intro hsame
      by_contra hunknown
      exact hunknown (hsame.1 fun hnone => hunknown (List.mem_map_of_mem hnone)).1
    · intro hentry
      rw [and_iff_right hentry]
  refine ⟨himpacts.once, hrepos, ?_, hright, ?_⟩
  · intro i hi
    rw [← Bool.not_eq_true, hmarked i hi, not_not]
  · constructor
    · intro hall repo hnamed
      obtain ⟨i, hi, rfl⟩ := List.mem_map.1
        (himpacts.once.mem_iff.2 ((hrepos repo).2 (Or.inr hnamed)))
      exact (hright i hi).1 (hall i hi)
    · intro hknown i hi
      have hthere := himpacts.once.mem_iff.1 (List.mem_map_of_mem hi)
      exact (hright i hi).2 (((hrepos i.repo).1 hthere).elim id (hknown i.repo))

/-! ### An owner without an entry -/

/-- An infrastructure repository with one service, and a mill without facts. -/
def infraAndMill : List (String × Option TopologyFacts) :=
  [("infra", some (declaring ["ledger"])), ("mill", none)]

/-- The service belongs to the billing repository. -/
def billingRules : OwnershipRules := { explicit := [("ledger", .text "billing")] }

/-- The mill shares a type with the shop. -/
def millToShop : Types.FlowEdge := ⟨"mill", "Sack", "shop", "Sack", 80, []⟩

theorem own_infraAndMill :
    (declaredServices infraAndMill).mapM (own billingRules (infraAndMill.map (·.1))) =
      .ok [{ name := "ledger", layer := .backend, owner := "billing" }] := by
  rfl

/-- The mill is marked rightly, and the shop and the billing repository are not. -/
theorem marksData_of_build_infraAndMill : ∃ g,
    Ecosystem.build infraAndMill [millToShop] billingRules = .ok g ∧
      (∀ i ∈ g.impacts, i.repo = "mill" → i.hasData = false) ∧
      ¬ (∀ i ∈ g.impacts, i.hasData = true ↔ HasFacts infraAndMill i.repo) ∧
      "shop" ∈ g.repos ∧ "billing" ∈ g.repos := by
  obtain ⟨g, hbuild⟩ : ∃ g, Ecosystem.build infraAndMill [millToShop] billingRules = .ok g :=
    ⟨_, build_eq_ok_iff.2 ⟨_, _, own_infraAndMill, rfl, rfl⟩⟩
  have hmarks := marksData_of_build (by decide) hbuild
  have hbilling : OwnsService billingRules infraAndMill "billing" :=
    (ownsService_iff own_infraAndMill).2 ⟨_, List.mem_cons_self, rfl⟩
  have hshop : EndsContract [millToShop] 60 "shop" :=
    ⟨millToShop, List.mem_cons_self, ⟨by decide, by decide⟩, Or.inr rfl⟩
  refine ⟨g, hbuild, ?_, ?_, (hmarks.repos "shop").2 (Or.inr (Or.inr hshop)),
    (hmarks.repos "billing").2 (Or.inr (Or.inl hbilling))⟩
  · intro i hi hmill
    rw [hmarks.missing i hi, hmill]
    exact List.mem_cons_of_mem _ List.mem_cons_self
  · rw [hmarks.all_right_iff]
    intro hall
    exact absurd (hall "shop" (Or.inr hshop)) (by decide)

/-- The billing repository is in the graph, marked as having data, and none are held. -/
theorem exists_marked_without_facts : ∃ g i,
    Ecosystem.build infraAndMill [] billingRules = .ok g ∧ i ∈ g.impacts ∧ i.repo = "billing" ∧
      i.hasData = true ∧ ¬ HasFacts infraAndMill "billing" := by
  have hbilling := (ownsService_iff own_infraAndMill).2 ⟨_, List.mem_cons_self, rfl⟩
  obtain ⟨g, hg⟩ : ∃ g, g = Ecosystem.assemble ["infra", "mill"] ["mill"]
    [{ name := "ledger", layer := .backend, owner := "billing" }] [] (contracts 60 []) {} :=
    ⟨_, rfl⟩
  have hrow := impact?_assemble hg
    ((mem_repos_iff own_infraAndMill rfl hg).2 (Or.inr (Or.inl hbilling)))
  refine ⟨g, _, build_eq_ok_iff.2 ⟨_, _, own_infraAndMill, rfl, hg⟩,
    List.mem_of_find?_eq_some hrow, rfl, rfl, fun h => ?_⟩
  exact absurd h.mem_names (by decide)

end RepoAtlas.Topology
