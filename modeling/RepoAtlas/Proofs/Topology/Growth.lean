import RepoAtlas.Proofs.Topology.Newcomer

/-!
More facts make a larger ecosystem. One more request or one more flow of a type takes nothing away:
services keep their owners, and dependencies, their reasons and the scores only grow.
-/
namespace RepoAtlas.Topology

/-- The facts of a repository, with more requests among those that it sends. -/
structure SendsMore (f f' : TopologyFacts) : Prop where
  services : f'.services = f.services
  calls : f.outboundCalls ⊆ f'.outboundCalls

/-- The same repositories in the same order, and those with facts may send more. -/
def AllSendMore (facts facts' : List (String × Option TopologyFacts)) : Prop :=
  List.Forall₂ (fun p p' => p'.1 = p.1 ∧ Option.Rel SendsMore p.2 p'.2) facts facts'

/-- A repository keeps its services and all that joins it to others. -/
structure Impact.GrowsTo (i i' : Impact) : Prop where
  repo : i'.repo = i.repo
  services : i'.providedServices = i.providedServices
  dependents : i.dependents ⊆ i'.dependents
  dependencies : i.dependencies ⊆ i'.dependencies
  sharedTypes : i.sharedTypes ⊆ i'.sharedTypes
  score : i.score ≤ i'.score
  hasData : i'.hasData = i.hasData

/-- Nothing of the graph is lost, and the services are the same. -/
structure Ecosystem.GrowsTo (g g' : Ecosystem) : Prop where
  services : g'.services = g.services
  missing : g'.missing = g.missing
  repos : g.repos ⊆ g'.repos
  edges : ∀ e ∈ g.edges, ∃ e' ∈ g'.edges, e'.source = e.source ∧ e'.target = e.target ∧
    e'.kind = e.kind ∧ e.evidence ⊆ e'.evidence
  impacts : ∀ i ∈ g.impacts, ∃ i' ∈ g'.impacts, i.GrowsTo i'
  externalCalls : g.externalCalls ⊆ g'.externalCalls

/-! ### More requests -/

section Facts

variable {facts facts' : List (String × Option TopologyFacts)}

theorem SendsMore.refl (f : TopologyFacts) : SendsMore f f := ⟨rfl, fun _ h => h⟩

theorem AllSendMore.refl (facts : List (String × Option TopologyFacts)) :
    AllSendMore facts facts := by
  refine List.forall₂_same.2 fun p _ => ⟨rfl, ?_⟩
  cases p.2 with
  | none => exact .none
  | some f => exact .some (.refl f)

/-- A repository with facts sends one more request, at any place among the others. -/
theorem AllSendMore.insert {before after : List (String × Option TopologyFacts)} {repo : String}
    {f : TopologyFacts} {earlier later : List OutboundCall} (c : OutboundCall)
    (hcalls : f.outboundCalls = earlier ++ later) :
    AllSendMore (before ++ (repo, some f) :: after)
      (before ++ (repo, some { f with outboundCalls := earlier ++ c :: later }) :: after) := by
  have hmore : SendsMore f { f with outboundCalls := earlier ++ c :: later } := by
    refine ⟨rfl, ?_⟩
    rw [hcalls]
    exact ((List.Sublist.refl earlier).append (List.sublist_cons_self c later)).subset
  exact List.rel_append (AllSendMore.refl before)
    (.cons ⟨rfl, .some hmore⟩ (AllSendMore.refl after))

theorem AllSendMore.names (h : AllSendMore facts facts') : facts'.map (·.1) = facts.map (·.1) := by
  induction h with
  | nil => rfl
  | cons hfirst _ ih => rw [List.map_cons, List.map_cons, hfirst.1, ih]

theorem isNone_eq_of_rel {f f' : Option TopologyFacts} (h : Option.Rel SendsMore f f') :
    f'.isNone = f.isNone := by
  cases h <;> rfl

theorem map_services_eq_of_rel {f f' : Option TopologyFacts} (h : Option.Rel SendsMore f f') :
    f'.map (·.services) = f.map (·.services) := by
  cases h with
  | none => rfl
  | some hmore => exact congrArg some hmore.services

theorem calls_subset_of_rel {f f' : Option TopologyFacts} (h : Option.Rel SendsMore f f') :
    (f.map (·.outboundCalls)).getD [] ⊆ (f'.map (·.outboundCalls)).getD [] := by
  cases h with
  | none => exact fun _ hc => hc
  | some hmore => exact hmore.calls

theorem AllSendMore.missing (h : AllSendMore facts facts') :
    (facts'.filter (·.2.isNone)).map (·.1) = (facts.filter (·.2.isNone)).map (·.1) := by
  induction h with
  | nil => rfl
  | @cons p p' _ _ hfirst _ ih =>
    have hsame : p'.2.isNone = p.2.isNone := isNone_eq_of_rel hfirst.2
    rw [List.filter_cons, List.filter_cons, hsame]
    split
    · rw [List.map_cons, List.map_cons, hfirst.1, ih]
    · exact ih

theorem gathered_cons {α : Type} (part : TopologyFacts → List α)
    (p : String × Option TopologyFacts) (rest : List (String × Option TopologyFacts)) :
    gathered part (p :: rest) = ((p.2.map part).getD []).map (p.1, ·) ++ gathered part rest :=
  List.flatMap_cons

theorem AllSendMore.declaredServices (h : AllSendMore facts facts') :
    declaredServices facts' = declaredServices facts := by
  induction h with
  | nil => rfl
  | @cons p p' _ _ hfirst _ ih =>
    rw [Topology.declaredServices, Topology.declaredServices] at ih ⊢
    rw [gathered_cons, gathered_cons, map_services_eq_of_rel hfirst.2, hfirst.1, ih]

theorem AllSendMore.sentCalls (h : AllSendMore facts facts') :
    sentCalls facts ⊆ sentCalls facts' := by
  induction h with
  | nil => exact fun _ hc => hc
  | @cons p p' _ _ hfirst _ ih =>
    have hmore := List.map_subset (p.1, ·) (calls_subset_of_rel hfirst.2)
    rw [Topology.sentCalls, Topology.sentCalls] at ih ⊢
    rw [gathered_cons, gathered_cons, hfirst.1]
    exact List.append_subset.2 ⟨List.subset_append_of_subset_left _ hmore,
      List.subset_append_of_subset_right _ ih⟩

end Facts

/-! ### The larger graph -/

theorem Impact.scored_le {weights : ImpactWeights} (hdependents : 0 ≤ weights.dependents)
    (hshared : 0 ≤ weights.sharedTypes) {i i' : Impact}
    (hservices : i'.providedServices = i.providedServices)
    (hmore : i.dependents.length ≤ i'.dependents.length)
    (htypes : i.sharedTypes.length ≤ i'.sharedTypes.length) :
    i.scored weights ≤ i'.scored weights := by
  rw [scored, scored, hservices]
  have h₁ := Int.mul_le_mul_of_nonneg_left (Int.ofNat_le.2 hmore) hdependents
  have h₂ := Int.mul_le_mul_of_nonneg_left (Int.ofNat_le.2 htypes) hshared
  omega

section Graph

variable {known missing : List String} {owned : List Service} {calls calls' : List ResolvedCall}
variable {flows flows' : List Types.FlowEdge} {floor : Int} {weights : ImpactWeights}
variable {g g' : Ecosystem}

/-- What is a reason for a dependency stays one. -/
theorem Ecosystem.Evident.grow (hcalls : calls ⊆ calls') (hflows : flows ⊆ flows')
    {source target : String} {kind : DependencyKind} {text : String}
    (h : (Ecosystem.assemble known missing owned calls flows weights).Evident source target kind
      text) :
    (Ecosystem.assemble known missing owned calls' flows' weights).Evident source target kind
      text := by
  rw [evident_assemble] at h ⊢
  refine ⟨h.1, h.2.imp ?_ ?_⟩
  · rw [mem_callClues, mem_callClues]
    rintro ⟨hkind, c, hc, hclue⟩
    exact ⟨hkind, c, hcalls hc, hclue⟩
  · rw [mem_contractClues, mem_contractClues]
    rintro ⟨hkind, f, hf, hclue⟩
    exact ⟨hkind, f, hflows hf, hclue⟩

/-- A dependency has all its reasons in the graph where each of them is one. -/
theorem Ecosystem.EdgesAccounted.exists_edge (h : g.EdgesAccounted flows floor)
    (h' : g'.EdgesAccounted flows' floor)
    (hgrow : ∀ source target kind text, g.Evident source target kind text →
      g'.Evident source target kind text) {e : Dependency} (he : e ∈ g.edges) :
    ∃ e' ∈ g'.edges, e'.source = e.source ∧ e'.target = e.target ∧ e'.kind = e.kind ∧
      e.evidence ⊆ e'.evidence := by
  obtain ⟨first, hfirst⟩ := List.exists_mem_of_ne_nil _ (h.reasons e he).1
  obtain ⟨e', he', hsource, htarget, hkind, -⟩ := hgrow _ _ _ _ ⟨e, he, rfl, rfl, rfl, hfirst⟩
  refine ⟨e', he', hsource, htarget, hkind, fun text htext => ?_⟩
  rw [h'.mem_evidence_iff he', hsource, htarget, hkind]
  exact hgrow _ _ _ _ ⟨e, he, rfl, rfl, rfl, htext⟩

/-- An impact is at least what it was if no dependency has gone and no flow. -/
theorem Ecosystem.ImpactAccounted.growsTo {facts : List (String × Option TopologyFacts)}
    {i i' : Impact} (h : g.ImpactAccounted facts owned flows floor weights i)
    (h' : g'.ImpactAccounted facts owned flows' floor weights i') (hrepo : i'.repo = i.repo)
    (hdependents : 0 ≤ weights.dependents) (hshared : 0 ≤ weights.sharedTypes)
    (hedges : ∀ e ∈ g.edges, ∃ e' ∈ g'.edges, e'.source = e.source ∧ e'.target = e.target)
    (hflows : flows ⊆ flows') : i.GrowsTo i' := by
  have hservices : i'.providedServices = i.providedServices := by
    rw [h'.services, h.services, hrepo]
  have hmore : i.dependents ⊆ i'.dependents := by
    intro repo hmem
    obtain ⟨e, he, rfl, htarget⟩ := (h.dependents repo).1 hmem
    obtain ⟨e', he', hsource, hends⟩ := hedges e he
    exact (h'.dependents _).2 ⟨e', he', hsource, by rw [hends, htarget, hrepo]⟩
  have hasks : i.dependencies ⊆ i'.dependencies := by
    intro repo hmem
    obtain ⟨e, he, hsource, rfl⟩ := (h.dependencies repo).1 hmem
    obtain ⟨e', he', hends, htarget⟩ := hedges e he
    exact (h'.dependencies _).2 ⟨e', he', by rw [hends, hsource, hrepo], htarget⟩
  have htypes : i.sharedTypes ⊆ i'.sharedTypes := by
    intro name hmem
    obtain ⟨f, hf, hends⟩ := (h.sharedTypes name).1 hmem
    exact (h'.sharedTypes name).2 ⟨f, hflows hf, by rwa [hrepo]⟩
  refine ⟨hrepo, hservices, hmore, hasks, htypes, ?_, ?_⟩
  · rw [h.score, h'.score]
    exact Impact.scored_le hdependents hshared hservices
      (h.distinct.1.subperm hmore).length_le (h.distinct.2.2.subperm htypes).length_le
  · rw [Bool.eq_iff_iff, h'.hasData, h.hasData, hrepo]

/-- Answered requests of fewer senders are among those of all. -/
theorem resolved_subset {providers : OrderedMap String Provider}
    {sent sent' : List (String × OutboundCall)} (hsent : sent ⊆ sent')
    (hcalls : sent.mapM (resolve providers) = .ok calls)
    (hcalls' : sent'.mapM (resolve providers) = .ok calls') : calls ⊆ calls' := by
  intro r hr
  obtain ⟨c, hc, hresolved⟩ := mem_of_mapM_eq_ok hcalls hr
  obtain ⟨r', hr', hresolved'⟩ := exists_mem_of_mapM_eq_ok hcalls' (hsent hc)
  rw [hresolved] at hresolved'
  rwa [Except.ok.inj hresolved']

theorem contracts_subset (floor : Int) (h : flows ⊆ flows') :
    contracts floor flows ⊆ contracts floor flows' :=
  List.filter_subset _ h

/-- The graph of more requests and more flows. -/
theorem growsTo_assemble {facts : List (String × Option TopologyFacts)}
    (hdependents : 0 ≤ weights.dependents) (hshared : 0 ≤ weights.sharedTypes)
    (hcalls : calls ⊆ calls') (hflows : flows ⊆ flows')
    (hg : g = Ecosystem.assemble (facts.map (·.1)) ((facts.filter (·.2.isNone)).map (·.1)) owned
      calls (contracts floor flows) weights)
    (hg' : g' = Ecosystem.assemble (facts.map (·.1)) ((facts.filter (·.2.isNone)).map (·.1)) owned
      calls' (contracts floor flows') weights) : g.GrowsTo g' := by
  have hevident : ∀ source target kind text, g.Evident source target kind text →
      g'.Evident source target kind text := by
    intro source target kind text h
    rw [hg] at h
    rw [hg']
    exact h.grow hcalls (contracts_subset floor hflows)
  have hedges : g.EdgesAccounted flows floor := hg ▸ edgesAccounted_assemble floor flows
  have hedges' : g'.EdgesAccounted flows' floor := hg' ▸ edgesAccounted_assemble floor flows'
  have himpacts : g.ImpactsAccounted facts owned flows floor weights :=
    hg ▸ impactsAccounted_assemble facts flows floor
  have himpacts' : g'.ImpactsAccounted facts owned flows' floor weights :=
    hg' ▸ impactsAccounted_assemble facts flows' floor
  have hkept : ∀ e ∈ g.edges, ∃ e' ∈ g'.edges, e'.source = e.source ∧ e'.target = e.target ∧
      e'.kind = e.kind ∧ e.evidence ⊆ e'.evidence :=
    fun e he => hedges.exists_edge hedges' hevident he
  have hends : ∀ e ∈ g.edges, ∃ e' ∈ g'.edges, e'.source = e.source ∧ e'.target = e.target := by
    intro e he
    obtain ⟨e', he', hsource, htarget, -⟩ := hkept e he
    exact ⟨e', he', hsource, htarget⟩
  have hrepos : g.repos ⊆ g'.repos := by
    intro repo hrepo
    refine (himpacts'.repos repo).2 (((himpacts.repos repo).1 hrepo).imp_right (Or.imp_right ?_))
    rintro ⟨e, he, hend⟩
    obtain ⟨e', he', hsource, htarget⟩ := hends e he
    exact ⟨e', he', by rwa [hsource, htarget]⟩
  refine ⟨by rw [hg, hg']; rfl, by rw [hg, hg']; rfl, hrepos, hkept, ?_, ?_⟩
  · intro i hi
    have hrepo := hrepos (himpacts.once.mem_iff.1 (List.mem_map_of_mem hi))
    obtain ⟨i', hi', hname⟩ := List.mem_map.1 (himpacts'.once.mem_iff.2 hrepo)
    exact ⟨i', hi', (himpacts.each i hi).growsTo (himpacts'.each i' hi') hname hdependents hshared
      hends hflows⟩
  · rw [hg, hg', Ecosystem.assemble, Ecosystem.assemble]
    exact List.map_subset _ (List.filter_subset _ hcalls)

end Graph

/-- With more requests and more flows, the graph grows, and there is one if there was one before. -/
theorem build_growsTo {facts facts' : List (String × Option TopologyFacts)}
    {flows flows' : List Types.FlowEdge} {rules : OwnershipRules} {floor : Int}
    {weights : ImpactWeights} (hfacts : AllSendMore facts facts') (hflows : flows ⊆ flows')
    (htargets : ∀ c ∈ sentCalls facts', ∃ t, Target.parse c.2.target = .ok t)
    (hdependents : 0 ≤ weights.dependents) (hshared : 0 ≤ weights.sharedTypes) :
    (rules.IsPlain → (∀ d ∈ declaredServices facts, HasPlainImage d.2) →
      ∃ g, Ecosystem.build facts flows rules floor weights = .ok g) ∧
    ∀ g, Ecosystem.build facts flows rules floor weights = .ok g →
      ∃ g', Ecosystem.build facts' flows' rules floor weights = .ok g' ∧ g.GrowsTo g' := by
  constructor
  · intro hrules himages
    exact exists_build hrules himages fun c hc => htargets c (hfacts.sentCalls hc)
  · intro g hbuild
    obtain ⟨owned, calls, howned, hcalls, hg⟩ := build_eq_ok_iff.1 hbuild
    obtain ⟨answer, -, hcalls'⟩ := exists_resolvedCalls (providerIndex owned) htargets
    rw [resolvedCalls_eq] at hcalls'
    refine ⟨_, build_eq_ok_iff.2 ⟨owned, _, ?_, hcalls', rfl⟩, ?_⟩
    · rw [hfacts.declaredServices, hfacts.names]
      exact howned
    · refine growsTo_assemble hdependents hshared
        (resolved_subset hfacts.sentCalls hcalls hcalls') hflows hg ?_
      rw [hfacts.names, hfacts.missing]

/-- The shop sends a second request ahead of its first, and shares a type with an unknown mint. -/
theorem build_growsTo_shopAndBank :
    ∃ g g', Ecosystem.build shopAndBank = .ok g ∧
      Ecosystem.build (("shop", some { outboundCalls := [{ target := "http://bank/v1" },
          { target := "bank-api" }] }) :: shopAndBank.tail)
        [⟨"shop", "Coin", "mint", "Coin", 90, []⟩] = .ok g' ∧ g.GrowsTo g' := by
  have hmore : AllSendMore shopAndBank (("shop", some { outboundCalls :=
      [{ target := "http://bank/v1" }, { target := "bank-api" }] }) :: shopAndBank.tail) :=
    @AllSendMore.insert [] shopAndBank.tail "shop" { outboundCalls := [{ target := "bank-api" }] }
      [] [{ target := "bank-api" }] { target := "http://bank/v1" } rfl
  have htargets : ∀ c ∈ [("shop", ({ target := "http://bank/v1" } : OutboundCall)),
      ("shop", { target := "bank-api" })], ∃ t, Target.parse c.2.target = .ok t := by
    intro c hc
    rcases List.mem_cons.1 hc with rfl | hc
    · exact ⟨⟨"http://bank/v1", "bank", "/v1"⟩, by rfl⟩
    · obtain rfl := List.mem_singleton.1 hc
      exact ⟨{ text := "bank-api" }, by rfl⟩
  have himages : ∀ d ∈ declaredServices shopAndBank, HasPlainImage d.2 := by
    intro d hd
    obtain rfl := List.mem_singleton.1 hd
    exact Or.inl rfl
  obtain ⟨hexists, hgrows⟩ := @build_growsTo _ _ [] [⟨"shop", "Coin", "mint", "Coin", 90, []⟩] {}
    60 {} hmore (List.nil_subset _) htargets (by decide) (by decide)
  obtain ⟨g, hg⟩ := hexists (fun _ h => by cases h) himages
  obtain ⟨g', hg', hgrow⟩ := hgrows g hg
  exact ⟨g, g', hg, hg', hgrow⟩

end RepoAtlas.Topology
