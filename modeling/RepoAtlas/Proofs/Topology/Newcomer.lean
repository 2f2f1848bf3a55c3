import RepoAtlas.Proofs.Topology.Accounts
import RepoAtlas.Proofs.Topology.Ceding

/-!
A newcomer without services joins the ecosystem and asks a repository for one. The repository gains
a dependent, and loses the services that are the newcomer's once its name is known, with those that
depended on them. Each is worth its points, and nothing else changes the score.
-/
namespace RepoAtlas.Topology

/-- In the ecosystem of the facts, the repository owns the service that answers the target. -/
def AnswersIn (rules : OwnershipRules) (facts : List (String × Option TopologyFacts))
    (target repo : String) : Prop :=
  ∃ owned, ownedServices rules (facts.map (·.1))
      (facts.filterMap (fun (repo, f) => f.map (repo, ·))) = .ok owned ∧
    IsAnsweredBy (providerIndex owned) target repo

/-- What becomes of an impact when a newcomer comes to depend on the repository, which cedes some
of its services to it. -/
structure Impact.Gains (i i' : Impact) (newcomer : String) (ceded : List (String × Service)) :
    Prop where
  named : ∀ d ∈ ceded, IsNamedAfter newcomer d.2
  services : i'.providedServices + ceded.length = i.providedServices
  dependents : newcomer ∈ i'.dependents ∧ ∀ d ∈ i'.dependents, d = newcomer ∨ d ∈ i.dependents
  sharedTypes : i'.sharedTypes = i.sharedTypes
  score : i'.score = i.score + 10 - 5 * ceded.length -
    10 * (i.dependents.filter (· ∉ i'.dependents)).length
  rises : i.score < i'.score ↔ ceded.length ≤ 1 ∧ ∀ d ∈ i.dependents, d ∈ i'.dependents
  untouched : ceded = [] → i'.score = i.score + 10

/-! ### Dependents and services of a graph -/

section Graph

variable {facts : List (String × Option TopologyFacts)} {flows : List Types.FlowEdge}
variable {rules : OwnershipRules} {floor : Int} {weights : ImpactWeights} {g : Ecosystem}
variable {known missing : List String} {owned : List Service} {calls : List ResolvedCall}

/-- There is a graph if every service has an owner and every target reads as one. -/
theorem build_eq_ok_iff : Ecosystem.build facts flows rules floor weights = .ok g ↔
    ∃ owned calls, (declaredServices facts).mapM (own rules (facts.map (·.1))) = .ok owned ∧
      (sentCalls facts).mapM (resolve (providerIndex owned)) = .ok calls ∧
      g = Ecosystem.assemble (facts.map (·.1)) ((facts.filter (·.2.isNone)).map (·.1)) owned calls
        (contracts floor flows) weights := by
  rw [Ecosystem.build]
  simp only [ownedServices_eq, resolvedCalls_eq, bind_eq_ok_iff, pure_eq_ok_iff]
  constructor
  · rintro ⟨owned, howned, calls, hcalls, rfl⟩
    exact ⟨owned, calls, howned, hcalls, rfl⟩
  · rintro ⟨owned, calls, howned, hcalls, rfl⟩
    exact ⟨owned, howned, calls, hcalls, rfl⟩

/-- There is a graph if the rules name repositories, images are texts and every target reads as
one. -/
theorem exists_build (hrules : rules.IsPlain)
    (himages : ∀ d ∈ declaredServices facts, HasPlainImage d.2)
    (htargets : ∀ c ∈ sentCalls facts, ∃ t, Target.parse c.2.target = .ok t) :
    ∃ g, Ecosystem.build facts flows rules floor weights = .ok g := by
  obtain ⟨owned, howned, -⟩ := exists_ownedServices hrules himages (facts.map (·.1))
  obtain ⟨answer, -, hcalls⟩ := exists_resolvedCalls (providerIndex owned) htargets
  rw [ownedServices_eq] at howned
  rw [resolvedCalls_eq] at hcalls
  exact ⟨_, build_eq_ok_iff.2 ⟨owned, _, howned, hcalls, rfl⟩⟩

/-- A repository of the graph is ranked by its own impact. -/
theorem impact?_assemble {repo : String}
    (hg : g = Ecosystem.assemble known missing owned calls flows weights) (hrepo : repo ∈ g.repos) :
    g.impact? repo =
      some (impactOf weights g.edges (servicesByOwner owned) flows missing repo) := by
  have hmem : impactOf weights g.edges (servicesByOwner owned) flows missing repo ∈ g.impacts := by
    rw [impacts_assemble hg, List.mem_mergeSort]
    exact List.mem_map_of_mem hrepo
  rw [Ecosystem.impact?]
  cases hfind : g.impacts.find? (·.repo == repo) with
  | none => exact absurd (beq_self_eq_true repo) (List.find?_eq_none.1 hfind _ hmem)
  | some i =>
    have hi := List.mem_of_find?_eq_some hfind
    have hname := List.find?_some hfind
    rw [impacts_assemble hg, List.mem_mergeSort] at hi
    obtain ⟨other, -, rfl⟩ := List.mem_map.1 hi
    obtain rfl : other = repo := eq_of_beq hname
    rfl

/-- A repository depends on another by a request that the other answers or by a contract. -/
def HasReason (providers : OrderedMap String Provider) (calls : List (String × OutboundCall))
    (flows : List Types.FlowEdge) (source target : String) : Prop :=
  (∃ c ∈ calls, c.1 = source ∧ IsAnsweredBy providers c.2.target target) ∨
    ∃ f ∈ flows, f.sourceRepo = source ∧ f.targetRepo = target

theorem resolve_eq_ok_iff {providers : OrderedMap String Provider} {c : String × OutboundCall}
    {r : ResolvedCall} : resolve providers c = .ok r ↔
      ∃ answer, matchProvider providers c.2.target = .ok answer ∧ ⟨c.1, c.2, answer⟩ = r := by
  rw [resolve, bind_eq_ok_iff]
  exact exists_congr fun answer => and_congr_right fun _ => pure_eq_ok_iff

/-- Two repositories are the ends of a dependency if there is a reason for it. -/
theorem exists_edge_iff {source target : String}
    (hg : g = Ecosystem.assemble known missing owned calls flows weights) :
    (∃ e ∈ g.edges, e.source = source ∧ e.target = target) ↔
      ∃ kind text, g.Evident source target kind text := by
  constructor
  · rintro ⟨e, he, hsource, htarget⟩
    rw [hg] at he
    obtain ⟨text, htext⟩ := List.exists_mem_of_ne_nil _
      ((records_callsAndContracts calls flows).texts_of_mem he).1
    exact ⟨e.kind, text, e, hg ▸ he, hsource, htarget, rfl, htext⟩
  · rintro ⟨kind, text, e, he, hsource, htarget, -, -⟩
    exact ⟨e, he, hsource, htarget⟩

/-- One repository depends on another if they are two and there is a reason for it. -/
theorem exists_edge_iff_hasReason {sent : List (String × OutboundCall)}
    (hcalls : sent.mapM (resolve (providerIndex owned)) = .ok calls) {source target : String}
    (hg : g = Ecosystem.assemble known missing owned calls flows weights) :
    (∃ e ∈ g.edges, e.source = source ∧ e.target = target) ↔
      source ≠ target ∧ HasReason (providerIndex owned) sent flows source target := by
  rw [exists_edge_iff hg]
  simp only [hg, evident_assemble, exists_and_left]
  refine and_congr_right fun _ => ?_
  constructor
  · rintro ⟨kind, text, hcall | hcontract⟩
    · obtain ⟨-, c, hc, rfl, -, p, hp, rfl⟩ := mem_callClues.1 hcall
      obtain ⟨sender, hsender, hresolved⟩ := mem_of_mapM_eq_ok hcalls hc
      obtain ⟨answer, hanswer, rfl⟩ := resolve_eq_ok_iff.1 hresolved
      obtain rfl : answer = some p := hp
      exact Or.inl ⟨sender, hsender, rfl, p, hanswer, rfl⟩
    · obtain ⟨-, f, hf, hsource, htarget, -⟩ := mem_contractClues.1 hcontract
      exact Or.inr ⟨f, hf, hsource, htarget⟩
  · rintro (⟨c, hc, rfl, p, hp, rfl⟩ | ⟨f, hf, rfl, rfl⟩)
    · obtain ⟨resolved, hmem, hresolved⟩ := exists_mem_of_mapM_eq_ok hcalls hc
      obtain ⟨answer, hanswer, rfl⟩ := resolve_eq_ok_iff.1 hresolved
      rw [hp] at hanswer
      obtain rfl := Except.ok.inj hanswer
      exact ⟨.call, c.2.target, Or.inl (mem_callClues.2 ⟨rfl, _, hmem, rfl, rfl, p, rfl, rfl⟩)⟩
    · exact ⟨.typeContract, f.sourceType,
        Or.inr (mem_contractClues.2 ⟨rfl, f, hf, rfl, rfl, rfl⟩)⟩

/-- The dependents of a repository are those with a reason to depend on it. -/
theorem mem_dependents_assemble {sent : List (String × OutboundCall)}
    (hcalls : sent.mapM (resolve (providerIndex owned)) = .ok calls) {source target : String}
    (hg : g = Ecosystem.assemble known missing owned calls flows weights) :
    source ∈ (impactOf weights g.edges (servicesByOwner owned) flows missing target).dependents ↔
      source ≠ target ∧ HasReason (providerIndex owned) sent flows source target := by
  have hedges : source ∈
      (impactOf weights g.edges (servicesByOwner owned) flows missing target).dependents ↔
        ∃ e ∈ g.edges, e.source = source ∧ e.target = target := by
    simp only [impactOf, mem_sortedSet, List.mem_map, List.mem_filter, beq_iff_eq]
    exact exists_congr fun e => by tauto
  rw [hedges, exists_edge_iff_hasReason hcalls hg]

/-- The services that a repository provides are the declared ones with that owner. -/
theorem providedServices_impactOf {declared : List (String × Service)}
    (howned : declared.mapM (own rules known) = .ok owned) (edges : List Dependency)
    (repo : String) :
    (impactOf weights edges (servicesByOwner owned) flows missing repo).providedServices =
      (declared.filter (fun d => owner? rules known d = some repo)).length := by
  have hgroup : (impactOf weights edges (servicesByOwner owned) flows missing
      repo).providedServices = (owned.filter (fun s => s.owner = repo)).length :=
    congrArg List.length (OrderedMap.getD_get?_groupedBy _ owned repo)
  rw [hgroup]
  clear hgroup
  induction declared generalizing owned with
  | nil =>
    rw [List.mapM_nil, pure_eq_ok_iff] at howned
    rw [← howned]
    rfl
  | cons d rest ih =>
    obtain ⟨s, hs, others, hothers, rfl⟩ := mapM_cons_eq_ok_iff.1 howned
    obtain ⟨owner, howner, rfl⟩ := own_eq_ok_iff.1 hs
    have hsame : owner? rules known d = some repo ↔ owner = repo := by
      rw [owner?_eq_some_iff.2 howner, Option.some.injEq]
    rw [List.filter_cons, List.filter_cons]
    simp only [hsame]
    split
    · rw [List.length_cons, List.length_cons, ih hothers]
    · exact ih hothers

/-- A key is a service's own or was claimed before. -/
theorem get?_claims {s : Service} {key : String} {p : Provider} (keys : List String)
    {m : OrderedMap String Provider} (h : (keys.foldl
      (fun m k => m.insertNew k ⟨k, s.owner, s.name, s.layer⟩) m).get? key = some p) :
    m.get? key = some p ∨ p.repo = s.owner := by
  induction keys generalizing m with
  | nil => exact Or.inl h
  | cons k rest ih =>
    rcases ih h with hfound | hown
    · dsimp only at hfound
      rw [OrderedMap.insertNew, OrderedMap.get?_update] at hfound
      split at hfound
      next hkey =>
        subst hkey
        cases hget : m.get? key with
        | none =>
          rw [hget] at hfound
          cases hfound
          exact Or.inr rfl
        | some q =>
          rw [hget] at hfound
          exact Or.inl hfound
      next => exact Or.inl hfound
    · exact Or.inr hown

/-- Who answers a request owns a service. -/
theorem exists_owned_of_isAnsweredBy {target repo : String}
    (h : IsAnsweredBy (providerIndex owned) target repo) : ∃ s ∈ owned, s.owner = repo := by
  obtain ⟨p, hp, rfl⟩ := h
  rw [matchProvider, bind_eq_ok_iff] at hp
  obtain ⟨t, -, heq⟩ := hp
  obtain ⟨key, -, hget⟩ := Option.bind_eq_some_iff.1 (pure_eq_ok_iff.1 heq)
  clear heq
  induction owned using List.reverseRecOn with
  | nil => cases hget
  | append_singleton owned s ih =>
    rw [providerIndex, List.foldl_append] at hget
    rcases get?_claims (keysOf s) hget with hfound | hown
    · obtain ⟨other, hother, howner⟩ := ih hfound
      exact ⟨other, List.mem_append_left _ hother, howner⟩
    · exact ⟨s, List.mem_append_right _ List.mem_cons_self, hown.symm⟩

end Graph

/-! ### Before and after -/

/-- The points that a repository gains and loses, from who depends on it and what it provides. -/
theorem Impact.gains_of_lists {i i' : Impact} {newcomer : String}
    {ceded : List (String × Service)} (hnamed : ∀ d ∈ ceded, IsNamedAfter newcomer d.2)
    (hservices : i'.providedServices + ceded.length = i.providedServices)
    (hnew : newcomer ∈ i'.dependents) (hfresh : newcomer ∉ i.dependents)
    (holder : ∀ d ∈ i'.dependents, d = newcomer ∨ d ∈ i.dependents)
    (huntouched : ceded = [] → ∀ d ∈ i.dependents, d ∈ i'.dependents)
    (hnodup : i.dependents.Nodup) (hnodup' : i'.dependents.Nodup)
    (hshared : i'.sharedTypes = i.sharedTypes) (hscore : i.score = i.scored {})
    (hscore' : i'.score = i'.scored {}) : i.Gains i' newcomer ceded := by
  have hperm : i'.dependents.Perm (newcomer :: i.dependents.filter (· ∈ i'.dependents)) := by
    rw [List.perm_ext_iff_of_nodup hnodup' (List.nodup_cons.2
      ⟨fun hmem => hfresh (List.mem_filter.1 hmem).1, hnodup.filter _⟩)]
    intro d
    rw [List.mem_cons, List.mem_filter, decide_eq_true_iff]
    constructor
    · intro hd
      exact (holder d hd).imp_right fun hbefore => ⟨hbefore, hd⟩
    · rintro (rfl | ⟨-, hd⟩)
      · exact hnew
      · exact hd
  have hkept := hperm.length_eq
  have hsplit := List.length_eq_length_filter_add (l := i.dependents) (· ∈ i'.dependents)
  simp only [← decide_not] at hsplit
  rw [List.length_cons] at hkept
  have hpoints : i'.score = i.score + 10 - 5 * ceded.length -
      10 * (i.dependents.filter (· ∉ i'.dependents)).length := by
    rw [hscore, hscore', Impact.scored, Impact.scored, hshared]
    dsimp only
    omega
  have hlost : (∀ d ∈ i.dependents, d ∈ i'.dependents) ↔
      (i.dependents.filter (· ∉ i'.dependents)).length = 0 := by
    rw [List.length_eq_zero_iff, List.filter_eq_nil_iff]
    simp only [decide_eq_true_eq, not_not]
  refine ⟨hnamed, hservices, ⟨hnew, holder⟩, hshared, hpoints, ?_, ?_⟩
  · rw [hpoints, hlost]
    omega
  · intro hnone
    rw [hpoints, hlost.1 (huntouched hnone), hnone, List.length_nil]
    omega

section Joined

variable {before after : List (String × Option TopologyFacts)} {newcomer : String}
variable {f : TopologyFacts}

theorem gathered_append {α : Type} (part : TopologyFacts → List α)
    (xs ys : List (String × Option TopologyFacts)) :
    gathered part (xs ++ ys) = gathered part xs ++ gathered part ys :=
  List.flatMap_append

theorem gathered_joined {α : Type} (part : TopologyFacts → List α) :
    gathered part (before ++ (newcomer, some f) :: after) =
      gathered part before ++ ((part f).map (newcomer, ·) ++ gathered part after) :=
  gathered_append part before _

theorem declaredServices_joined (hservices : f.services = []) :
    declaredServices (before ++ (newcomer, some f) :: after) =
      declaredServices (before ++ after) := by
  rw [declaredServices, declaredServices, gathered_joined, gathered_append, hservices]
  rfl

theorem mem_sentCalls_joined {c : String × OutboundCall} :
    c ∈ sentCalls (before ++ (newcomer, some f) :: after) ↔
      c ∈ sentCalls (before ++ after) ∨ c.1 = newcomer ∧ c.2 ∈ f.outboundCalls := by
  rw [sentCalls, sentCalls, gathered_joined, gathered_append]
  simp only [List.mem_append, List.mem_map]
  have hown : (∃ a ∈ f.outboundCalls, (newcomer, a) = c) ↔
      c.1 = newcomer ∧ c.2 ∈ f.outboundCalls := by
    constructor
    · rintro ⟨a, ha, rfl⟩
      exact ⟨rfl, ha⟩
    · rintro ⟨rfl, hc⟩
      exact ⟨c.2, hc, rfl⟩
  rw [hown]
  tauto

theorem mem_names_joined (name : String) :
    name ∈ (before ++ (newcomer, some f) :: after).map (·.1) ↔
      name = newcomer ∨ name ∈ (before ++ after).map (·.1) := by
  simp only [List.map_append, List.map_cons, List.mem_append, List.mem_cons]
  tauto

end Joined

section Reasons

variable {loses : String → Prop} {newcomer : String} {sent sent' : List (String × OutboundCall)}
variable {providers providers' : OrderedMap String Provider} {flows : List Types.FlowEdge}

/-- Whoever depends on a repository is the newcomer or did so before. -/
theorem HasReason.before (h : providers.Related (CedesProvider loses newcomer) providers')
    (hsent : ∀ c ∈ sent', c ∈ sent ∨ c.1 = newcomer) {source target : String}
    (htarget : target ≠ newcomer) (hreason : HasReason providers' sent' flows source target) :
    source = newcomer ∨ HasReason providers sent flows source target := by
  rcases hreason with ⟨c, hc, rfl, hanswer⟩ | hcontract
  · rcases hsent c hc with hold | hnew
    · exact Or.inr (Or.inl ⟨c, hold, rfl, hanswer.before h htarget⟩)
    · exact Or.inl hnew
  · exact Or.inr (Or.inr hcontract)

/-- Whoever depended on a repository that loses nothing still does. -/
theorem HasReason.after (h : providers.Related (CedesProvider loses newcomer) providers')
    (hsent : ∀ c ∈ sent, c ∈ sent' ∧ ∃ answer, matchProvider providers' c.2.target = .ok answer)
    {source target : String} (htarget : ¬ loses target)
    (hreason : HasReason providers sent flows source target) :
    HasReason providers' sent' flows source target := by
  rcases hreason with ⟨c, hc, rfl, hanswer⟩ | hcontract
  · obtain ⟨hkept, answer, hfound⟩ := hsent c hc
    exact Or.inl ⟨c, hkept, rfl, hanswer.after h htarget hfound⟩
  · exact Or.inr hcontract

end Reasons

/-- The services of a repository are those that it keeps and those that it cedes. -/
theorem length_ceded {rules : OwnershipRules} {known known' : List String} {newcomer repo : String}
    (hjoined : ∀ name, name ∈ known' ↔ name = newcomer ∨ name ∈ known) (hrepo : repo ≠ newcomer)
    {declared : List (String × Service)}
    (howned : ∀ d ∈ declared, ∃ s, own rules known' d = .ok s) :
    (declared.filter (fun d => owner? rules known' d = some repo)).length +
        (ceded rules known known' newcomer repo declared).length =
      (declared.filter (fun d => owner? rules known d = some repo)).length := by
  have heach : ∀ d ∈ declared, ∃ owner owner', owner? rules known d = some owner ∧
      owner? rules known' d = some owner' ∧ (owner' = owner ∨ owner' = newcomer) := by
    intro d hd
    obtain ⟨s, hs⟩ := howned d hd
    obtain ⟨owner', howner', -⟩ := own_eq_ok_iff.1 hs
    obtain ⟨owner, howner, hkept⟩ := ownerOf_joined hjoined howner'
    exact ⟨owner, owner', owner?_eq_some_iff.2 howner, owner?_eq_some_iff.2 howner',
      hkept.imp_right And.left⟩
  have hsplit := List.length_eq_length_filter_add
    (l := declared.filter (fun d => owner? rules known d = some repo))
    (fun d => owner? rules known' d = some repo)
  rw [hsplit, List.filter_filter, List.filter_filter, ceded]
  congr 2
  · refine List.filter_congr fun d hd => ?_
    obtain ⟨owner, owner', hbefore, hafter, hkept⟩ := heach d hd
    rw [hbefore, hafter]
    rcases hkept with rfl | rfl
    · simp
    · simp [hrepo.symm]
  · refine List.filter_congr fun d hd => ?_
    obtain ⟨owner, owner', hbefore, hafter, hkept⟩ := heach d hd
    rw [hbefore, hafter]
    rcases hkept with rfl | rfl
    · by_cases howner : owner' = repo
      · simp [howner, hrepo]
      · simp [howner]
    · simp [hrepo.symm]

/-- Every request of a graph has been matched. -/
theorem exists_matchProvider {providers : OrderedMap String Provider}
    {sent : List (String × OutboundCall)} {calls : List ResolvedCall}
    (hcalls : sent.mapM (resolve providers) = .ok calls) :
    ∀ c ∈ sent, ∃ answer, matchProvider providers c.2.target = .ok answer := by
  intro c hc
  obtain ⟨r, -, hr⟩ := exists_mem_of_mapM_eq_ok hcalls hc
  obtain ⟨answer, hfound, -⟩ := resolve_eq_ok_iff.1 hr
  exact ⟨answer, hfound⟩

/-- Without the newcomer, every service has an owner and every request is matched as well. -/
theorem exists_before {rules : OwnershipRules} {known known' : List String} {newcomer : String}
    (hjoined : ∀ name, name ∈ known' ↔ name = newcomer ∨ name ∈ known)
    {declared : List (String × Service)} {sent sent' : List (String × OutboundCall)}
    (hsent : ∀ c ∈ sent, c ∈ sent') {owned' : List Service} {calls' : List ResolvedCall}
    (howned' : declared.mapM (own rules known') = .ok owned')
    (hcalls' : sent'.mapM (resolve (providerIndex owned')) = .ok calls') :
    ∃ owned calls, declared.mapM (own rules known) = .ok owned ∧
      sent.mapM (resolve (providerIndex owned)) = .ok calls ∧
      (providerIndex owned).Related (CedesProvider
        (fun repo => ceded rules known known' newcomer repo declared ≠ []) newcomer)
        (providerIndex owned') := by
  obtain ⟨owned, howned, hcedes⟩ := exists_mapM_related
    (fun d hd s' hs' => own_joined hjoined hd hs') howned'
  have hindex := providerIndex_related hcedes
  have hresolved : ∀ c ∈ sent, ∃ r, resolve (providerIndex owned) c = .ok r := by
    intro c hc
    obtain ⟨answer', hfound⟩ := exists_matchProvider hcalls' c (hsent c hc)
    obtain ⟨answer, hbefore, -⟩ := matchProvider_related hindex hfound
    exact ⟨_, resolve_eq_ok_iff.2 ⟨answer, hbefore, rfl⟩⟩
  obtain ⟨calls, hcalls⟩ := exists_mapM_eq_ok hresolved
  exact ⟨owned, calls, howned, hcalls, hindex⟩

/-- A newcomer without services that asks a repository raises its score by ten, less five for each
service that the newcomer takes over and ten for each dependent that goes with them. So the score
rises if the newcomer takes at most one service and no dependent, and by ten if it takes none. -/
theorem newcomer_gains {before after : List (String × Option TopologyFacts)} {newcomer : String}
    {f : TopologyFacts} {flows : List Types.FlowEdge} {rules : OwnershipRules} {floor : Int}
    {g' : Ecosystem} {c : OutboundCall} {repo : String} (hservices : f.services = [])
    (hbuild : Ecosystem.build (before ++ (newcomer, some f) :: after) flows rules floor = .ok g')
    (hc : c ∈ f.outboundCalls)
    (hanswer : AnswersIn rules (before ++ (newcomer, some f) :: after) c.target repo)
    (hrepo : repo ≠ newcomer) :
    ∃ g i i', Ecosystem.build (before ++ after) flows rules floor = .ok g ∧
      g.impact? repo = some i ∧ g'.impact? repo = some i' ∧
      (newcomer ∉ i.dependents → i.Gains i' newcomer
        (ceded rules ((before ++ after).map (·.1))
          ((before ++ (newcomer, some f) :: after).map (·.1)) newcomer repo
          (declaredServices (before ++ after)))) := by
  have hjoined := @mem_names_joined before after newcomer f
  have hsent : ∀ c ∈ sentCalls (before ++ after),
      c ∈ sentCalls (before ++ (newcomer, some f) :: after) :=
    fun c hc => mem_sentCalls_joined.2 (Or.inl hc)
  have hsent' : ∀ c ∈ sentCalls (before ++ (newcomer, some f) :: after),
      c ∈ sentCalls (before ++ after) ∨ c.1 = newcomer :=
    fun c hc => (mem_sentCalls_joined.1 hc).imp_right And.left
  obtain ⟨owned', calls', howned', hcalls', hg'⟩ := build_eq_ok_iff.1 hbuild
  obtain ⟨_, hsame, hanswer⟩ := hanswer
  rw [ownedServices_eq, howned'] at hsame
  obtain rfl := Except.ok.inj hsame
  rw [declaredServices_joined hservices] at howned'
  obtain ⟨owned, calls, howned, hcalls, hindex⟩ := exists_before hjoined hsent howned' hcalls'
  obtain ⟨g, hg⟩ : ∃ g, g = Ecosystem.assemble ((before ++ after).map (·.1))
    (((before ++ after).filter (·.2.isNone)).map (·.1)) owned calls (contracts floor flows) {} :=
    ⟨_, rfl⟩
  -- The repository owns the service that answers, before and after.
  have hbefore : repo ∈ g.repos := by
    rw [hg]
    exact mem_repos_assemble.2
      (Or.inr (Or.inl (exists_owned_of_isAnsweredBy (hanswer.before hindex hrepo))))
  have hafter : repo ∈ g'.repos := by
    rw [hg']
    exact mem_repos_assemble.2 (Or.inr (Or.inl (exists_owned_of_isAnsweredBy hanswer)))
  refine ⟨g, _, _, build_eq_ok_iff.2 ⟨owned, calls, howned, hcalls, hg⟩,
    impact?_assemble hg hbefore, impact?_assemble hg' hafter, fun hfresh => ?_⟩
  apply Impact.gains_of_lists
  case hnamed => exact fun d hd => isNamedAfter_of_mem_ceded hjoined hrepo hd
  case hservices =>
    rw [providedServices_impactOf howned, providedServices_impactOf howned']
    refine length_ceded hjoined hrepo fun d hd => ?_
    obtain ⟨s, -, hs⟩ := exists_mem_of_mapM_eq_ok howned' hd
    exact ⟨s, hs⟩
  case hnew =>
    rw [mem_dependents_assemble hcalls' hg']
    have hsends : (newcomer, c) ∈ sentCalls (before ++ (newcomer, some f) :: after) :=
      mem_sentCalls_joined.2 (Or.inr ⟨rfl, hc⟩)
    exact ⟨hrepo.symm, Or.inl ⟨(newcomer, c), hsends, rfl, hanswer⟩⟩
  case hfresh => exact hfresh
  case holder =>
    intro d hd
    rw [mem_dependents_assemble hcalls' hg'] at hd
    rw [mem_dependents_assemble hcalls hg]
    exact (hd.2.before hindex hsent' hrepo).imp_right (fun h => ⟨hd.1, h⟩)
  case huntouched =>
    intro hnone d hd
    rw [mem_dependents_assemble hcalls hg] at hd
    rw [mem_dependents_assemble hcalls' hg']
    have hmatched : ∀ c ∈ sentCalls (before ++ after),
        c ∈ sentCalls (before ++ (newcomer, some f) :: after) ∧
          ∃ answer, matchProvider (providerIndex owned') c.2.target = .ok answer :=
      fun c hc => ⟨hsent c hc, exists_matchProvider hcalls' c (hsent c hc)⟩
    exact ⟨hd.1, hd.2.after hindex hmatched (not_not_intro hnone)⟩
  case hnodup => exact nodup_sortedSet _
  case hnodup' => exact nodup_sortedSet _
  case hshared => rfl
  case hscore => rfl
  case hscore' => rfl

/-- A repository that declares services of a cluster, by their names. -/
def declaring (names : List String) : TopologyFacts :=
  { services := names.map (fun name => { name, layer := .backend }) }

/-- A repository that sends one request. -/
def asking (target : String) : TopologyFacts := { outboundCalls := [{ target }] }

/-- A graph with the impact of a repository that has facts. -/
theorem exists_build_impact? (facts : List (String × Option TopologyFacts)) (repo : String)
    {owned : List Service} {calls : List ResolvedCall} (hrepo : repo ∈ facts.map (·.1))
    (howned : (declaredServices facts).mapM (own {} (facts.map (·.1))) = .ok owned)
    (hcalls : (sentCalls facts).mapM (resolve (providerIndex owned)) = .ok calls) :
    ∃ g, Ecosystem.build facts = .ok g ∧
      g.impact? repo = some (impactOf {} (dependenciesOf (contractEvidence (callEvidence calls) []))
        (servicesByOwner owned) [] ((facts.filter (·.2.isNone)).map (·.1)) repo) := by
  refine ⟨_, build_eq_ok_iff.2 ⟨owned, calls, howned, hcalls, rfl⟩, ?_⟩
  exact impact?_assemble rfl (mem_repos_assemble.2 (Or.inl hrepo))

/-- The newcomer takes one of two services with it, and the score rises by five. -/
theorem newcomer_gains_oneCeded :
    ∃ g g' i i', Ecosystem.build [("pay", some (declaring ["ledger", "admin-api"]))] = .ok g ∧
      Ecosystem.build [("pay", some (declaring ["ledger", "admin-api"])),
        ("admin", some (asking "ledger"))] = .ok g' ∧
      g.impact? "pay" = some i ∧ g'.impact? "pay" = some i' ∧ i.score < i'.score := by
  obtain ⟨g', hg', -⟩ := exists_build_impact? [("pay", some (declaring ["ledger", "admin-api"])),
    ("admin", some (asking "ledger"))] "pay" (by decide) rfl rfl
  obtain ⟨g₀, i₀, hg₀, hi₀, hnone⟩ : ∃ g i,
      Ecosystem.build [("pay", some (declaring ["ledger", "admin-api"]))] = .ok g ∧
        g.impact? "pay" = some i ∧ i.dependents = [] := by
    obtain ⟨g, hg, hi⟩ := exists_build_impact? [("pay", some (declaring ["ledger", "admin-api"]))]
      "pay" (by decide) rfl rfl
    exact ⟨g, _, hg, hi, by decide +kernel⟩
  have hanswers : AnswersIn {} [("pay", some (declaring ["ledger", "admin-api"])),
      ("admin", some (asking "ledger"))] "ledger" "pay" :=
    ⟨_, rfl, ⟨"ledger", "pay", "ledger", .backend⟩, rfl, rfl⟩
  obtain ⟨g, i, i', hg, hi, hi', hgains⟩ := @newcomer_gains
    [("pay", some (declaring ["ledger", "admin-api"]))] [] "admin" (asking "ledger") [] {} 60 g'
    { target := "ledger" } "pay" rfl hg' List.mem_cons_self hanswers (by decide)
  rw [List.append_nil, hg₀] at hg
  obtain rfl := Except.ok.inj hg
  rw [hi₀] at hi
  obtain rfl := Option.some.inj hi
  refine ⟨_, _, _, _, hg₀, hg', hi₀, hi', (hgains ?_).rises.2 ⟨by decide, ?_⟩⟩
  · rw [hnone]
    exact List.not_mem_nil
  · rw [hnone]
    exact fun d hd => absurd hd List.not_mem_nil

/-- The newcomer takes three of four services with it, and the score falls. -/
theorem not_newcomer_raises : ¬ ∀ (before after : List (String × Option TopologyFacts))
    (newcomer : String) (f : TopologyFacts) (flows : List Types.FlowEdge) (rules : OwnershipRules)
    (floor : Int) (g g' : Ecosystem) (c : OutboundCall) (repo : String) (i i' : Impact),
    newcomer ∉ (before ++ after).map (·.1) → f.services = [] →
    Ecosystem.build (before ++ after) flows rules floor = .ok g →
    Ecosystem.build (before ++ (newcomer, some f) :: after) flows rules floor = .ok g' →
    c ∈ f.outboundCalls → AnswersIn rules (before ++ (newcomer, some f) :: after) c.target repo →
    repo ≠ newcomer → g.impact? repo = some i → g'.impact? repo = some i' →
    newcomer ∉ i.dependents → i.score < i'.score := by
  intro h
  let pay := declaring ["ledger", "admin-api", "admin-web", "admin-worker"]
  obtain ⟨g, hg, hi⟩ := exists_build_impact? [("pay", some pay)] "pay" (by decide) rfl rfl
  obtain ⟨g', hg', hi'⟩ := exists_build_impact? [("pay", some pay),
    ("admin", some (asking "ledger"))] "pay" (by decide) rfl rfl
  have hanswers : AnswersIn {} [("pay", some pay), ("admin", some (asking "ledger"))] "ledger"
      "pay" := ⟨_, rfl, ⟨"ledger", "pay", "ledger", .backend⟩, rfl, rfl⟩
  have hrises := h [("pay", some pay)] [] "admin" (asking "ledger") [] {} 60 g g'
    { target := "ledger" } "pay" _ _ (by decide) rfl hg hg' List.mem_cons_self hanswers (by decide)
    hi hi' (by decide +kernel)
  exact absurd hrises (by decide +kernel)

end RepoAtlas.Topology
