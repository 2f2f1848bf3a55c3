import Mathlib.Data.List.Find
import RepoAtlas.Proofs.Topology.Newcomer

/-!
The ecosystem seen from one repository: the repository with those that depend on it, and what the
graph says of them. All dependencies on the repository are kept, since its dependents are their
sources, and a second look from the same repository shows the same.
-/
namespace RepoAtlas.Topology

/-- The part of a graph about a repository and those that depend on it. -/
structure Ecosystem.IsFocusOf (view g : Ecosystem) (repo : String) : Prop where
  repos : ∀ r, r ∈ view.repos ↔ r = repo ∨ ∃ e ∈ g.edges, e.source = r ∧ e.target = repo
  sorted : view.repos.Pairwise (· < ·)
  edges : view.edges = g.edges.filter (fun e => e.target = repo)
  ends : ∀ e ∈ view.edges, e.source ∈ view.repos ∧ e.target ∈ view.repos
  impacts : view.impacts = g.impacts.filter (fun i => i.repo ∈ view.repos)
  once : (view.impacts.map (·.repo)).Perm view.repos
  services : view.services.entries = g.services.entries.filter (fun s => s.1 ∈ view.repos)
  externalCalls : view.externalCalls = g.externalCalls.filter (fun c => c.1 = repo)
  missing : view.missing = g.missing.filter (· ∈ view.repos)

section Look

variable {g view : Ecosystem} {repo : String} {target : Impact}

theorem repo_of_impact? (h : g.impact? repo = some target) : target.repo = repo := by
  have hname := List.find?_some h
  exact eq_of_beq hname

theorem impact?_eq_none_iff (honce : (g.impacts.map (·.repo)).Perm g.repos) :
    g.impact? repo = none ↔ repo ∉ g.repos := by
  rw [Ecosystem.impact?, List.find?_eq_none, ← honce.mem_iff, List.mem_map]
  simp only [beq_iff_eq, not_exists, not_and]

/-- Only a repository without a row is not there. -/
theorem exists_miss_iff : (∃ miss, g.focus repo = .error miss) ↔ g.impact? repo = none := by
  rw [Ecosystem.focus]
  cases g.impact? repo with
  | none => exact ⟨fun _ => rfl, fun _ => ⟨_, rfl⟩⟩
  | some target =>
    constructor
    · rintro ⟨miss, hmiss⟩
      cases hmiss
    · intro h
      cases h

/-- What a repository with a row shows. -/
theorem focus_eq_ok (h : g.impact? repo = some target) :
    g.focus repo = .ok
      { repos := sortedSet (repo :: target.dependents),
        impacts := g.impacts.filter (fun i => (repo :: target.dependents).contains i.repo),
        edges := g.edges.filter
          (fun e => e.target == repo && (repo :: target.dependents).contains e.source),
        services := ⟨g.services.entries.filter
          (fun s => (repo :: target.dependents).contains s.1)⟩,
        externalCalls := g.externalCalls.filter (·.1 == repo),
        missing := g.missing.filter (repo :: target.dependents).contains } := by
  rw [Ecosystem.focus, h]

theorem exists_impact?_of_focus (h : g.focus repo = .ok view) :
    ∃ target, g.impact? repo = some target := by
  cases himpact : g.impact? repo with
  | none =>
    obtain ⟨miss, hmiss⟩ := exists_miss_iff.2 himpact
    rw [h] at hmiss
    cases hmiss
  | some target => exact ⟨target, rfl⟩

/-- The repository keeps its row. -/
theorem impact?_of_filter {kept : List String} (hrepo : repo ∈ kept)
    (hview : view.impacts = g.impacts.filter (fun i => kept.contains i.repo)) :
    view.impact? repo = g.impact? repo := by
  rw [Ecosystem.impact?, Ecosystem.impact?, hview, List.find?_filter]
  apply List.find?_congr
  intro i _
  rw [Bool.eq_iff_iff, decide_eq_true_iff, beq_iff_eq, List.contains_iff_mem]
  refine and_iff_right_of_imp ?_
  rintro rfl
  exact hrepo

/-- A second look from the same repository shows the same. -/
theorem focus_focus (h : g.focus repo = .ok view) : view.focus repo = .ok view := by
  obtain ⟨target, htarget⟩ := exists_impact?_of_focus h
  rw [focus_eq_ok htarget] at h
  obtain rfl := Except.ok.inj h
  rw [focus_eq_ok ((impact?_of_filter List.mem_cons_self rfl).trans htarget)]
  simp only [List.filter_filter, Bool.and_self]

/-- The graph of a repository that is there, if the graph has a row for each repository and each
row lists the sources of the dependencies on it. -/
theorem isFocusOf_of_focus (honce : (g.impacts.map (·.repo)).Perm g.repos)
    (hnodup : g.repos.Nodup) (hends : ∀ e ∈ g.edges, e.source ∈ g.repos)
    (hdependents : ∀ i ∈ g.impacts, ∀ r,
      r ∈ i.dependents ↔ ∃ e ∈ g.edges, e.source = r ∧ e.target = i.repo)
    (h : g.focus repo = .ok view) : view.IsFocusOf g repo := by
  obtain ⟨target, htarget⟩ := exists_impact?_of_focus h
  have hmem : target ∈ g.impacts := List.mem_of_find?_eq_some htarget
  have hrepo : repo ∈ g.repos := by
    rw [← repo_of_impact? htarget, ← honce.mem_iff]
    exact List.mem_map_of_mem hmem
  have hkept : ∀ r, r ∈ repo :: target.dependents ↔
      r = repo ∨ ∃ e ∈ g.edges, e.source = r ∧ e.target = repo := by
    intro r
    rw [List.mem_cons, hdependents target hmem, repo_of_impact? htarget]
  rw [focus_eq_ok htarget] at h
  obtain rfl := Except.ok.inj h
  have hcontains : ∀ r, (repo :: target.dependents).contains r =
      decide (r ∈ sortedSet (repo :: target.dependents)) := by
    intro r
    rw [Bool.eq_iff_iff, List.contains_iff_mem, decide_eq_true_iff, mem_sortedSet]
  refine
    { repos := fun r => mem_sortedSet.trans (hkept r)
      sorted := pairwise_sortedSet _
      edges := ?_
      ends := ?_
      impacts := List.filter_congr fun i _ => hcontains i.repo
      once := ?_
      services := List.filter_congr fun s _ => hcontains s.1
      externalCalls := List.filter_congr fun c _ => ?_
      missing := List.filter_congr fun r _ => hcontains r }
  · refine List.filter_congr fun e he => ?_
    rw [Bool.eq_iff_iff, Bool.and_eq_true, beq_iff_eq, List.contains_iff_mem, decide_eq_true_iff]
    exact and_iff_left_of_imp fun hinto => (hkept e.source).2 (Or.inr ⟨e, he, rfl, hinto⟩)
  · intro e he
    obtain ⟨-, hends⟩ := List.mem_filter.1 he
    rw [Bool.and_eq_true, beq_iff_eq, List.contains_iff_mem] at hends
    exact ⟨mem_sortedSet.2 hends.2, mem_sortedSet.2 (hends.1 ▸ List.mem_cons_self)⟩
  · have hrows : (g.impacts.map (·.repo)).Nodup := honce.nodup_iff.2 hnodup
    refine (List.perm_ext_iff_of_nodup ((List.filter_sublist.map _).nodup hrows)
      (nodup_sortedSet _)).2 fun r => ?_
    rw [mem_sortedSet, List.mem_map]
    constructor
    · rintro ⟨i, hi, rfl⟩
      exact List.contains_iff_mem.1 (List.mem_filter.1 hi).2
    · intro hr
      have hthere : r ∈ g.repos := by
        rcases (hkept r).1 hr with rfl | ⟨e, he, rfl, -⟩
        · exact hrepo
        · exact hends e he
      obtain ⟨i, hi, rfl⟩ := List.mem_map.1 (honce.mem_iff.2 hthere)
      exact ⟨i, List.mem_filter.2 ⟨hi, List.contains_iff_mem.2 hr⟩, rfl⟩
  · rw [Bool.eq_iff_iff, beq_iff_eq, decide_eq_true_iff]

end Look

/-- In a graph that was built, exactly the repositories that it lists can be looked from. The view
shows the repository and its dependents with all that the graph says of them, every dependency on
the repository among it, and is its own view. -/
theorem focus_restricts {facts : List (String × Option TopologyFacts)}
    {flows : List Types.FlowEdge} {rules : OwnershipRules} {floor : Int} {weights : ImpactWeights}
    {g : Ecosystem} (hbuild : Ecosystem.build facts flows rules floor weights = .ok g)
    (repo : String) :
    ((∃ miss, g.focus repo = .error miss) ↔ repo ∉ g.repos) ∧
    (repo ∈ g.repos → ∃ view, g.focus repo = .ok view ∧ view.IsFocusOf g repo ∧
      view.focus repo = .ok view) := by
  obtain ⟨owned, calls, -, -, hg⟩ := build_eq_ok_iff.1 hbuild
  have himpacts : g.ImpactsAccounted facts owned flows floor weights :=
    hg ▸ impactsAccounted_assemble facts flows floor
  have hnone : g.impact? repo = none ↔ repo ∉ g.repos := impact?_eq_none_iff himpacts.once
  refine ⟨exists_miss_iff.trans hnone, fun hrepo => ?_⟩
  obtain ⟨target, htarget⟩ := Option.ne_none_iff_exists'.1 (mt hnone.1 (not_not.2 hrepo))
  have hfocus := focus_eq_ok htarget
  refine ⟨_, hfocus, ?_, focus_focus hfocus⟩
  refine isFocusOf_of_focus himpacts.once himpacts.sorted.nodup ?_ ?_ hfocus
  · exact fun e he => (himpacts.repos _).2 (Or.inr (Or.inr ⟨e, he, Or.inl rfl⟩))
  · exact fun i hi => (himpacts.each i hi).dependents

/-- The bank is seen with the shop that asks it, and the mint is not there. -/
theorem focus_restricts_shopAndBank : ∃ g view, Ecosystem.build shopAndBank = .ok g ∧
    g.focus "bank" = .ok view ∧ view.repos = ["bank", "shop"] ∧ view.edges = g.edges ∧
      view.focus "bank" = .ok view ∧ ∃ miss, g.focus "mint" = .error miss := by
  let owned : List Service := [{ name := "bank-api", layer := .backend, owner := "bank" }]
  let calls : List ResolvedCall := [⟨"shop", { target := "bank-api" },
    some ⟨"bank-api", "bank", "bank-api", .backend⟩⟩]
  let g := Ecosystem.assemble ["shop", "bank", "mill"] ["mill"] owned calls (contracts 60 []) {}
  have hbuild : Ecosystem.build shopAndBank = .ok g :=
    build_eq_ok_iff.2 ⟨owned, calls, by rfl, by rfl, rfl⟩
  have hends : ∀ e ∈ g.edges, e.source = "shop" ∧ e.target = "bank" := by
    intro e he
    obtain ⟨kind, text, hevident⟩ := (exists_edge_iff rfl).1 ⟨e, he, rfl, rfl⟩
    rcases (evident_assemble.1 hevident).2 with hcall | hcontract
    · obtain ⟨hsource, htarget, -⟩ := Clue.mk.inj (List.mem_singleton.1 hcall)
      exact ⟨hsource, htarget⟩
    · cases hcontract
  have hedge : ∃ e ∈ g.edges, e.source = "shop" ∧ e.target = "bank" :=
    (exists_edge_iff rfl).2 ⟨.call, "bank-api",
      evident_assemble.2 ⟨by decide, Or.inl List.mem_cons_self⟩⟩
  have hbank : "bank" ∈ g.repos := mem_repos_assemble.2 (Or.inl (by simp))
  have hmint : "mint" ∉ g.repos := by
    rw [mem_repos_assemble]
    rintro (hknown | ⟨s, hs, howner⟩ | ⟨e, he, hend⟩)
    · simp at hknown
    · obtain rfl := List.mem_singleton.1 hs
      simp at howner
    · obtain ⟨hsource, htarget⟩ := hends e he
      simp [hsource, htarget] at hend
  obtain ⟨view, hview, hfocus, hagain⟩ := (focus_restricts hbuild "bank").2 hbank
  refine ⟨g, view, hbuild, hview, ?_, ?_, hagain, (focus_restricts hbuild "mint").1.2 hmint⟩
  · refine hfocus.sorted.eq_of_mem_iff (by decide) fun r => ?_
    rw [hfocus.repos, List.mem_pair]
    refine or_congr_right ⟨?_, ?_⟩
    · rintro ⟨e, he, rfl, -⟩
      exact (hends e he).1
    · rintro rfl
      exact hedge
  · rw [hfocus.edges, List.filter_eq_self]
    exact fun e he => decide_eq_true (hends e he).2

end RepoAtlas.Topology
