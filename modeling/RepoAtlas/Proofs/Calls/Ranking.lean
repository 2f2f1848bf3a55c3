import RepoAtlas.Proofs.Calls.BlastRadius
import RepoAtlas.Proofs.Sorting

/-!
How the entries of an impact tree are ranked. An entry counts the functions that its search has
met, and these are all the functions above its dependency only if the search was not stopped: a
search that is stopped in one of the lower layers counts none of the layers above.
-/
namespace RepoAtlas.Calls

/-! ### Where a search was stopped -/

namespace Search

variable {g : Graph} {limit : Int} {n : Nat} {s : Search}

/-- No chain is too long, and a search was stopped by one of the longest chains. -/
structure Halts (longest : Nat) (s : Search) : Prop where
  bounded : ∀ c ∈ s.chains, c.length ≤ longest
  last : s.stopped = true →
    ∃ u, s.surfaces.getLast? = some u ∧ ∀ c ∈ s.chains, c.length ≤ u.chain.length

theorem Halts.mono {m : Nat} (h : Halts n s) (hle : n ≤ m) : Halts m s :=
  ⟨fun c hc => (h.bounded c hc).trans hle, h.last⟩

/-- One step: a chain of the last layer is extended, and its extension is as long as any. -/
theorem Halts.extend (h : Halts (n + 1) s) {chain : List String} (hchain : chain.length = n)
    (caller : String) : Halts (n + 1) (extend g limit s chain caller) := by
  rw [Search.extend]
  split
  · exact h
  next hgo =>
    rw [Bool.or_eq_true, not_or] at hgo
    have hbounded : ∀ c ∈ s.chains ++ [caller :: chain], c.length ≤ n + 1 := by
      intro c hc
      rcases List.mem_append.1 hc with hc | hc
      · exact h.bounded c hc
      · rw [List.mem_singleton.1 hc, List.length_cons, hchain]
    rw [note]
    split
    · refine ⟨hbounded, fun _ => ⟨⟨g.fileOf caller, caller :: chain⟩, List.getLast?_concat, ?_⟩⟩
      intro c hc
      rw [List.length_cons, hchain]
      exact hbounded c hc
    · exact ⟨hbounded, fun hstop => absurd hstop hgo.1⟩

theorem Halts.extendAll (h : Halts (n + 1) s) (steps : List (List String × String))
    (hsteps : ∀ e ∈ steps, e.1.length = n) :
    Halts (n + 1) (steps.foldl (fun s e => Search.extend g limit s e.1 e.2) s) := by
  induction steps generalizing s with
  | nil => exact h
  | cons e rest ih =>
    refine ih (h.extend (hsteps e List.mem_cons_self) e.2) ?_
    exact fun e' he' => hsteps e' (List.mem_cons_of_mem e he')

theorem Halts.expand (h : Halts (n + 1) s) : Halts (n + 2) (expand g limit s n) := by
  refine (h.mono (Nat.le_succ _)).extendAll _ ?_
  intro e he
  obtain ⟨chain, hchain, he⟩ := List.mem_flatMap.1 he
  obtain ⟨caller, -, rfl⟩ := List.mem_map.1 he
  rw [layer, List.mem_filter, beq_iff_eq] at hchain
  exact hchain.2

theorem Halts.expandAll (h : Halts (n + 1) s) (rounds : Nat) :
    Halts (n + rounds + 1) (expandAll g limit rounds n s) := by
  induction rounds generalizing n s with
  | zero => exact h
  | succ rounds ih =>
    rw [Search.expandAll]
    split
    · exact h.mono (by omega)
    · exact (ih h.expand).mono (by omega)

theorem run_halts (g : Graph) (dependency : String) (maxDepth limit : Int) :
    Halts (maxDepth.toNat + 1) (run g dependency maxDepth limit) := by
  have hstart : Halts 1 { chains := [[dependency]] } := by
    refine ⟨fun c hc => ?_, fun hstop => nomatch hstop⟩
    rw [List.mem_singleton.1 hc, List.length_singleton]
  exact (hstart.expandAll maxDepth.toNat).mono (by omega)

end Search

/-! ### What a search has counted -/

section Counted

variable {calls : List CallEdge} {dependency f : String} {limit : Int} {k most longest : Nat}
  {s : Search}

theorem upstream_mono (calls : List CallEdge) (dependency : String) {most more : Nat}
    (h : most ≤ more) : upstream calls dependency most ⊆ upstream calls dependency more := by
  rintro f ⟨hne, k, hpos, hk, hreach⟩
  exact ⟨hne, k, hpos, hk.trans h, hreach⟩

namespace Search

variable (h : Explored calls dependency limit most most s)

include h

theorem Explored.met_le_upstream :
    ((s.chains.length - 1 : Nat) : ℕ∞) ≤ (upstream calls dependency most).encard := by
  rw [← h.encard_met]
  exact Set.encard_le_encard fun f hf => hf.1

/-- The functions that are nearer than a surface have been met, and that surface's own too. -/
theorem Explored.upstream_lt_met {u : Surface} (hu : u ∈ s.surfaces)
    (hlength : u.chain.length = k + 2) :
    (upstream calls dependency k).encard < (s.chains.length - 1 : Nat) := by
  obtain ⟨j, hpos, hj, htrail⟩ := h.trail_of_surface hu
  obtain rfl : j = k + 1 := Nat.succ.inj (htrail.length_eq.symm.trans hlength)
  have hchain := (h.noted.chains u hu).1
  have hnearer : upstream calls dependency k ⊆
      {f | f ∈ upstream calls dependency most ∧ s.met f = true} := by
    intro f hf
    obtain ⟨i, -, hi, hd⟩ := mem_upstream_iff.1 hf
    exact ⟨upstream_mono calls dependency (by omega) hf, h.nearer _ hchain f i (by omega) hd⟩
  have hown : u.function ∉ upstream calls dependency k := by
    intro hmem
    obtain ⟨i, -, hi, hd⟩ := mem_upstream_iff.1 hmem
    have := hd.unique htrail.callDistance
    omega
  have hmore : upstream calls dependency k ⊂
      {f | f ∈ upstream calls dependency most ∧ s.met f = true} :=
    (Set.ssubset_iff_of_subset hnearer).2 ⟨u.function,
      ⟨mem_upstream_iff.2 ⟨k + 1, hpos, hj, htrail.callDistance⟩,
        met_iff.2 ⟨u.chain, hchain, htrail.head?_eq⟩⟩, hown⟩
  rw [← h.encard_met]
  exact ((Set.finite_of_encard_eq_coe h.encard_met).subset hnearer).encard_lt_encard hmore

/-- A search whose chains are no longer than one of them has met no function beyond. -/
theorem Explored.met_le_of_longest (hlongest : ∀ c ∈ s.chains, c.length ≤ k + 1) :
    ((s.chains.length - 1 : Nat) : ℕ∞) ≤ (upstream calls dependency k).encard := by
  rw [← h.encard_met]
  refine Set.encard_le_encard ?_
  rintro f ⟨hf, hmet⟩
  obtain ⟨chain, hchain, hhead⟩ := met_iff.1 hmet
  obtain ⟨i, hpos, -, hd⟩ := mem_upstream_iff.1 hf
  obtain ⟨j, -, htrail⟩ := h.traced.trail_of_head hchain hhead
  obtain rfl := hd.unique htrail.callDistance
  have hle := hlongest chain hchain
  rw [htrail.length_eq] at hle
  exact mem_upstream_iff.2 ⟨i, hpos, by omega, hd⟩

/-- A search that was stopped has counted the functions that are nearer than its last surface,
that surface's own, and none that is further away. -/
theorem Explored.met_of_stopped {longest : Nat} (hhalts : Halts longest s)
    (hstop : s.stopped = true) :
    ∃ u k, s.surfaces.getLast? = some u ∧ u.chain.length = k + 2 ∧ k + 1 ≤ most ∧
      (upstream calls dependency k).encard < (s.chains.length - 1 : Nat) ∧
      ((s.chains.length - 1 : Nat) : ℕ∞) ≤ (upstream calls dependency (k + 1)).encard := by
  obtain ⟨u, hlast, hlongest⟩ := hhalts.last hstop
  have hu := List.mem_of_getLast? hlast
  obtain ⟨j, hpos, hj, htrail⟩ := h.trail_of_surface hu
  obtain ⟨k, rfl⟩ := Nat.exists_eq_add_of_le' hpos
  refine ⟨u, k, hlast, htrail.length_eq, hj, h.upstream_lt_met hu htrail.length_eq, ?_⟩
  refine h.met_le_of_longest fun c hc => ?_
  rw [← htrail.length_eq]
  exact hlongest c hc

end Search

end Counted

/-! ### Ranks -/

/-- Listed first: more callers, or as many and the lesser name. -/
def Impact.Ahead (a b : Impact) : Prop :=
  b.callers < a.callers ∨ b.callers = a.callers ∧ a.dependency < b.dependency

theorem Impact.Ahead.asymm {a b : Impact} (h : a.Ahead b) : ¬ b.Ahead a := by
  rintro (hfewer | ⟨hsame, hname⟩)
  · rcases h with hmore | ⟨hsame, -⟩ <;> omega
  · rcases h with hmore | ⟨-, hname'⟩
    · omega
    · exact lt_asymm hname hname'

/-- How many functions other than the dependency reach it, in so many calls at most. -/
noncomputable def Impact.reach (calls : List CallEdge) (most : Nat) (i : Impact) : ℕ∞ :=
  (upstream calls i.dependency most).encard

/-- Two items of a list stand in it one way or the other. -/
theorem pair_sublist_or {α : Type} {a b : α} {xs : List α} (ha : a ∈ xs) (hb : b ∈ xs)
    (hne : a ≠ b) : [a, b].Sublist xs ∨ [b, a].Sublist xs := by
  induction xs with
  | nil => cases ha
  | cons x rest ih =>
    rcases List.mem_cons.1 ha with rfl | ha'
    · have hb' : b ∈ rest := (List.mem_cons.1 hb).resolve_left hne.symm
      exact Or.inl ((List.singleton_sublist.2 hb').cons_cons a)
    · rcases List.mem_cons.1 hb with rfl | hb'
      · exact Or.inr ((List.singleton_sublist.2 ha').cons_cons b)
      · exact (ih ha' hb').imp (.cons x) (.cons x)

section Ranks

variable {found : List Impact} (horder : found.Pairwise Impact.Ahead)

include horder

theorem sublist_iff_ahead {a b : Impact} (ha : a ∈ found) (hb : b ∈ found) :
    [a, b].Sublist found ↔ a.Ahead b := by
  constructor
  · exact fun h => List.pairwise_iff_forall_sublist.1 horder h
  · intro h
    have hne : a ≠ b := by
      rintro rfl
      exact h.asymm h
    refine (pair_sublist_or ha hb hne).resolve_right fun hback => ?_
    exact h.asymm (List.pairwise_iff_forall_sublist.1 horder hback)

/-- The list descends by some other measure exactly if every entry that measures more than another
one is ahead of it. -/
theorem pairwise_iff_ahead (measure : Impact → ℕ∞) :
    found.Pairwise (fun a b => measure b ≤ measure a) ↔
      ∀ a ∈ found, ∀ b ∈ found, measure b < measure a → a.Ahead b := by
  constructor
  · intro hranked a ha b hb hlt
    have hne : a ≠ b := by
      rintro rfl
      exact lt_irrefl _ hlt
    rw [← sublist_iff_ahead horder ha hb]
    refine (pair_sublist_or ha hb hne).resolve_right fun hback => ?_
    exact absurd (List.pairwise_iff_forall_sublist.1 hranked hback) (not_le_of_gt hlt)
  · intro hahead
    refine List.pairwise_iff_forall_sublist.2 fun {a b} hsub => ?_
    have ha : a ∈ found := hsub.subset (by simp)
    have hb : b ∈ found := hsub.subset (by simp)
    by_contra hlt
    exact ((sublist_iff_ahead horder ha hb).1 hsub).asymm (hahead b hb a ha (not_le.1 hlt))

end Ranks

theorem impactTree_order (calls : List CallEdge) (maxDepth limit : Int) (bands : RiskBands) :
    (impactTree (.ofCalls calls) maxDepth limit bands).Pairwise Impact.Ahead := by
  have hbefore : ∀ a b : Impact, a.before b = true ↔ (b.callers : Int) < a.callers ∨
      (a.callers : Int) = b.callers ∧ a.dependency ≤ b.dependency := by
    intro a b
    simp [Impact.before]
  have hnames := (impactTree_dependencies_perm (.ofCalls calls) maxDepth limit bands).nodup_iff.2
    ((Graph.nodup_keys_callers_ofCalls calls).filter _)
  have hsorted := (List.mergeSort_perm ((Graph.ofCalls calls).callers.keys.filterMap fun callee =>
    (dependency? callee).map (impactOf (.ofCalls calls) maxDepth limit bands callee))
      Impact.before).map (·.dependency)
  refine (ranked_mergeSort hbefore (hsorted.nodup_iff.1 hnames)).imp fun {a b} h => ?_
  rw [Impact.Ahead]
  exact_mod_cast h

/-- Entries that are ranked by the callers that their searches have counted, given how many calls
count at most. -/
structure IsRanked (calls : List CallEdge) (most : Nat) (found : List Impact) : Prop where
  order : found.Pairwise Impact.Ahead
  /-- A search that was not stopped has counted all callers. -/
  whole : ∀ i ∈ found, i.truncated = false → (i.callers : ℕ∞) = i.reach calls most
  /-- One that was stopped has counted those nearer than its last surface, and none beyond. -/
  cut : ∀ i ∈ found, i.truncated = true →
    ∃ u k, i.surfaces.getLast? = some u ∧ u.chain.length = k + 2 ∧ k + 1 ≤ most ∧
      i.reach calls k < i.callers ∧ i.callers ≤ i.reach calls (k + 1)
  ahead : ∀ a ∈ found, a.truncated = false → ∀ b ∈ found,
    b.reach calls most < a.reach calls most → [a, b].Sublist found
  untruncated : (∀ i ∈ found, i.truncated = false) →
    found.Pairwise (fun a b => b.reach calls most ≤ a.reach calls most)
  ranked_iff : found.Pairwise (fun a b => b.reach calls most ≤ a.reach calls most) ↔
    ∀ a ∈ found, ∀ b ∈ found, b.reach calls most < a.reach calls most → a.Ahead b

/-- With room for a surface at least, an entry whose search was not stopped is listed before all
that fewer functions reach. The whole list descends by the number of functions that reach the
dependencies exactly if no search was stopped so early that its entry falls behind. -/
theorem impactTree_isRanked (calls : List CallEdge) (maxDepth maxSurfaces : Int)
    (bands : RiskBands) (hlimit : 1 ≤ maxSurfaces) :
    IsRanked calls maxDepth.toNat (impactTree (.ofCalls calls) maxDepth maxSurfaces bands) := by
  have horder := impactTree_order calls maxDepth maxSurfaces bands
  have hexplored : ∀ name, Search.Explored calls name maxSurfaces maxDepth.toNat maxDepth.toNat
      (Search.run (.ofCalls calls) name maxDepth maxSurfaces) :=
    fun name => Search.run_explored calls name maxDepth hlimit
  have hwhole : ∀ i ∈ impactTree (.ofCalls calls) maxDepth maxSurfaces bands,
      i.truncated = false → (i.callers : ℕ∞) = i.reach calls maxDepth.toNat := by
    intro i hi hgo
    obtain ⟨name, -, category, -, rfl⟩ := mem_impactTree.1 hi
    exact ((hexplored name).encard_upstream hgo).symm
  have hmost : ∀ i ∈ impactTree (.ofCalls calls) maxDepth maxSurfaces bands,
      (i.callers : ℕ∞) ≤ i.reach calls maxDepth.toNat := by
    intro i hi
    obtain ⟨name, -, category, -, rfl⟩ := mem_impactTree.1 hi
    exact (hexplored name).met_le_upstream
  have hahead : ∀ a ∈ impactTree (.ofCalls calls) maxDepth maxSurfaces bands,
      a.truncated = false → ∀ b ∈ impactTree (.ofCalls calls) maxDepth maxSurfaces bands,
        b.reach calls maxDepth.toNat < a.reach calls maxDepth.toNat → a.Ahead b := by
    intro a ha hgo b hb hlt
    have hcallers := (hmost b hb).trans_lt hlt
    rw [← hwhole a ha hgo] at hcallers
    exact Or.inl (by exact_mod_cast hcallers)
  refine ⟨horder, hwhole, ?_, ?_, ?_, pairwise_iff_ahead horder (Impact.reach calls _)⟩
  · intro i hi hstop
    obtain ⟨name, -, category, -, rfl⟩ := mem_impactTree.1 hi
    exact (hexplored name).met_of_stopped (Search.run_halts _ name maxDepth maxSurfaces) hstop
  · intro a ha hgo b hb hlt
    exact (sublist_iff_ahead horder ha hb).2 (hahead a ha hgo b hb hlt)
  · intro hgo
    exact (pairwise_iff_ahead horder (Impact.reach calls _)).2
      fun a ha b hb hlt => hahead a ha (hgo a ha) b hb hlt

/-- Two jobs and three functions, each group above a dependency of its own; the first of the three
belongs to a page. -/
def jobsAndPage : List CallEdge :=
  [⟨"bill", "fetchOrders", "jobs/bill.py", 1⟩, ⟨"ship", "fetchOrders", "jobs/ship.py", 2⟩,
    ⟨"Users.open", "fetchUsers", "pages/users.py", 3⟩, ⟨"sync", "fetchUsers", "jobs/sync.py", 4⟩,
    ⟨"report", "fetchUsers", "jobs/report.py", 5⟩]

theorem encard_upstream_jobsAndPage : (upstream jobsAndPage "fetchOrders" 6).encard = 2 ∧
    (upstream jobsAndPage "fetchUsers" 6).encard = 3 := by
  have horders := Search.run_explored jobsAndPage "fetchOrders" 6 (show (1 : Int) ≤ 10 by decide)
  have husers := Search.run_explored jobsAndPage "fetchUsers" 6 (show (1 : Int) ≤ 10 by decide)
  exact ⟨horders.encard_upstream (by decide +kernel), husers.encard_upstream (by decide +kernel)⟩

theorem impactTree_jobsAndPage : impactTree (.ofCalls jobsAndPage) 6 1 =
    [impactOf (.ofCalls jobsAndPage) 6 1 {} "fetchOrders" .network,
      impactOf (.ofCalls jobsAndPage) 6 1 {} "fetchUsers" .network] :=
  List.mergeSort_of_pairwise (by decide +kernel)

/-- With room for one surface the search above the page's dependency is stopped, which puts it
behind the other one. -/
theorem impactTree_isRanked_jobsAndPage : (1 : Int) ≤ 1 ∧
    IsRanked jobsAndPage 6 (impactTree (.ofCalls jobsAndPage) 6 1) ∧
    (impactTree (.ofCalls jobsAndPage) 6 1).map (fun i => (i.dependency, i.callers, i.truncated)) =
      [("fetchOrders", 2, false), ("fetchUsers", 1, true)] := by
  refine ⟨by decide, impactTree_isRanked jobsAndPage 6 1 {} (by decide), ?_⟩
  rw [impactTree_jobsAndPage]
  decide +kernel

/-- More functions reach the dependency that is listed last. -/
theorem impactTree_not_by_reach : ¬ (impactTree (.ofCalls jobsAndPage) 6 1).Pairwise
    (fun a b => (upstream jobsAndPage b.dependency 6).encard ≤
      (upstream jobsAndPage a.dependency 6).encard) := by
  rw [impactTree_jobsAndPage, List.pairwise_pair]
  obtain ⟨horders, husers⟩ := encard_upstream_jobsAndPage
  simp only [impactOf, horders, husers]
  decide

end RepoAtlas.Calls
