import RepoAtlas.Proofs.Types.Matching

/-!
Flow edges run in one direction only. The definitions of a group stand in the order of their
repositories, so every pair joins a repository to one that comes after it.
-/
namespace RepoAtlas.Types

section Order

variable {α : Type} {order : List α} {x y : α}

/-- The first item comes before the second one. -/
def Precedes (order : List α) (x y : α) : Prop := [x, y].Sublist order

theorem precedes_cons {z : α} : Precedes (z :: order) x y ↔
    Precedes order x y ∨ x = z ∧ y ∈ order := by
  rw [Precedes, List.cons_sublist_cons', List.singleton_sublist, Precedes]

theorem precedes_append {others : List α} : Precedes (order ++ others) x y ↔
    Precedes order x y ∨ x ∈ order ∧ y ∈ others ∨ Precedes others x y := by
  induction order with
  | nil => simp [Precedes]
  | cons z rest ih =>
    rw [List.cons_append, precedes_cons, ih, precedes_cons, List.mem_append, List.mem_cons]
    simp only [and_or_left, or_and_right, or_assoc, or_left_comm, or_comm]

theorem precedes_filter {p : α → Bool} :
    Precedes (order.filter p) x y ↔ Precedes order x y ∧ p x = true ∧ p y = true := by
  constructor
  · intro h
    have hmem : ∀ z ∈ [x, y], p z = true := fun z hz => (List.mem_filter.1 (h.subset hz)).2
    exact ⟨h.trans List.filter_sublist, hmem x (by simp), hmem y (by simp)⟩
  · rintro ⟨h, hx, hy⟩
    have hboth : [x, y].filter p = [x, y] := by simp [hx, hy]
    rw [Precedes, ← hboth]
    exact List.Sublist.filter p h

/-- Each pair is taken in the order of its items. -/
theorem mem_pairs_iff : (x, y) ∈ pairs order ↔ Precedes order x y := by
  induction order with
  | nil => simp [pairs, Precedes]
  | cons z rest ih =>
    rw [pairs, List.mem_append, ih, precedes_cons, or_comm, List.mem_map]
    refine or_congr_right ⟨?_, ?_⟩
    · rintro ⟨w, hw, heq⟩
      cases heq
      exact ⟨rfl, hw⟩
    · rintro ⟨rfl, hy⟩
      exact ⟨y, hy, rfl⟩

section Ranked

variable [DecidableEq α]

/-- Among distinct items the places tell which comes first. -/
theorem precedes_iff_idxOf (hnodup : order.Nodup) :
    Precedes order x y ↔ y ∈ order ∧ order.idxOf x < order.idxOf y := by
  induction order with
  | nil => simp [Precedes]
  | cons z rest ih =>
    obtain ⟨hz, hrest⟩ := List.nodup_cons.1 hnodup
    rw [precedes_cons, ih hrest, List.mem_cons]
    by_cases hx : z = x
    · subst hx
      by_cases hy : z = y
      · subst hy
        simp [hz]
      · rw [List.idxOf_cons_self, List.idxOf_cons_ne _ hy]
        simp only [true_and, Ne.symm hy, false_or, Nat.zero_lt_succ, and_true]
        exact or_iff_right_of_imp And.left
    · by_cases hy : z = y
      · subst hy
        simp [Ne.symm hx, hz]
      · rw [List.idxOf_cons_ne _ hx, List.idxOf_cons_ne _ hy]
        simp only [Ne.symm hx, Ne.symm hy, false_and, or_false, false_or, Nat.succ_lt_succ_iff]

theorem Precedes.asymm (hnodup : order.Nodup) (h : Precedes order x y) : ¬ Precedes order y x := by
  rw [precedes_iff_idxOf hnodup] at h ⊢
  exact fun hback => lt_asymm h.2 hback.2

theorem Precedes.ne (hnodup : order.Nodup) (h : Precedes order x y) : x ≠ y := by
  rintro rfl
  exact h.asymm hnodup h

theorem precedes_or_precedes (hnodup : order.Nodup) (hx : x ∈ order) (hy : y ∈ order)
    (hne : x ≠ y) : Precedes order x y ∨ Precedes order y x := by
  rw [precedes_iff_idxOf hnodup, precedes_iff_idxOf hnodup]
  rcases lt_trichotomy (order.idxOf x) (order.idxOf y) with hlt | heq | hgt
  · exact Or.inl ⟨hy, hlt⟩
  · exact absurd ((List.idxOf_inj hx).1 heq) hne
  · exact Or.inr ⟨hx, hgt⟩

/-- A part of a list keeps its order. -/
theorem precedes_of_sublist {part : List α} (hpart : part.Sublist order) (hnodup : order.Nodup)
    (hx : x ∈ part) (hy : y ∈ part) : Precedes part x y ↔ Precedes order x y := by
  constructor
  · exact fun h => h.trans hpart
  · intro h
    rcases precedes_or_precedes (hnodup.sublist hpart) hx hy (h.ne hnodup) with hkept | hback
    · exact hkept
    · exact absurd (hback.trans hpart) (h.asymm hnodup)

end Ranked

end Order

/-! ### Definitions in the order of their repositories -/

section Instances

variable {types : List (String × List TypeDefinition)} {a b : Instance}

theorem mem_instancesOf : a ∈ instancesOf types ↔ ∃ ts, (a.repo, ts) ∈ types ∧ a.type ∈ ts := by
  rw [instancesOf, List.mem_flatMap]
  constructor
  · rintro ⟨⟨repo, ts⟩, hrepo, ha⟩
    obtain ⟨t, ht, rfl⟩ := List.mem_map.1 ha
    exact ⟨ts, hrepo, ht⟩
  · rintro ⟨ts, hrepo, ht⟩
    exact ⟨(a.repo, ts), hrepo, List.mem_map.2 ⟨a.type, ht, rfl⟩⟩

theorem repo_mem_of_mem_instancesOf (ha : a ∈ instancesOf types) : a.repo ∈ types.map (·.1) := by
  obtain ⟨ts, hrepo, -⟩ := mem_instancesOf.1 ha
  exact List.mem_map_of_mem hrepo

/-- Repositories with type data stand in the order of the mapping. -/
theorem withData_sublist (declared : List (String × Option (List TypeDefinition))) :
    ((withData declared).map (·.1)).Sublist (declared.map (·.1)) := by
  induction declared with
  | nil => exact List.Sublist.refl _
  | cons first rest ih =>
    obtain ⟨repo, ts⟩ := first
    cases ts with
    | none => exact ih.cons repo
    | some ts => exact ih.cons_cons repo

/-- Of two repositories, all definitions of the first come before those of the second. -/
theorem precedes_instancesOf (hnodup : (types.map (·.1)).Nodup) (hapart : a.repo ≠ b.repo) :
    Precedes (instancesOf types) a b ↔ a ∈ instancesOf types ∧ b ∈ instancesOf types ∧
      Precedes (types.map (·.1)) a.repo b.repo := by
  induction types with
  | nil => simp [instancesOf, Precedes]
  | cons first rest ih =>
    obtain ⟨repo, ts⟩ := first
    obtain ⟨hnew, hrest⟩ := List.nodup_cons.1 hnodup
    have hsplit : instancesOf ((repo, ts) :: rest) =
        ts.map (Instance.mk repo) ++ instancesOf rest := List.flatMap_cons
    have hown : ∀ {i}, i ∈ ts.map (Instance.mk repo) → i.repo = repo := by
      intro i hi
      obtain ⟨t, -, rfl⟩ := List.mem_map.1 hi
      rfl
    have hlater : ∀ {i}, i ∈ instancesOf rest → i.repo ≠ repo :=
      fun hi heq => hnew (heq ▸ repo_mem_of_mem_instancesOf hi)
    rw [hsplit, precedes_append, ih hrest, List.map_cons, precedes_cons, List.mem_append,
      List.mem_append]
    constructor
    · rintro (htogether | ⟨ha, hb⟩ | ⟨ha, hb, hbefore⟩)
      · exact absurd ((hown (htogether.subset (by simp))).trans
          (hown (htogether.subset (by simp))).symm) hapart
      · exact ⟨Or.inl ha, Or.inr hb, Or.inr ⟨hown ha, repo_mem_of_mem_instancesOf hb⟩⟩
      · exact ⟨Or.inr ha, Or.inr hb, Or.inl hbefore⟩
    · rintro ⟨ha, hb, hbefore | ⟨hfirst, -⟩⟩
      · have hkeys : ∀ r ∈ [a.repo, b.repo], r ≠ repo := fun r hr heq =>
          hnew (heq ▸ hbefore.subset hr)
        have ha' := ha.resolve_left fun h => hkeys a.repo (by simp) (hown h)
        have hb' := hb.resolve_left fun h => hkeys b.repo (by simp) (hown h)
        exact Or.inr (Or.inr ⟨ha', hb', hbefore⟩)
      · have ha' := ha.resolve_right fun h => hlater h hfirst
        have hb' := hb.resolve_left fun h => hapart (hfirst.trans (hown h).symm)
        exact Or.inr (Or.inl ⟨ha', hb'⟩)

/-- The pairs of a group lead from each of its repositories to those that come after it. -/
theorem mem_crossPairs_filter (hnodup : (types.map (·.1)).Nodup) {p : Instance → Bool} :
    (a, b) ∈ crossPairs ((instancesOf types).filter p) ↔
      a ∈ (instancesOf types).filter p ∧ b ∈ (instancesOf types).filter p ∧
        Precedes (types.map (·.1)) a.repo b.repo := by
  rw [crossPairs, List.mem_filter, mem_pairs_iff, precedes_filter, decide_eq_true_iff,
    List.mem_filter, List.mem_filter]
  constructor
  · rintro ⟨⟨hbefore, hpa, hpb⟩, hapart⟩
    obtain ⟨ha, hb, hrepos⟩ := (precedes_instancesOf hnodup hapart).1 hbefore
    exact ⟨⟨ha, hpa⟩, ⟨hb, hpb⟩, hrepos⟩
  · rintro ⟨⟨ha, hpa⟩, ⟨hb, hpb⟩, hrepos⟩
    have hapart : a.repo ≠ b.repo := hrepos.ne hnodup
    exact ⟨⟨(precedes_instancesOf hnodup hapart).2 ⟨ha, hb, hrepos⟩, hpa, hpb⟩, hapart⟩

end Instances

/-! ### Flow edges of matches -/

section Flows

variable {w : SimilarityWeights} {types : List (String × List TypeDefinition)}
variable {found : List Match}

/-- Whatever the weights, a match has all definitions of its name. -/
theorem instances_of_matchAcrossRepos (h : matchAcrossRepos w types = .ok found) {m : Match}
    (hm : m ∈ found) :
    m.instances = (instancesOf types).filter (fun i => normalized i.type.name = m.name) := by
  rw [matchAcrossRepos_eq, bind_eq_ok_iff] at h
  obtain ⟨unsorted, hscored, hsorted⟩ := h
  obtain rfl := pure_eq_ok_iff.1 hsorted
  obtain ⟨⟨name, group⟩, hg, hone⟩ := mem_of_mapM_eq_ok hscored (List.mem_mergeSort.1 hm)
  obtain ⟨hname, hmembers, -⟩ := scored_eq_ok_iff.1 hone
  rw [hmembers, hname]
  exact (mem_shared_groups.1 hg).1

theorem mem_repos {m : Match} {repo : String} :
    repo ∈ m.repos ↔ ∃ i ∈ m.instances, i.repo = repo := by
  rw [Match.repos, mem_sortedSet, List.mem_map]

theorem apart_of_mem_flowEdges {floor : Int} {f : FlowEdge} (hf : f ∈ flowEdges floor found) :
    f.sourceRepo ≠ f.targetRepo := by
  rw [flowEdges, List.mem_flatMap] at hf
  obtain ⟨m, -, hpair⟩ := hf
  obtain ⟨p, hp, rfl⟩ := List.mem_map.1 hpair
  exact of_decide_eq_true (List.mem_filter.1 hp).2

/-- A flow from one repository to another by a type of the first: some match that is similar
enough has the type and a definition of the other, which comes later. -/
theorem exists_flow_iff (h : matchAcrossRepos w types = .ok found)
    (hnodup : (types.map (·.1)).Nodup) {floor : Int} {source target name : String}
    {p : Int → Prop} :
    (∃ f ∈ flowEdges floor found, p f.confidence ∧ f.sourceRepo = source ∧ f.targetRepo = target ∧
      f.sourceType = name) ↔ Precedes (types.map (·.1)) source target ∧
        ∃ m ∈ found, (floor ≤ m.score ∧ p m.score) ∧ target ∈ m.repos ∧
          ∃ i ∈ m.instances, i.repo = source ∧ i.type.name = name := by
  simp only [flowEdges, List.mem_flatMap, List.mem_filter, decide_eq_true_iff, List.mem_map]
  constructor
  · rintro ⟨-, ⟨m, ⟨hm, hfloor⟩, ⟨a, b⟩, hpair, rfl⟩, hp, rfl, rfl, rfl⟩
    rw [instances_of_matchAcrossRepos h hm] at hpair
    obtain ⟨ha, hb, hbefore⟩ := (mem_crossPairs_filter hnodup).1 hpair
    rw [← instances_of_matchAcrossRepos h hm] at ha hb
    exact ⟨hbefore, m, hm, ⟨hfloor, hp⟩, mem_repos.2 ⟨b, hb, rfl⟩, a, ha, rfl, rfl⟩
  · rintro ⟨hbefore, m, hm, ⟨hfloor, hp⟩, htarget, a, ha, rfl, rfl⟩
    obtain ⟨b, hb, rfl⟩ := mem_repos.1 htarget
    have hpair : (a, b) ∈ crossPairs m.instances := by
      rw [instances_of_matchAcrossRepos h hm] at ha hb ⊢
      exact (mem_crossPairs_filter hnodup).2 ⟨ha, hb, hbefore⟩
    exact ⟨_, ⟨m, ⟨hm, hfloor⟩, (a, b), hpair, rfl⟩, hp, rfl, rfl, rfl⟩

end Flows

end RepoAtlas.Types
