import Mathlib.Data.List.Sort
import Mathlib.Data.Prod.Lex
import Mathlib.Data.String.Basic
import RepoAtlas.OrderedMap

/-!
Lists sorted by a key. A set of texts has one ascending list, whatever the order in which the
texts came.
-/
namespace RepoAtlas

/-! ### Sorting by a key -/

section Key

variable {α β : Type} [LinearOrder β] {before : α → α → Bool} {key : α → β}

theorem trans_of_key (h : ∀ a b, before a b = true ↔ key a ≤ key b) :
    ∀ a b c, before a b = true → before b c = true → before a c = true := by
  intro a b c hab hbc
  exact (h a c).2 (((h a b).1 hab).trans ((h b c).1 hbc))

theorem total_of_key (h : ∀ a b, before a b = true ↔ key a ≤ key b) :
    ∀ a b, (before a b || before b a) = true := by
  intro a b
  rw [Bool.or_eq_true, h, h]
  exact le_total _ _

theorem pairwise_mergeSort_key (h : ∀ a b, before a b = true ↔ key a ≤ key b) (xs : List α) :
    (xs.mergeSort before).Pairwise (fun a b => key a ≤ key b) := by
  exact (List.pairwise_mergeSort (trans_of_key h) (total_of_key h) xs).imp (fun hle => (h _ _).1 hle)

/-- Items with distinct keys come in strictly ascending order. -/
theorem strict_mergeSort_key (h : ∀ a b, before a b = true ↔ key a ≤ key b) {xs : List α}
    (hnodup : (xs.map key).Nodup) :
    (xs.mergeSort before).Pairwise (fun a b => key a < key b) := by
  have hdistinct : ((xs.mergeSort before).map key).Nodup :=
    ((List.mergeSort_perm xs before).map key).nodup_iff.2 hnodup
  exact (pairwise_mergeSort_key h xs).imp₂ (fun _ _ hle hne => lt_of_le_of_ne hle hne)
    (List.pairwise_map.1 hdistinct)

/-- Items with one key stay in their order. -/
theorem filter_mergeSort_key (h : ∀ a b, before a b = true ↔ key a ≤ key b) (xs : List α) (v : β) :
    (xs.mergeSort before).filter (fun a => decide (key a = v)) =
      xs.filter (fun a => decide (key a = v)) := by
  have hsorted : (xs.filter (fun a => decide (key a = v))).Pairwise (fun a b => before a b) := by
    refine List.pairwise_of_forall_mem_list fun a ha b hb => (h a b).2 ?_
    rw [of_decide_eq_true (List.mem_filter.1 ha).2, of_decide_eq_true (List.mem_filter.1 hb).2]
  have hkept := (List.sublist_mergeSort (trans_of_key h) (total_of_key h) hsorted
    List.filter_sublist).filter (fun a => decide (key a = v))
  rw [List.filter_filter] at hkept
  simp only [Bool.and_self] at hkept
  exact (hkept.eq_of_length ((List.mergeSort_perm xs before).filter _).length_eq.symm).symm

/-- The first item of a sorted list with a property has the least key of those with the property,
and came first among those with that key. -/
theorem find?_mergeSort_key (h : ∀ a b, before a b = true ↔ key a ≤ key b) {xs : List α}
    {p : α → Bool} {x : α} (hfind : (xs.mergeSort before).find? p = some x) :
    p x = true ∧ ∃ earlier later, xs = earlier ++ x :: later ∧
      (∀ y ∈ earlier, p y = true → key x < key y) ∧ ∀ y ∈ later, p y = true → key x ≤ key y := by
  obtain ⟨hx, front, back, hsplit, hfront⟩ := List.find?_eq_some_iff_append.1 hfind
  have hleast : ∀ y ∈ xs, p y = true → key x ≤ key y := by
    intro y hy hpy
    have hsorted := pairwise_mergeSort_key h xs
    have hmem : y ∈ xs.mergeSort before := List.mem_mergeSort.2 hy
    rw [hsplit] at hsorted hmem
    rcases List.mem_append.1 hmem with hearly | hlate
    · exact absurd hpy (by simpa using hfront y hearly)
    · rcases List.mem_cons.1 hlate with rfl | hback
      · exact le_rfl
      · exact (List.pairwise_cons.1 (List.pairwise_append.1 hsorted).2.1).1 y hback
  have hfirst : (xs.filter (fun a => decide (key a = key x))).find? p = some x := by
    rw [← filter_mergeSort_key h, hsplit, List.filter_append, List.filter_cons_of_pos (by simp)]
    refine List.find?_eq_some_iff_append.2 ⟨hx, _, _, rfl, fun y hy => ?_⟩
    exact hfront y (List.mem_of_mem_filter hy)
  rw [List.find?_filter] at hfirst
  obtain ⟨-, earlier, later, rfl, hearlier⟩ := List.find?_eq_some_iff_append.1 hfirst
  refine ⟨hx, earlier, later, rfl, fun y hy hpy => ?_, fun y hy => ?_⟩
  · refine lt_of_le_of_ne (hleast y (List.mem_append_left _ hy) hpy) fun heq => ?_
    simpa [hpy, heq] using hearlier y hy
  · exact hleast y (List.mem_append_right _ (List.mem_cons_of_mem x hy))

/-- A sorted list is known by its items with each key. -/
theorem eq_of_sorted_of_filter {xs ys : List α} (hxs : xs.Pairwise (fun a b => key a ≤ key b))
    (hys : ys.Pairwise (fun a b => key a ≤ key b))
    (h : ∀ v, xs.filter (fun a => decide (key a = v)) = ys.filter (fun a => decide (key a = v))) :
    xs = ys := by
  induction xs generalizing ys with
  | nil =>
    cases ys with
    | nil => rfl
    | cons y rest => simpa using h (key y)
  | cons x xs ih =>
    cases ys with
    | nil => simpa using h (key x)
    | cons y ys =>
      have hmem : ∀ a, a ∈ x :: xs ↔ a ∈ y :: ys := fun a => by
        simpa using congrArg (a ∈ ·) (h (key a))
      have hle : ∀ {a b : α} {rest : List α}, (a :: rest).Pairwise (fun a b => key a ≤ key b) →
          b ∈ a :: rest → key a ≤ key b := by
        intro a b rest hsorted hb
        rcases List.mem_cons.1 hb with rfl | hb
        · exact le_rfl
        · exact (List.pairwise_cons.1 hsorted).1 b hb
      have hkey : key x = key y := le_antisymm (hle hxs ((hmem y).2 List.mem_cons_self))
        (hle hys ((hmem x).1 List.mem_cons_self))
      have hfirst := h (key x)
      rw [List.filter_cons_of_pos (by simp), List.filter_cons_of_pos (by simp [hkey])] at hfirst
      rw [(List.cons.inj hfirst).1] at h ⊢
      refine congrArg _ (ih hxs.of_cons hys.of_cons fun v => ?_)
      have hv := h v
      by_cases hyv : key y = v
      · rw [List.filter_cons_of_pos (by simpa using hyv),
          List.filter_cons_of_pos (by simpa using hyv)] at hv
        exact (List.cons.inj hv).2
      · rwa [List.filter_cons_of_neg (by simpa using hyv),
          List.filter_cons_of_neg (by simpa using hyv)] at hv

theorem mergeSort_key_eq_iff (h : ∀ a b, before a b = true ↔ key a ≤ key b) {xs ys : List α} :
    xs.mergeSort before = ys.mergeSort before ↔
      ∀ v, xs.filter (fun a => decide (key a = v)) = ys.filter (fun a => decide (key a = v)) := by
  constructor
  · intro heq v
    rw [← filter_mergeSort_key h xs, heq, filter_mergeSort_key h]
  · intro hsame
    refine eq_of_sorted_of_filter (pairwise_mergeSort_key h xs) (pairwise_mergeSort_key h ys) ?_
    intro v
    rw [filter_mergeSort_key h, filter_mergeSort_key h, hsame v]

/-- If no two items have one key, the order in which they came does not show. -/
theorem mergeSort_eq_of_perm (h : ∀ a b, before a b = true ↔ key a ≤ key b)
    (hkey : Function.Injective key) {xs ys : List α} (hperm : xs.Perm ys) :
    xs.mergeSort before = ys.mergeSort before := by
  have hsorted := (List.mergeSort_perm xs before).trans
    (hperm.trans (List.mergeSort_perm ys before).symm)
  refine hsorted.eq_of_pairwise (fun a b _ _ hab hba => hkey (le_antisymm hab hba)) ?_ ?_
  · exact pairwise_mergeSort_key h xs
  · exact pairwise_mergeSort_key h ys

/-- Lists that are sorted into one are still so when the same items go and the same are added. -/
theorem mergeSort_filter_append (h : ∀ a b, before a b = true ↔ key a ≤ key b) {xs ys : List α}
    (heq : xs.mergeSort before = ys.mergeSort before) (p : α → Bool) (more : List α) :
    (xs.filter p ++ more).mergeSort before = (ys.filter p ++ more).mergeSort before := by
  rw [mergeSort_key_eq_iff h] at heq ⊢
  intro v
  rw [List.filter_append, List.filter_append, List.filter_comm, heq v, List.filter_comm]

end Key

/-! ### Scores and names -/

/-- Higher scores come first, equal scores by name. -/
def scoreRank (score : Int) (name : String) : Int ×ₗ String := toLex (-score, name)

theorem scoreRank_le_iff {s t : Int} {a b : String} :
    scoreRank s a ≤ scoreRank t b ↔ t < s ∨ s = t ∧ a ≤ b := by
  rw [scoreRank, scoreRank, Prod.Lex.toLex_le_toLex]
  simp only [Int.neg_lt_neg_iff, Int.neg_inj]

theorem scoreRank_lt_iff {s t : Int} {a b : String} :
    scoreRank s a < scoreRank t b ↔ t < s ∨ t = s ∧ a < b := by
  rw [scoreRank, scoreRank, Prod.Lex.toLex_lt_toLex]
  simp only [Int.neg_lt_neg_iff, Int.neg_inj, eq_comm]

/-- Items with distinct names are strictly ranked by score and name. -/
theorem ranked_mergeSort {α : Type} {before : α → α → Bool} {score : α → Int} {name : α → String}
    (h : ∀ a b, before a b = true ↔ score b < score a ∨ score a = score b ∧ name a ≤ name b)
    {xs : List α} (hnodup : (xs.map name).Nodup) :
    (xs.mergeSort before).Pairwise
      (fun a b => score b < score a ∨ score b = score a ∧ name a < name b) := by
  have hrank : ∀ a b, before a b = true ↔
      scoreRank (score a) (name a) ≤ scoreRank (score b) (name b) :=
    fun a b => (h a b).trans scoreRank_le_iff.symm
  have hranks : (xs.map (fun a => scoreRank (score a) (name a))).Nodup := by
    apply List.Nodup.of_map (fun r => (ofLex r).2)
    rw [List.map_map]
    exact hnodup
  exact (strict_mergeSort_key hrank hranks).imp scoreRank_lt_iff.1

/-! ### Texts -/

theorem sortTexts_perm (texts : List String) : (sortTexts texts).Perm texts :=
  List.mergeSort_perm _ _

theorem mem_sortTexts {x : String} {texts : List String} : x ∈ sortTexts texts ↔ x ∈ texts :=
  List.mem_mergeSort

theorem mem_sortedSet {x : String} {texts : List String} : x ∈ sortedSet texts ↔ x ∈ texts := by
  rw [sortedSet, mem_sortTexts, mem_distinct]

theorem nodup_sortedSet (texts : List String) : (sortedSet texts).Nodup :=
  (sortTexts_perm _).nodup_iff.2 (nodup_distinct texts)

theorem pairwise_sortTexts {texts : List String} (h : texts.Nodup) :
    (sortTexts texts).Pairwise (· < ·) := by
  refine strict_mergeSort_key (fun a b => decide_eq_true_iff) ?_
  rwa [List.map_id']

/-- Texts without repetition are known by their sorted list. -/
theorem sortTexts_eq_iff {xs ys : List String} (hxs : xs.Nodup) (hys : ys.Nodup) :
    sortTexts xs = sortTexts ys ↔ ∀ x, x ∈ sortTexts xs ↔ x ∈ sortTexts ys := by
  constructor
  · intro heq x
    rw [heq]
  · exact (pairwise_sortTexts hxs).eq_of_mem_iff (pairwise_sortTexts hys)

theorem pairwise_sortedSet (texts : List String) : (sortedSet texts).Pairwise (· < ·) :=
  pairwise_sortTexts (nodup_distinct texts)

/-- A set of texts has one ascending list. -/
theorem sortedSet_eq_iff {xs ys : List String} :
    sortedSet xs = ys ↔ ys.Pairwise (· < ·) ∧ ∀ x, x ∈ xs ↔ x ∈ ys := by
  constructor
  · rintro rfl
    exact ⟨pairwise_sortedSet xs, fun x => mem_sortedSet.symm⟩
  · rintro ⟨hys, h⟩
    refine (pairwise_sortedSet xs).eq_of_mem_iff hys fun x => ?_
    rw [mem_sortedSet, h]

/-- The same texts have the same ascending list. -/
theorem sortedSet_congr {xs ys : List String} (h : ∀ x, x ∈ xs ↔ x ∈ ys) :
    sortedSet xs = sortedSet ys := by
  refine sortedSet_eq_iff.2 ⟨pairwise_sortedSet ys, fun x => ?_⟩
  rw [mem_sortedSet, h]

end RepoAtlas
