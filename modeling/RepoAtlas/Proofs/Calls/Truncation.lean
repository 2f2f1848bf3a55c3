import Mathlib.Data.Set.Card
import Mathlib.Logic.Relation
import Mathlib.Order.CompletePartialOrder
import RepoAtlas.Proofs.Calls.BoundedSearch

/-!
What a traversal says about the nodes that it left out. `ball` is what its depth lets it reach and
`closure` what there is to reach at all. A walk lacks room if the ball is too big for it, and it
lacks depth if the ball has room but a hop leads out of it.
-/
namespace RepoAtlas.Calls

section Reach

variable {α : Type} {hop : α → α → Prop} {seeds : List α} {depth : Nat}

/-- The nodes within a number of hops of a seed. -/
def ball (hop : α → α → Prop) (seeds : List α) (depth : Nat) : Set α :=
  {n | ∃ k ≤ depth, Reaches hop seeds k n}

/-- The nodes that any number of hops leads to from a seed. -/
def closure (hop : α → α → Prop) (seeds : List α) : Set α :=
  {n | ∃ s ∈ seeds, Relation.ReflTransGen hop s n}

theorem mem_ball_iff_isDistance {n : α} :
    n ∈ ball hop seeds depth ↔ ∃ k ≤ depth, IsDistance hop seeds n k := by
  constructor
  · rintro ⟨k, hk, h⟩
    obtain ⟨j, hj, hd⟩ := exists_isDistance_of_reaches h
    exact ⟨j, hj.trans hk, hd⟩
  · rintro ⟨k, hk, hd⟩
    exact ⟨k, hk, hd.reached⟩

theorem mem_closure_iff {n : α} : n ∈ closure hop seeds ↔ ∃ k, Reaches hop seeds k n := by
  constructor
  · rintro ⟨s, hs, h⟩
    induction h with
    | refl => exact ⟨0, .seed hs⟩
    | tail _ hmn ih =>
      obtain ⟨k, hk⟩ := ih
      exact ⟨k + 1, .step hk hmn⟩
  · rintro ⟨k, h⟩
    induction h with
    | seed hs => exact ⟨_, hs, .refl⟩
    | step _ hmn ih =>
      obtain ⟨s, hs, hsm⟩ := ih
      exact ⟨s, hs, hsm.tail hmn⟩

theorem ball_subset_closure : ball hop seeds depth ⊆ closure hop seeds := by
  rintro n ⟨k, -, h⟩
  exact mem_closure_iff.2 ⟨k, h⟩

/-- A path that leaves the ball takes a hop from its outermost layer to a node outside. -/
theorem exists_way_out {n : α} {k : Nat} (h : Reaches hop seeds k n)
    (hn : n ∉ ball hop seeds depth) :
    ∃ m, IsDistance hop seeds m depth ∧ ∃ out, hop m out ∧ out ∉ ball hop seeds depth := by
  induction h with
  | seed hs => exact absurd ⟨0, Nat.zero_le depth, .seed hs⟩ hn
  | @step k m n _ hmn ih =>
    by_cases hm : m ∈ ball hop seeds depth
    · obtain ⟨j, hj, hd⟩ := mem_ball_iff_isDistance.1 hm
      have hlast : j = depth := by
        by_contra hne
        exact hn ⟨j + 1, by omega, .step hd.reached hmn⟩
      exact ⟨m, hlast ▸ hd, n, hmn, hn⟩
    · exact ih hm

/-- There is more to reach than the ball if a hop leads out of its outermost layer. -/
theorem ball_ssubset_closure_iff : ball hop seeds depth ⊂ closure hop seeds ↔
    ∃ m, IsDistance hop seeds m depth ∧ ∃ out, hop m out ∧ out ∉ ball hop seeds depth := by
  constructor
  · intro h
    obtain ⟨n, hn, hout⟩ := Set.exists_of_ssubset h
    obtain ⟨k, hk⟩ := mem_closure_iff.1 hn
    exact exists_way_out hk hout
  · rintro ⟨m, hm, out, hmo, hout⟩
    refine ball_subset_closure.ssubset_of_ne ?_
    intro heq
    refine hout (heq ▸ mem_closure_iff.2 ?_)
    exact ⟨depth + 1, .step hm.reached hmo⟩

end Reach

theorem encard_setOf_mem {α : Type} [DecidableEq α] {xs : List α} (h : xs.Nodup) :
    {n | n ∈ xs}.encard = xs.length := by
  rw [← List.coe_toFinset, Set.encard_coe_eq_coe_finsetCard, List.toFinset_card_of_nodup h]

namespace Walk

variable {hop : String → String → Prop} {seeds : List String} {room depth : Nat} {w : Walk}

theorem Explored.nodes_subset (h : Explored hop seeds room (depth + 1) w) :
    {n | n ∈ w.nodes} ⊆ ball hop seeds depth := by
  intro n hn
  obtain ⟨k, hk⟩ := mem_nodes.1 hn
  obtain ⟨hlt, hd⟩ := h.near n k hk
  exact ⟨k, by omega, hd.reached⟩

theorem Explored.nodes_eq (h : Explored hop seeds room (depth + 1) w) (hw : w.full = false) :
    {n | n ∈ w.nodes} = ball hop seeds depth := by
  refine h.nodes_subset.antisymm ?_
  intro n hn
  obtain ⟨k, hk, hd⟩ := mem_ball_iff_isDistance.1 hn
  exact h.whole hw n k (by omega) hd

theorem Explored.nodes_ssubset (h : Explored hop seeds room (depth + 1) w) (hw : w.full = true) :
    {n | n ∈ w.nodes} ⊂ ball hop seeds depth := by
  obtain ⟨-, last, hlast, ⟨n, hd, hout⟩, -⟩ := h.cut hw
  refine h.nodes_subset.ssubset_of_ne ?_
  intro heq
  refine hout (show n ∈ {n | n ∈ w.nodes} from heq ▸ ?_)
  exact ⟨last, by omega, hd.reached⟩

/-- A walk finds no room for some node exactly if the ball has more nodes than there is room. -/
theorem Explored.full_iff (h : Explored hop seeds room (depth + 1) w) :
    w.full = true ↔ (room : ℕ∞) < (ball hop seeds depth).encard := by
  have hcard := encard_setOf_mem h.nodup
  have hlength : w.nodes.length = w.found.length := List.length_map _
  constructor
  · intro hw
    have hlt := (List.finite_toSet w.nodes).encard_lt_encard (h.nodes_ssubset hw)
    rwa [hcard, hlength, (h.cut hw).1] at hlt
  · intro hlt
    by_contra hw
    rw [← h.nodes_eq (Bool.eq_false_of_not_eq_true hw), hcard, hlength] at hlt
    exact absurd h.fits (Nat.not_le.2 (by exact_mod_cast hlt))

theorem cut?_eq_depth_iff {step : String → List String} :
    w.cut? step depth = some .depth ↔
      w.full = false ∧ ∃ m ∈ w.layer depth, ∃ n ∈ step m, n ∉ w.nodes := by
  cases hw : w.full with
  | true => simp [cut?, hw]
  | false => simp [cut?, hw]

/-- A walk with room stops for its depth exactly if there is more to reach. -/
theorem Explored.cut?_depth_iff {step : String → List String}
    (hstep : ∀ m n, n ∈ step m ↔ hop m n) (h : Explored hop seeds room (depth + 1) w) :
    w.cut? step depth = some .depth ↔
      w.full = false ∧ ball hop seeds depth ⊂ closure hop seeds := by
  rw [cut?_eq_depth_iff, ball_ssubset_closure_iff]
  refine and_congr_right fun hw => exists_congr fun m => ?_
  rw [h.mem_layer_iff hw (Nat.lt_succ_self depth), ← h.nodes_eq hw]
  simp only [hstep, Set.mem_ofPred_eq]

end Walk

theorem cut_eq_none_iff {cut : Option Cut} :
    cut = none ↔ cut ≠ some .nodes ∧ cut ≠ some .depth := by
  cases cut with
  | none => simp
  | some c => cases c <;> simp

/-- A traversal within two limits names the one that kept it from what it left out. -/
structure NamesItsLimit (calls : List CallEdge) (seeds : List String) (direction : Direction)
    (deepest room : Nat) (t : Traversal) : Prop where
  nodes : t.cut = some .nodes ↔ (room : ℕ∞) < (ball (Hop calls direction) seeds deepest).encard
  depth : t.cut = some .depth ↔
    ¬ (room : ℕ∞) < (ball (Hop calls direction) seeds deepest).encard ∧
      ball (Hop calls direction) seeds deepest ⊂ closure (Hop calls direction) seeds
  neither : t.cut = none ↔
    ¬ (room : ℕ∞) < (ball (Hop calls direction) seeds deepest).encard ∧
      ¬ ball (Hop calls direction) seeds deepest ⊂ closure (Hop calls direction) seeds
  /-- No limit is named exactly if nothing was left out. -/
  whole : t.cut = none ↔ {n | n ∈ t.nodes} = closure (Hop calls direction) seeds

theorem Walk.Explored.namesItsLimit {calls : List CallEdge} {seeds : List String}
    {direction : Direction} {room depth : Nat} {w : Walk} {step : String → List String}
    (hstep : ∀ m n, n ∈ step m ↔ Hop calls direction m n)
    (h : w.Explored (Hop calls direction) seeds room (depth + 1)) {t : Traversal}
    (hfound : t.found = w.found) (hcut : t.cut = w.cut? step depth) :
    NamesItsLimit calls seeds direction depth room t := by
  have hnodes : t.nodes = w.nodes := by rw [Traversal.nodes, hfound, Walk.nodes]
  have hroom : t.cut = some .nodes ↔ w.full = true := by rw [hcut, Walk.cut?_eq_nodes_iff]
  have hdepth := hcut ▸ h.cut?_depth_iff hstep
  have hnone : t.cut = none ↔ w.full = false ∧
      ¬ ball (Hop calls direction) seeds depth ⊂ closure (Hop calls direction) seeds := by
    rw [cut_eq_none_iff, ne_eq, hroom, Bool.not_eq_true, ne_eq, hdepth]
    tauto
  constructor
  · rw [hroom, h.full_iff]
  · rw [hdepth, ← h.full_iff, Bool.not_eq_true]
  · rw [hnone, ← h.full_iff, Bool.not_eq_true]
  · rw [hnone, hnodes]
    constructor
    · rintro ⟨hw, hall⟩
      rw [h.nodes_eq hw]
      exact eq_of_subset_of_not_ssubset ball_subset_closure hall
    · intro heq
      have hw : w.full = false := by
        rw [← Bool.not_eq_true]
        intro hfull
        exact (h.nodes_ssubset hfull).not_subset (heq ▸ ball_subset_closure)
      rw [← heq, h.nodes_eq hw]
      exact ⟨hw, ssubset_irrefl _⟩

/-- Every traversal with limits that make sense tells whether it lacked room, or only depth, or
nothing at all. -/
theorem traverse_namesItsLimit (calls : List CallEdge) (seeds : List String)
    (direction : Direction) (maxDepth maxNodes : Int) (hdepth : 0 ≤ maxDepth)
    (hnodes : 1 ≤ maxNodes) :
    ∃ t, (Graph.ofCalls calls).traverse seeds direction maxDepth maxNodes = .ok t ∧
      NamesItsLimit calls seeds direction (min maxDepth.toNat 5) maxNodes.toNat t := by
  have hd : ¬ maxDepth < 0 := by omega
  have hn : ¬ maxNodes < 1 := by omega
  simp only [Graph.traverse, hd, hn, if_false, Except.ok.injEq, exists_eq_left']
  have hstep := Graph.mem_neighbours_ofCalls calls direction
  have h := Walk.run_explored hstep maxNodes.toNat (min maxDepth.toNat maxTraversalDepth) seeds
  exact h.namesItsLimit hstep rfl rfl

/-- A circle that closes at the greatest depth, with exactly as much room as it needs. -/
theorem traverse_namesItsLimit_circle :
    let calls : List CallEdge := [⟨"a", "b", "", 0⟩, ⟨"b", "c", "", 0⟩, ⟨"c", "a", "", 0⟩]
    (0 : Int) ≤ 2 ∧ (1 : Int) ≤ 3 ∧
      ∃ t, (Graph.ofCalls calls).traverse ["a"] .callees 2 3 = .ok t ∧
        NamesItsLimit calls ["a"] .callees 2 3 t ∧ t.cut = none := by
  intro calls
  obtain ⟨t, ht, hlimit⟩ := traverse_namesItsLimit calls ["a"] .callees 2 3 (by decide) (by decide)
  have hcut : ((Graph.ofCalls calls).traverse ["a"] .callees 2 3).map (·.cut) = .ok none := by
    decide
  rw [ht] at hcut
  exact ⟨by decide, by decide, t, ht, hlimit, Except.ok.inj hcut⟩

end RepoAtlas.Calls
