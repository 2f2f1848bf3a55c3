import Mathlib.Data.List.Nodup
import Mathlib.Order.Nat
import RepoAtlas.Calls.Traversal

/-!
Bounded walks visit nodes in the order of their distance from the seeds. A layer is admitted as
a whole or up to the first node without room; `Explored` is what holds after any number of
layers, and `run_explored` that every walk keeps it.
-/
namespace RepoAtlas.Calls

/-! ### Adjacency

What the adjacency lists of a call graph hold, in terms of the list of calls it was made from.
`IsCall` and `Hop` are the relations that walks along the graph are measured against.
-/

/-- Some call of the list leads from one function to the other. -/
def IsCall (calls : List CallEdge) (caller callee : String) : Prop :=
  ∃ c ∈ calls, c.caller = caller ∧ c.callee = callee

/-- One hop along a direction. -/
def Hop (calls : List CallEdge) : Direction → String → String → Prop
  | .callees, a, b => IsCall calls a b
  | .callers, a, b => IsCall calls b a
  | .both, a, b => IsCall calls a b ∨ IsCall calls b a

theorem isCall_cons (c : CallEdge) (calls : List CallEdge) (a b : String) :
    IsCall (c :: calls) a b ↔ (c.caller = a ∧ c.callee = b) ∨ IsCall calls a b := by
  simp [IsCall]

theorem mem_addNew {x item : String} {found : Option (List String)} :
    x ∈ addNew item found ↔ x ∈ found.getD [] ∨ x = item := by
  simp only [addNew, List.contains_iff_mem]
  exact mem_appendNew

theorem nodup_addNew {found : Option (List String)} (item : String)
    (h : (found.getD []).Nodup) : (addNew item found).Nodup := by
  simp only [addNew, List.contains_iff_mem]
  exact nodup_appendNew h

namespace Graph

theorem mem_calleesOf_add (g : Graph) (c : CallEdge) (a b : String) :
    b ∈ (g.add c).calleesOf a ↔ b ∈ g.calleesOf a ∨ (c.caller = a ∧ c.callee = b) := by
  rw [calleesOf_add]
  split
  next h => subst h; simp [mem_addNew, calleesOf, eq_comm]
  next h => simp [Ne.symm h]

theorem mem_callersOf_add (g : Graph) (c : CallEdge) (a b : String) :
    b ∈ (g.add c).callersOf a ↔ b ∈ g.callersOf a ∨ (c.caller = b ∧ c.callee = a) := by
  rw [callersOf_add]
  split
  next h => subst h; simp [mem_addNew, callersOf, eq_comm]
  next h => simp [Ne.symm h]

theorem nodup_calleesOf_add {g : Graph} (h : ∀ a, (g.calleesOf a).Nodup) (c : CallEdge)
    (a : String) : ((g.add c).calleesOf a).Nodup := by
  rw [calleesOf_add]
  split
  · exact nodup_addNew _ (by subst a; exact h _)
  · exact h a

/-- A function's callees in the graph are those that the list of calls names. -/
theorem mem_calleesOf_ofCalls (calls : List CallEdge) (a b : String) :
    b ∈ (ofCalls calls).calleesOf a ↔ IsCall calls a b := by
  suffices ∀ g : Graph, b ∈ (calls.foldl add g).calleesOf a ↔
      b ∈ g.calleesOf a ∨ IsCall calls a b by
    simpa [ofCalls, calleesOf, OrderedMap.get?, OrderedMap.lookup] using this {}
  induction calls with
  | nil => simp [IsCall]
  | cons c rest ih =>
    intro g
    rw [List.foldl_cons, ih, mem_calleesOf_add, isCall_cons, or_assoc]

theorem mem_callersOf_ofCalls (calls : List CallEdge) (a b : String) :
    b ∈ (ofCalls calls).callersOf a ↔ IsCall calls b a := by
  suffices ∀ g : Graph, b ∈ (calls.foldl add g).callersOf a ↔
      b ∈ g.callersOf a ∨ IsCall calls b a by
    simpa [ofCalls, callersOf, OrderedMap.get?, OrderedMap.lookup] using this {}
  induction calls with
  | nil => simp [IsCall]
  | cons c rest ih =>
    intro g
    rw [List.foldl_cons, ih, mem_callersOf_add, isCall_cons, or_assoc]

theorem nodup_calleesOf_ofCalls (calls : List CallEdge) (a : String) :
    ((ofCalls calls).calleesOf a).Nodup := by
  suffices ∀ g : Graph, (∀ a, (g.calleesOf a).Nodup) → ((calls.foldl add g).calleesOf a).Nodup by
    exact this {} (by simp [calleesOf, OrderedMap.get?, OrderedMap.lookup])
  induction calls with
  | nil => intro g h; exact h a
  | cons c rest ih => intro g h; exact ih _ (nodup_calleesOf_add h c)

/-- The neighbours in a direction are the functions one hop away. -/
theorem mem_neighbours_ofCalls (calls : List CallEdge) (direction : Direction) (a b : String) :
    b ∈ (ofCalls calls).neighbours direction a ↔ Hop calls direction a b := by
  cases direction with
  | callees => exact mem_calleesOf_ofCalls calls a b
  | callers => exact mem_callersOf_ofCalls calls a b
  | both =>
    simp only [neighbours, List.mem_append, mem_calleesOf_ofCalls, mem_callersOf_ofCalls, Hop]

/-- The edges among nodes are the calls with both ends among them. -/
theorem mem_edgesAmong_ofCalls (calls : List CallEdge) (nodes : List String) (a b : String) :
    (a, b) ∈ (ofCalls calls).edgesAmong nodes ↔ IsCall calls a b ∧ a ∈ nodes ∧ b ∈ nodes := by
  simp only [edgesAmong, List.mem_flatMap, List.mem_map, List.mem_filter, List.contains_iff_mem,
    Prod.mk.injEq]
  constructor
  · rintro ⟨caller, hc, callee, ⟨hm, hn⟩, rfl, rfl⟩
    exact ⟨(mem_calleesOf_ofCalls calls caller callee).1 hm, hc, hn⟩
  · rintro ⟨hc, ha, hb⟩
    exact ⟨a, ha, b, ⟨(mem_calleesOf_ofCalls calls a b).2 hc, hb⟩, rfl, rfl⟩

/-- No pair of functions is listed twice, however often one calls the other. -/
theorem nodup_edgesAmong_ofCalls (calls : List CallEdge) {nodes : List String}
    (h : nodes.Nodup) : ((ofCalls calls).edgesAmong nodes).Nodup := by
  rw [edgesAmong, List.nodup_flatMap]
  constructor
  · intro a _
    apply List.Nodup.map
    · intro x y hxy
      exact congrArg Prod.snd hxy
    · exact (nodup_calleesOf_ofCalls calls a).filter _
  · apply List.Pairwise.imp _ h
    intro a b hab
    apply List.disjoint_left.2
    intro e ha hb
    obtain ⟨x, _, rfl⟩ := List.mem_map.1 ha
    obtain ⟨y, _, hy⟩ := List.mem_map.1 hb
    exact hab (congrArg Prod.fst hy).symm

end Graph

/-! ### Distances

A relation says what is one hop apart; the distance of a node is the least number of hops from any
seed to it.
-/

section Distance

variable {α : Type} {hop : α → α → Prop} {seeds : List α}

/-- The node is some number of hops away from a seed, along any path. -/
inductive Reaches (hop : α → α → Prop) (seeds : List α) : Nat → α → Prop where
  | seed {n : α} : n ∈ seeds → Reaches hop seeds 0 n
  | step {k : Nat} {m n : α} : Reaches hop seeds k m → hop m n → Reaches hop seeds (k + 1) n

/-- The least number of hops from a seed to the node. -/
structure IsDistance (hop : α → α → Prop) (seeds : List α) (n : α) (k : Nat) : Prop where
  reached : Reaches hop seeds k n
  least : ∀ j, Reaches hop seeds j n → k ≤ j

theorem reaches_zero_iff {n : α} : Reaches hop seeds 0 n ↔ n ∈ seeds := by
  constructor
  · rintro ⟨h⟩
    exact h
  · exact .seed

theorem reaches_succ_iff {n : α} {k : Nat} :
    Reaches hop seeds (k + 1) n ↔ ∃ m, Reaches hop seeds k m ∧ hop m n := by
  constructor
  · intro h
    cases h with
    | step hm he => exact ⟨_, hm, he⟩
  · rintro ⟨m, hm, he⟩
    exact .step hm he

theorem IsDistance.unique {n : α} {j k : Nat} (hj : IsDistance hop seeds n j)
    (hk : IsDistance hop seeds n k) : j = k :=
  Nat.le_antisymm (hj.least k hk.reached) (hk.least j hj.reached)

/-- What is reached at all has a distance, which is no greater. -/
theorem exists_isDistance_of_reaches {n : α} {k : Nat} (h : Reaches hop seeds k n) :
    ∃ j ≤ k, IsDistance hop seeds n j := by
  classical
  have hex : ∃ j, Reaches hop seeds j n := ⟨k, h⟩
  exact ⟨Nat.find hex, Nat.find_min' hex h, Nat.find_spec hex, fun j hj => Nat.find_min' hex hj⟩

theorem isDistance_zero_iff {n : α} : IsDistance hop seeds n 0 ↔ n ∈ seeds := by
  constructor
  · intro h
    exact reaches_zero_iff.1 h.reached
  · intro h
    exact ⟨.seed h, fun j _ => Nat.zero_le j⟩

/-- The nodes of the next distance are the neighbours of the last one that are no nearer. -/
theorem isDistance_succ_iff {n : α} {k : Nat} :
    IsDistance hop seeds n (k + 1) ↔
      (∃ m, IsDistance hop seeds m k ∧ hop m n) ∧ ∀ j ≤ k, ¬ IsDistance hop seeds n j := by
  constructor
  · intro h
    obtain ⟨m, hm, he⟩ := reaches_succ_iff.1 h.reached
    obtain ⟨j, hj, hd⟩ := exists_isDistance_of_reaches hm
    have hback := h.least (j + 1) (.step hd.reached he)
    obtain rfl : j = k := by omega
    refine ⟨⟨m, hd, he⟩, ?_⟩
    intro i hi hn
    have := h.unique hn
    omega
  · rintro ⟨⟨m, hm, he⟩, hfar⟩
    refine ⟨.step hm.reached he, ?_⟩
    intro j hj
    obtain ⟨i, hi, hd⟩ := exists_isDistance_of_reaches hj
    have : ¬ i ≤ k := fun hle => hfar i hle hd
    omega

end Distance

/-! ### Layers -/

namespace Walk

/-- The nodes of a list that the walk has not admitted, each once. -/
def fresh (w : Walk) (nodes : List String) : List String :=
  (distinct nodes).filter (fun n => !w.nodes.contains n)

/-- The walk with new nodes of one depth, as many as there is room for. -/
def enlist (room depth : Nat) (new : List String) (w : Walk) : Walk where
  found := w.found ++ (new.take (room - w.found.length)).map (fun n => (n, depth))
  full := decide (room - w.found.length < new.length)

theorem mem_fresh {w : Walk} {nodes : List String} {n : String} :
    n ∈ w.fresh nodes ↔ n ∈ nodes ∧ n ∉ w.nodes := by
  simp [fresh, mem_distinct]

theorem nodup_fresh (w : Walk) (nodes : List String) : (w.fresh nodes).Nodup :=
  (nodup_distinct nodes).filter _

theorem fresh_cons_of_mem {w : Walk} {n : String} (h : n ∈ w.nodes) (rest : List String) :
    w.fresh (n :: rest) = w.fresh rest := by
  rw [fresh, distinct, List.filter_cons_of_neg (by simpa using h), List.filter_filter]
  apply List.filter_congr
  intro m _
  by_cases hm : m = n
  · subst hm; simp [h]
  · simp [hm]

theorem fresh_cons_of_not_mem {w : Walk} {n : String} (h : n ∉ w.nodes) (rest : List String) :
    w.fresh (n :: rest) = n :: (w.fresh rest).filter (· ≠ n) := by
  rw [fresh, distinct, List.filter_cons_of_pos (by simpa using h), fresh, List.filter_filter,
    List.filter_filter]
  congr 1
  apply List.filter_congr
  intro m _
  exact Bool.and_comm _ _

@[simp] theorem nodes_append (found : List (String × Nat)) (n : String) (depth : Nat)
    (full : Bool) :
    (Walk.mk (found ++ [(n, depth)]) full).nodes = found.map (·.1) ++ [n] := by
  simp [nodes]

theorem fresh_append {w : Walk} {n : String} (depth : Nat) (rest : List String) :
    Walk.fresh ⟨w.found ++ [(n, depth)], w.full⟩ rest = (w.fresh rest).filter (· ≠ n) := by
  rw [fresh, fresh, List.filter_filter]
  apply List.filter_congr
  intro m _
  by_cases hm : m = n
  · simp [hm]
  · simp [nodes, hm]

theorem foldl_enter_found_start (room depth : Nat) (w : Walk) (nodes : List String) :
    w.found <+: (nodes.foldl (enter room depth) w).found := by
  induction nodes generalizing w with
  | nil => exact List.prefix_rfl
  | cons n rest ih =>
    have hfirst := enter_found_prefix room depth w n
    exact hfirst.trans (ih _)

theorem foldl_enter_of_full {room depth : Nat} {w : Walk} (h : w.full = true)
    (nodes : List String) : nodes.foldl (enter room depth) w = w := by
  induction nodes with
  | nil => rfl
  | cons n rest ih =>
    have hn : enter room depth w n = w := by simp [enter, h]
    rw [List.foldl_cons, hn, ih]

/-- Entering nodes one by one admits the fresh ones as far as there is room. -/
theorem foldl_enter {room depth : Nat} {w : Walk} (hw : w.full = false)
    (hr : w.found.length ≤ room) (nodes : List String) :
    nodes.foldl (enter room depth) w = w.enlist room depth (w.fresh nodes) := by
  induction nodes generalizing w with
  | nil =>
    obtain ⟨found, full⟩ := w
    obtain rfl : full = false := hw
    simp [enlist, fresh, distinct]
  | cons n rest ih =>
    rw [List.foldl_cons]
    by_cases hn : n ∈ w.nodes
    · have he : enter room depth w n = w := by simp [enter, hn]
      rw [he, fresh_cons_of_mem hn, ih hw hr]
    · rw [fresh_cons_of_not_mem hn]
      by_cases hfull : room ≤ w.found.length
      · have he : enter room depth w n = { w with full := true } := by
          simp [enter, hw, hn, hfull]
        have hz : room - w.found.length = 0 := by omega
        rw [he, foldl_enter_of_full rfl]
        simp [enlist, hz]
      · have he : enter room depth w n = ⟨w.found ++ [(n, depth)], w.full⟩ := by
          simp [enter, hw, hn, hfull]
        have hroom : room - w.found.length = (room - (w.found.length + 1)) + 1 := by omega
        have hlen : (w.found ++ [(n, depth)]).length ≤ room := by
          rw [List.length_append, List.length_singleton]
          omega
        rw [he, ih (w := ⟨w.found ++ [(n, depth)], w.full⟩) hw hlen, fresh_append]
        simp [enlist, hroom]

/-- What is known of a walk once the layers below a depth have been admitted. -/
structure Explored (hop : String → String → Prop) (seeds : List String) (room depth : Nat)
    (w : Walk) : Prop where
  nodup : w.nodes.Nodup
  fits : w.found.length ≤ room
  ordered : w.found.Pairwise (fun a b => a.2 ≤ b.2)
  near : ∀ n k, (n, k) ∈ w.found → k < depth ∧ IsDistance hop seeds n k
  whole : w.full = false → ∀ n k, k < depth → IsDistance hop seeds n k → n ∈ w.nodes
  /-- A walk without room lacks a node of its last layer, and none of the layers before. -/
  cut : w.full = true → w.found.length = room ∧ ∃ last < depth,
    (∃ n, IsDistance hop seeds n last ∧ n ∉ w.nodes) ∧ (∀ e ∈ w.found, e.2 ≤ last) ∧
      ∀ n k, k < last → IsDistance hop seeds n k → n ∈ w.nodes

variable {hop : String → String → Prop} {seeds : List String} {room depth : Nat} {w : Walk}

theorem mem_nodes {n : String} : n ∈ w.nodes ↔ ∃ k, (n, k) ∈ w.found := by
  simp [nodes]

theorem mem_layer {n : String} {k : Nat} : n ∈ w.layer k ↔ (n, k) ∈ w.found := by
  simp [layer]

theorem nodes_enlist (room depth : Nat) (new : List String) (w : Walk) :
    (w.enlist room depth new).nodes = w.nodes ++ new.take (room - w.found.length) := by
  simp [nodes, enlist, Function.comp_def]

theorem mem_found_enlist {new : List String} {n : String} {k : Nat} :
    (n, k) ∈ (w.enlist room depth new).found ↔
      (n, k) ∈ w.found ∨ (n ∈ new.take (room - w.found.length) ∧ depth = k) := by
  simp [enlist, -List.map_take]

theorem length_enlist (new : List String) :
    (w.enlist room depth new).found.length =
      w.found.length + min (room - w.found.length) new.length := by
  simp [enlist]

namespace Explored

theorem empty : Explored hop seeds room 0 {} where
  nodup := by simp [nodes]
  fits := by simp
  ordered := by simp
  near := by simp
  whole := by simp
  cut := by simp

/-- A walk without room stays as it is. -/
theorem of_full (h : Explored hop seeds room depth w) (hw : w.full = true) :
    Explored hop seeds room (depth + 1) w where
  nodup := h.nodup
  fits := h.fits
  ordered := h.ordered
  near := by
    intro n k hn
    have := h.near n k hn
    exact ⟨by omega, this.2⟩
  whole := by simp [hw]
  cut := by
    intro _
    obtain ⟨hlen, last, hlast, hrest⟩ := h.cut hw
    exact ⟨hlen, last, by omega, hrest⟩

/-- In a walk with room, a layer holds exactly the nodes of its distance. -/
theorem mem_layer_iff (h : Explored hop seeds room depth w) (hw : w.full = false) {n : String}
    {k : Nat} (hk : k < depth) : n ∈ w.layer k ↔ IsDistance hop seeds n k := by
  rw [mem_layer]
  constructor
  · intro hn
    exact (h.near n k hn).2
  · intro hd
    obtain ⟨j, hj⟩ := mem_nodes.1 (h.whole hw n k hk hd)
    obtain rfl : j = k := (h.near n j hj).2.unique hd
    exact hj

/-- One layer: the nodes of the next distance are admitted as far as there is room. -/
theorem enlist (h : Explored hop seeds room depth w) (hw : w.full = false) {new : List String}
    (hnew : new.Nodup) (hmem : ∀ n, n ∈ new ↔ IsDistance hop seeds n depth) :
    Explored hop seeds room (depth + 1) (w.enlist room depth new) where
  nodup := by
    rw [nodes_enlist, List.nodup_append]
    refine ⟨h.nodup, (List.take_sublist _ _).nodup hnew, ?_⟩
    rintro a ha b hb rfl
    obtain ⟨k, hk⟩ := mem_nodes.1 ha
    have hfar := (hmem a).1 (List.mem_of_mem_take hb)
    obtain ⟨hlt, hdist⟩ := h.near a k hk
    have := hdist.unique hfar
    omega
  fits := by
    have := h.fits
    rw [length_enlist]
    omega
  ordered := by
    rw [Walk.enlist, List.pairwise_append]
    refine ⟨h.ordered, ?_, ?_⟩
    · rw [List.pairwise_map]
      exact List.pairwise_of_forall (fun _ _ => Nat.le_refl depth)
    · rintro ⟨n, k⟩ hn e he
      obtain ⟨m, _, rfl⟩ := List.mem_map.1 he
      exact Nat.le_of_lt (h.near n k hn).1
  near := by
    intro n k hn
    rcases mem_found_enlist.1 hn with hold | ⟨htake, rfl⟩
    · have := h.near n k hold
      exact ⟨by omega, this.2⟩
    · exact ⟨by omega, (hmem n).1 (List.mem_of_mem_take htake)⟩
  whole := by
    intro hroom n k hk hd
    have hlen : new.length ≤ room - w.found.length := by simpa [Walk.enlist] using hroom
    rw [nodes_enlist, List.take_of_length_le hlen, List.mem_append]
    by_cases hlt : k < depth
    · exact Or.inl (h.whole hw n k hlt hd)
    · obtain rfl : k = depth := by omega
      exact Or.inr ((hmem n).2 hd)
  cut := by
    intro hroom
    have hlen : room - w.found.length < new.length := by simpa [Walk.enlist] using hroom
    have hfits := h.fits
    refine ⟨by rw [length_enlist]; omega, depth, by omega, ?_, ?_, ?_⟩
    · -- the first new node without room
      refine ⟨new[room - w.found.length], (hmem _).1 (List.getElem_mem hlen), ?_⟩
      rw [nodes_enlist, List.mem_append, not_or]
      constructor
      · intro hold
        obtain ⟨k, hk⟩ := mem_nodes.1 hold
        obtain ⟨hlt, hdist⟩ := h.near _ k hk
        have := hdist.unique ((hmem _).1 (List.getElem_mem hlen))
        omega
      · intro htake
        obtain ⟨i, hi, he⟩ := List.mem_take_iff_getElem.1 htake
        have := (List.Nodup.getElem_inj_iff hnew).1 he
        omega
    · rintro ⟨n, k⟩ hn
      rcases mem_found_enlist.1 hn with hold | ⟨_, rfl⟩
      · exact Nat.le_of_lt (h.near n k hold).1
      · exact Nat.le_refl depth
    · intro n k hk hd
      rw [nodes_enlist, List.mem_append]
      exact Or.inl (h.whole hw n k hk hd)

end Explored

theorem ofSeeds_explored (room : Nat) (seeds : List String) :
    Explored hop seeds room 1 (ofSeeds room seeds) := by
  rw [ofSeeds, foldl_enter rfl (Nat.zero_le room)]
  apply Explored.empty.enlist rfl (nodup_fresh _ _)
  intro n
  rw [mem_fresh, isDistance_zero_iff]
  simp [nodes]

/-- One step of a walk admits the next layer. -/
theorem expand_explored {step : String → List String} (hstep : ∀ m n, n ∈ step m ↔ hop m n)
    (h : Explored hop seeds room (depth + 1) w) :
    Explored hop seeds room (depth + 2) (expand step room w depth) := by
  cases hw : w.full with
  | true =>
    rw [expand, foldl_enter_of_full hw]
    exact h.of_full hw
  | false =>
    rw [expand, foldl_enter hw h.fits]
    apply h.enlist hw (nodup_fresh _ _)
    intro n
    rw [mem_fresh, isDistance_succ_iff]
    simp only [List.mem_flatMap, hstep, h.mem_layer_iff hw (Nat.lt_succ_self depth)]
    apply and_congr_right
    intro _
    constructor
    · intro hn j hj hd
      exact hn (h.whole hw n j (by omega) hd)
    · intro hfar hn
      obtain ⟨k, hk⟩ := mem_nodes.1 hn
      obtain ⟨hlt, hd⟩ := h.near n k hk
      exact hfar k (by omega) hd

/-- A whole run explores all layers up to its depth. -/
theorem run_explored {step : String → List String} (hstep : ∀ m n, n ∈ step m ↔ hop m n)
    (room depth : Nat) (seeds : List String) :
    Explored hop seeds room (depth + 1) (run step room depth seeds) := by
  induction depth with
  | zero => exact ofSeeds_explored room seeds
  | succ depth ih =>
    rw [run, List.range_succ, List.foldl_append]
    exact expand_explored hstep ih

/-- A run begins with the seeds, as many as there is room for. -/
theorem take_distinct_prefix_run (step : String → List String) (room depth : Nat)
    (seeds : List String) : (distinct seeds).take room <+: (run step room depth seeds).nodes := by
  induction depth with
  | zero =>
    rw [run, List.range_zero, List.foldl_nil, ofSeeds, foldl_enter rfl (Nat.zero_le room),
      nodes_enlist]
    simp [nodes, fresh]
  | succ depth ih =>
    rw [run, List.range_succ, List.foldl_append]
    apply ih.trans
    rw [List.foldl_cons, List.foldl_nil, expand]
    exact (foldl_enter_found_start room (depth + 1) _ _).map _

end Walk

end RepoAtlas.Calls
