import RepoAtlas.Proofs.Calls.BreadthFirst

/-!
A traversal of a call graph is an exact breadth-first search within two bounds: everything in
reach is found at its distance, unless a node finds no room, and then only the last layer has
gaps. With looser bounds it goes further and changes nothing of what it had.
-/
namespace RepoAtlas.Calls

/-- A search from seeds along one direction of a list of calls, up to a depth and a number of
nodes. -/
structure IsBoundedSearch (calls : List CallEdge) (seeds : List String) (direction : Direction)
    (depth room : Nat) (t : Traversal) : Prop where
  nodup : t.nodes.Nodup
  length_le : t.nodes.length ≤ room
  ordered : t.found.Pairwise (fun a b => a.2 ≤ b.2)
  starts : (distinct seeds).take room <+: t.nodes
  depths : ∀ n k, (n, k) ∈ t.found → k ≤ depth ∧ IsDistance (Hop calls direction) seeds n k
  /-- With room for all, the nodes are those within the depth. -/
  whole : t.cut ≠ some .nodes →
    ∀ n, n ∈ t.nodes ↔ ∃ k ≤ depth, IsDistance (Hop calls direction) seeds n k
  /-- Otherwise some node within the depth is left out, but none before the last layer. -/
  short : t.cut = some .nodes → t.nodes.length = room ∧
    (∃ n, n ∉ t.nodes ∧ ∃ k ≤ depth, IsDistance (Hop calls direction) seeds n k) ∧
    ∀ n k, IsDistance (Hop calls direction) seeds n k → k < t.depthReached → n ∈ t.nodes
  nodup_edges : t.edges.Nodup
  edges : ∀ a b, (a, b) ∈ t.edges ↔ IsCall calls a b ∧ a ∈ t.nodes ∧ b ∈ t.nodes

theorem foldl_max_le {bound : Nat} (ks : List Nat) (h : ∀ k ∈ ks, k ≤ bound) {start : Nat}
    (hs : start ≤ bound) : ks.foldl max start ≤ bound := by
  induction ks generalizing start with
  | nil => exact hs
  | cons k rest ih =>
    apply ih (fun j hj => h j (List.mem_cons_of_mem k hj))
    exact max_le hs (h k List.mem_cons_self)

theorem Walk.cut?_eq_nodes_iff {w : Walk} {step : String → List String} {depth : Nat} :
    w.cut? step depth = some .nodes ↔ w.full = true := by
  cases hw : w.full with
  | true => simp [Walk.cut?, hw]
  | false =>
    simp only [Walk.cut?, hw, Bool.false_eq_true, if_false, iff_false]
    split <;> simp

/-- What a walk through the layers of a call graph gives as a traversal. -/
theorem Walk.Explored.isBoundedSearch {calls : List CallEdge} {seeds : List String}
    {direction : Direction} {room depth : Nat} {w : Walk} {t : Traversal}
    (h : w.Explored (Hop calls direction) seeds room (depth + 1))
    (hstarts : (distinct seeds).take room <+: w.nodes) (hfound : t.found = w.found)
    (hedges : t.edges = (Graph.ofCalls calls).edgesAmong w.nodes)
    (hcut : t.cut = some .nodes ↔ w.full = true) :
    IsBoundedSearch calls seeds direction depth room t := by
  have hnodes : t.nodes = w.nodes := by rw [Traversal.nodes, hfound, Walk.nodes]
  have hlen : w.nodes.length = w.found.length := List.length_map _
  constructor
  · rw [hnodes]
    exact h.nodup
  · rw [hnodes, hlen]
    exact h.fits
  · rw [hfound]
    exact h.ordered
  · rw [hnodes]
    exact hstarts
  · rw [hfound]
    intro n k hn
    obtain ⟨hk, hd⟩ := h.near n k hn
    exact ⟨by omega, hd⟩
  · intro hroom n
    have hw : w.full = false := by simpa using mt hcut.2 hroom
    rw [hnodes]
    constructor
    · intro hn
      obtain ⟨k, hk⟩ := Walk.mem_nodes.1 hn
      obtain ⟨hlt, hd⟩ := h.near n k hk
      exact ⟨k, by omega, hd⟩
    · rintro ⟨k, hk, hd⟩
      exact h.whole hw n k (by omega) hd
  · intro hroom
    obtain ⟨hfull, last, hlast, ⟨m, hm, hout⟩, hall, hbefore⟩ := h.cut (hcut.1 hroom)
    rw [hnodes]
    refine ⟨hlen.trans hfull, ⟨m, hout, last, by omega, hm⟩, ?_⟩
    intro n k hd hk
    have hreach : t.depthReached ≤ last := by
      rw [Traversal.depthReached, hfound]
      apply foldl_max_le _ _ (Nat.zero_le last)
      intro j hj
      obtain ⟨e, he, rfl⟩ := List.mem_map.1 hj
      exact hall e he
    exact hbefore n k (by omega) hd
  · rw [hedges]
    exact Graph.nodup_edgesAmong_ofCalls calls h.nodup
  · intro a b
    rw [hedges, hnodes]
    exact Graph.mem_edgesAmong_ofCalls calls w.nodes a b

/-- Every traversal with bounds that make sense is a bounded search. The depth asked for is cut
down to the greatest one allowed. -/
theorem traverse_isBoundedSearch (calls : List CallEdge) (seeds : List String)
    (direction : Direction) (maxDepth maxNodes : Int) (hdepth : 0 ≤ maxDepth)
    (hnodes : 1 ≤ maxNodes) :
    ∃ t, (Graph.ofCalls calls).traverse seeds direction maxDepth maxNodes = .ok t ∧
      IsBoundedSearch calls seeds direction (min maxDepth.toNat 5) maxNodes.toNat t := by
  have hd : ¬ maxDepth < 0 := by omega
  have hn : ¬ maxNodes < 1 := by omega
  simp only [Graph.traverse, hd, hn, if_false, Except.ok.injEq, exists_eq_left']
  have hstep := Graph.mem_neighbours_ofCalls calls direction
  have h := Walk.run_explored hstep maxNodes.toNat (min maxDepth.toNat maxTraversalDepth) seeds
  exact h.isBoundedSearch (Walk.take_distinct_prefix_run _ _ _ _) rfl rfl
    Walk.cut?_eq_nodes_iff

/-- Calls in a circle with a side branch, and room for three of the four functions. -/
theorem traverse_isBoundedSearch_circle :
    let calls : List CallEdge := [⟨"a", "b", "", 0⟩, ⟨"b", "c", "", 0⟩, ⟨"c", "a", "", 0⟩,
      ⟨"b", "d", "", 0⟩, ⟨"a", "b", "", 7⟩]
    (0 : Int) ≤ 9 ∧ (1 : Int) ≤ 3 ∧
      ∃ t, (Graph.ofCalls calls).traverse ["a", "a"] .callees 9 3 = .ok t ∧
        IsBoundedSearch calls ["a", "a"] .callees 5 3 t :=
  ⟨by decide, by decide, traverse_isBoundedSearch _ _ _ 9 3 (by decide) (by decide)⟩

example : ((Graph.ofCalls [⟨"a", "b", "", 0⟩, ⟨"b", "c", "", 0⟩, ⟨"b", "d", "", 0⟩]).traverse
    ["a"] .callees 9 3).map (fun t => (t.found, t.cut)) =
      .ok ([("a", 0), ("b", 1), ("c", 2)], some .nodes) := by
  decide

/-! ### Looser bounds

With looser bounds a traversal goes further and changes nothing of what it had. Two walks that
differ in their room are the same until a node finds none in the smaller one, which then stays as
it is; a deeper walk only has layers more.
-/

namespace Walk

variable {step : String → List String} {room more : Nat} {w v : Walk}

/-- The first walk is the second one, or it has run out of room somewhere along its way. -/
structure Trails (w v : Walk) : Prop where
  start : w.found <+: v.found
  same : w.full = false → v = w

namespace Trails

theorem refl (w : Walk) : Trails w w := ⟨List.prefix_rfl, fun _ => rfl⟩

/-- A walk without room stays where it is, however far the other one goes. -/
theorem of_full (hw : w.full = true) (h : w.found <+: v.found) : Trails w v :=
  ⟨h, fun hroom => by rw [hw] at hroom; cases hroom⟩

/-- One node: as long as the walks are the same, they part only if it finds room in one of them. -/
theorem enter (h : Trails w v) (hroom : room ≤ more) (depth : Nat) (node : String) :
    Trails (w.enter room depth node) (v.enter more depth node) := by
  cases hw : w.full with
  | true =>
    have hstay : w.enter room depth node = w := by simp [Walk.enter, hw]
    have hkept := enter_found_prefix more depth v node
    rw [hstay]
    exact of_full hw (h.start.trans hkept)
  | false =>
    obtain rfl := h.same hw
    by_cases hknown : node ∈ v.nodes
    · have hstay : ∀ bound, v.enter bound depth node = v := by
        intro bound
        simp [Walk.enter, hknown]
      rw [hstay, hstay]
      exact refl v
    · by_cases hfull : room ≤ v.found.length
      · have hstop : v.enter room depth node = { v with full := true } := by
          simp [Walk.enter, hw, hknown, hfull]
        have hkept := enter_found_prefix more depth v node
        rw [hstop]
        exact of_full rfl hkept
      · have hopen : ∀ bound, room ≤ bound →
            v.enter bound depth node = { v with found := v.found ++ [(node, depth)] } := by
          intro bound hbound
          have : ¬ bound ≤ v.found.length := by omega
          simp [Walk.enter, hw, hknown, this]
        rw [hopen room le_rfl, hopen more hroom]
        exact refl _

theorem foldl_enter (h : Trails w v) (hroom : room ≤ more) (depth : Nat) (nodes : List String) :
    Trails (nodes.foldl (Walk.enter room depth) w) (nodes.foldl (Walk.enter more depth) v) := by
  induction nodes generalizing w v with
  | nil => exact h
  | cons n rest ih => exact ih (h.enter hroom depth n)

/-- One layer: the walks expand the same nodes, or the smaller one is full. -/
theorem expand (h : Trails w v) (hroom : room ≤ more) (depth : Nat) :
    Trails (w.expand step room depth) (v.expand step more depth) := by
  cases hw : w.full with
  | true =>
    rw [Walk.expand, foldl_enter_of_full hw]
    exact of_full hw (h.start.trans (foldl_enter_found_start more (depth + 1) v _))
  | false =>
    obtain rfl := h.same hw
    exact (refl v).foldl_enter hroom (depth + 1) _

/-- A whole run trails the one with more room. -/
theorem run (step : String → List String) (hroom : room ≤ more) (depth : Nat)
    (seeds : List String) :
    Trails (Walk.run step room depth seeds) (Walk.run step more depth seeds) := by
  induction depth with
  | zero => exact (refl {}).foldl_enter hroom 0 seeds
  | succ depth ih =>
    rw [Walk.run, Walk.run, List.range_succ, List.foldl_append, List.foldl_append]
    exact ih.expand hroom depth

end Trails

/-- A deeper walk begins as the one that is less deep. -/
theorem run_prefix_deeper (step : String → List String) (room : Nat) (seeds : List String)
    {depth deeper : Nat} (h : depth ≤ deeper) :
    (run step room depth seeds).found <+: (run step room deeper seeds).found := by
  induction h with
  | refl => exact List.prefix_rfl
  | @step deeper _ ih =>
    rw [run.eq_1 step room (deeper + 1), List.range_succ, List.foldl_append]
    exact ih.trans (foldl_enter_found_start room (deeper + 1) _ _)

end Walk

/-- A traversal that goes on where another one ends: the nodes begin alike, those of both lie at
the same depth, and no edge is lost. -/
structure Traversal.Extends (longer shorter : Traversal) : Prop where
  nodes : shorter.nodes <+: longer.nodes
  depths : ∀ n j k, (n, j) ∈ shorter.found → (n, k) ∈ longer.found → j = k
  edges : shorter.edges ⊆ longer.edges

/-- Looser bounds only extend a traversal, both of them at once. -/
theorem traverse_extends (calls : List CallEdge) (seeds : List String) (direction : Direction)
    {depth deeper room more : Int} (hdepth : 0 ≤ depth) (hdeeper : depth ≤ deeper)
    (hroom : 1 ≤ room) (hmore : room ≤ more) :
    ∃ shorter longer,
      (Graph.ofCalls calls).traverse seeds direction depth room = .ok shorter ∧
      (Graph.ofCalls calls).traverse seeds direction deeper more = .ok longer ∧
      longer.Extends shorter := by
  have hsmall : ¬ depth < 0 ∧ ¬ room < 1 := by omega
  have hlarge : ¬ deeper < 0 ∧ ¬ more < 1 := by omega
  simp only [Graph.traverse, hsmall, hlarge, if_false, Except.ok.injEq, exists_and_left,
    exists_eq_left']
  let step := (Graph.ofCalls calls).neighbours direction
  have hstart : (Walk.run step room.toNat (min depth.toNat maxTraversalDepth) seeds).found <+:
      (Walk.run step more.toNat (min deeper.toNat maxTraversalDepth) seeds).found := by
    have htrail := Walk.Trails.run step (show room.toNat ≤ more.toNat by omega)
      (min depth.toNat maxTraversalDepth) seeds
    exact htrail.start.trans (Walk.run_prefix_deeper step more.toNat seeds (by omega))
  have hexplored := Walk.run_explored (Graph.mem_neighbours_ofCalls calls direction) more.toNat
    (min deeper.toNat maxTraversalDepth) seeds
  have hnodes := hstart.map Prod.fst
  refine ⟨hnodes, ?_, ?_⟩
  · intro n j k hj hk
    exact (hexplored.near n j (hstart.subset hj)).2.unique (hexplored.near n k hk).2
  · rintro ⟨a, b⟩ hedge
    obtain ⟨hcall, ha, hb⟩ := (Graph.mem_edgesAmong_ofCalls calls _ a b).1 hedge
    exact (Graph.mem_edgesAmong_ofCalls calls _ a b).2
      ⟨hcall, hnodes.subset ha, hnodes.subset hb⟩

/-- Calls in a circle: a walk that finds no room within its second layer, and one that goes to the
end of the circle. -/
theorem traverse_extends_circle :
    let calls : List CallEdge := [⟨"a", "b", "", 0⟩, ⟨"a", "c", "", 0⟩, ⟨"b", "d", "", 0⟩,
      ⟨"d", "a", "", 0⟩]
    ∃ shorter longer, (Graph.ofCalls calls).traverse ["a"] .callees 2 2 = .ok shorter ∧
      (Graph.ofCalls calls).traverse ["a"] .callees 9 4 = .ok longer ∧ longer.Extends shorter ∧
      shorter.nodes = ["a", "b"] ∧ longer.nodes = ["a", "b", "c", "d"] := by
  intro calls
  obtain ⟨shorter, longer, hshort, hlong, hextends⟩ := traverse_extends calls ["a"] .callees
    (show (0 : Int) ≤ 2 by decide) (show (2 : Int) ≤ 9 by decide) (show (1 : Int) ≤ 2 by decide)
    (show (2 : Int) ≤ 4 by decide)
  have hfew : ((Graph.ofCalls calls).traverse ["a"] .callees 2 2).map (·.nodes) =
      .ok ["a", "b"] := by decide
  have hmany : ((Graph.ofCalls calls).traverse ["a"] .callees 9 4).map (·.nodes) =
      .ok ["a", "b", "c", "d"] := by decide
  rw [hshort] at hfew
  rw [hlong] at hmany
  exact ⟨shorter, longer, hshort, hlong, hextends, Except.ok.inj hfew, Except.ok.inj hmany⟩

end RepoAtlas.Calls
