import RepoAtlas.Calls.FlowDiagram
import RepoAtlas.Proofs.Calls.Indexes
import RepoAtlas.Proofs.Calls.Truncation

/-!
The order in which the calls of a repository are listed does not show in the sequence of a
traversal that has room for all its nodes: neighbours come in another order, but the nodes have
the same depths, and the calls between them the same sites to be sorted by.
-/
namespace RepoAtlas.Calls

/-! ### Two walks along the same hops -/

namespace Walk

variable {hop : String → String → Prop} {seeds : List String} {room depth : Nat} {w v : Walk}

theorem Explored.full_eq (h : w.Explored hop seeds room (depth + 1))
    (h' : v.Explored hop seeds room (depth + 1)) : w.full = v.full := by
  rw [Bool.eq_iff_iff, h.full_iff, h'.full_iff]

theorem Explored.nodup_found (h : w.Explored hop seeds room depth) : w.found.Nodup :=
  h.nodup.of_map

theorem Explored.mem_found_iff (h : w.Explored hop seeds room (depth + 1)) (hw : w.full = false)
    {n : String} {k : Nat} : (n, k) ∈ w.found ↔ k ≤ depth ∧ IsDistance hop seeds n k := by
  constructor
  · intro hn
    obtain ⟨hk, hd⟩ := h.near n k hn
    exact ⟨Nat.le_of_lt_succ hk, hd⟩
  · rintro ⟨hk, hd⟩
    exact mem_layer.1 ((h.mem_layer_iff hw (Nat.lt_succ_of_le hk)).2 hd)

/-- Walks with room for all find the same nodes at the same depths. -/
theorem Explored.found_perm (h : w.Explored hop seeds room (depth + 1))
    (h' : v.Explored hop seeds room (depth + 1)) (hw : w.full = false) :
    w.found.Perm v.found := by
  refine (List.perm_ext_iff_of_nodup h.nodup_found h'.nodup_found).2 ?_
  rintro ⟨n, k⟩
  rw [h.mem_found_iff hw, h'.mem_found_iff (h.full_eq h' ▸ hw)]

theorem Explored.cut?_eq {step step' : String → List String}
    (hstep : ∀ m n, n ∈ step m ↔ hop m n) (hstep' : ∀ m n, n ∈ step' m ↔ hop m n)
    (h : w.Explored hop seeds room (depth + 1)) (h' : v.Explored hop seeds room (depth + 1)) :
    w.cut? step depth = v.cut? step' depth := by
  refine Option.ext fun c => ?_
  cases c with
  | nodes => rw [cut?_eq_nodes_iff, cut?_eq_nodes_iff, h.full_eq h']
  | depth => rw [h.cut?_depth_iff hstep, h'.cut?_depth_iff hstep', h.full_eq h']

theorem layer_enter {k : Nat} (hk : depth ≠ k) (w : Walk) (node : String) :
    (enter room depth w node).layer k = w.layer k := by
  rw [enter]
  split
  · rfl
  · split
    · rfl
    · simp [layer, hk]

/-- The seeds are chosen before any hop is taken. -/
theorem layer_zero_run (step : String → List String) (room depth : Nat) (seeds : List String) :
    (run step room depth seeds).layer 0 = (ofSeeds room seeds).layer 0 := by
  have hlayer : ∀ (d : Nat) (nodes : List String) (w : Walk),
      (nodes.foldl (enter room (d + 1)) w).layer 0 = w.layer 0 := by
    intro d nodes
    induction nodes with
    | nil => exact fun _ => rfl
    | cons n rest ih => exact fun w => (ih _).trans (layer_enter (Nat.succ_ne_zero d) w n)
  induction depth with
  | zero => rfl
  | succ depth ih =>
    rw [run, List.range_succ, List.foldl_append]
    exact (hlayer depth _ _).trans ih

end Walk

/-! ### The sequence of calls -/

/-- By file and line, then by caller and callee. -/
def callKey (c : CallEdge) : String ×ₗ Int ×ₗ String ×ₗ String :=
  toLex (c.file, toLex (c.line, toLex (c.caller, c.callee)))

theorem callKey_injective : Function.Injective callKey := by
  rintro ⟨caller, callee, file, line⟩ ⟨caller', callee', file', line'⟩ h
  simp only [callKey, toLex_inj, Prod.mk.injEq] at h
  obtain ⟨rfl, rfl, rfl, rfl⟩ := h
  rfl

theorem callBefore_iff (a b : CallEdge) : callBefore a b = true ↔ callKey a ≤ callKey b := by
  simp only [callKey, Prod.Lex.toLex_le_toLex, callBefore]
  split
  next hfile => simp [hfile]
  next hfile =>
    rw [not_not] at hfile
    split
    next hline => simp [hfile, hline]
    next hline =>
      rw [not_not] at hline
      split
      next hcaller => simp [hfile, hline, hcaller]
      next hcaller =>
        rw [not_not] at hcaller
        simp [hfile, hline, hcaller]

/-- The functions that a call joins. -/
def ends (c : CallEdge) : String × String := (c.caller, c.callee)

/-- A traversal's calls without plumbing, each at its least site, in ascending order. -/
structure InCallOrder (calls : List CallEdge) (t : Traversal) (found : List CallEdge) : Prop where
  exactly : ∀ e, e ∈ found.map ends ↔ e ∈ t.edges ∧ isPlumbing e.2 = false
  once : (found.map ends).Nodup
  ascending : found.Pairwise (fun a b => callKey a < callKey b)
  sites : ∀ c ∈ found, IsLeast (callSites calls c.caller c.callee) (toLex (c.file, c.line))

/-- A call of a traversal at the site on record. -/
def sitedCall (g : Graph) (e : String × String) : CallEdge :=
  let site := (g.sites.get? e).getD ("", 0)
  ⟨e.1, e.2, site.1, site.2⟩

theorem orderedCalls_eq (g : Graph) (t : Traversal) : orderedCalls g t =
    ((t.edges.filter (fun e => !isPlumbing e.2)).map (sitedCall g)).mergeSort callBefore := rfl

theorem orderedCalls_perm (g : Graph) (t : Traversal) :
    ((orderedCalls g t).map ends).Perm (t.edges.filter (fun e => !isPlumbing e.2)) := by
  rw [orderedCalls_eq]
  refine ((List.mergeSort_perm _ _).map ends).trans (List.Perm.of_eq ?_)
  rw [List.map_map]
  exact List.map_id _

/-- Traversals with the same calls at the same sites have one sequence. -/
theorem orderedCalls_congr {g h : Graph} {t u : Traversal}
    (hsites : ∀ e, g.sites.get? e = h.sites.get? e) (hedges : t.edges.Perm u.edges) :
    orderedCalls g t = orderedCalls h u := by
  have hcall : sitedCall g = sitedCall h := by
    funext e
    rw [sitedCall, sitedCall, hsites]
  rw [orderedCalls_eq, orderedCalls_eq, hcall]
  exact mergeSort_eq_of_perm callBefore_iff callKey_injective ((hedges.filter _).map _)

theorem sequenceDiagram_congr {g h : Graph} {t u : Traversal}
    (hcalls : orderedCalls g t = orderedCalls h u) (hseeds : t.seeds = u.seeds) :
    sequenceDiagram g t = sequenceDiagram h u := by
  rw [sequenceDiagram, sequenceDiagram, quietLines, quietLines, hcalls, hseeds]

theorem inCallOrder_orderedCalls {calls : List CallEdge} {t : Traversal} (honce : t.edges.Nodup)
    (hcalls : ∀ e ∈ t.edges, IsCall calls e.1 e.2) :
    InCallOrder calls t (orderedCalls (.ofCalls calls) t) := by
  have hperm := orderedCalls_perm (.ofCalls calls) t
  have hends : ((orderedCalls (.ofCalls calls) t).map ends).Nodup :=
    hperm.nodup_iff.2 (honce.filter _)
  refine ⟨fun e => ?_, hends, ?_, fun c hc => ?_⟩
  · rw [hperm.mem_iff, List.mem_filter, Bool.not_eq_true']
  · have hkeys := (List.mergeSort_perm ((t.edges.filter (fun e => !isPlumbing e.2)).map
      (sitedCall (.ofCalls calls))) callBefore).map ends
    refine strict_mergeSort_key callBefore_iff (List.Nodup.map callKey_injective ?_)
    exact List.Nodup.of_map ends (hkeys.nodup_iff.1 hends)
  · rw [orderedCalls_eq, List.mem_mergeSort] at hc
    obtain ⟨⟨a, b⟩, he, rfl⟩ := List.mem_map.1 hc
    have hcall := hcalls _ (List.mem_of_mem_filter he)
    obtain ⟨site, hsite⟩ := Option.isSome_iff_exists.1
      ((Graph.isSome_get?_sites_iff calls a b).2 hcall)
    have hleast := (Graph.get?_sites_eq_some_iff calls a b).1 hsite
    simpa only [sitedCall, hsite, Option.getD_some] using hleast

/-! ### Calls in any order -/

section AnyOrder

variable {calls other : List CallEdge}

theorem hop_congr (h : calls.Perm other) (direction : Direction) :
    Hop other direction = Hop calls direction := by
  funext a b
  cases direction <;> simp only [Hop, isCall_congr h]

theorem Graph.edgesAmong_perm (h : calls.Perm other) {nodes nodes' : List String}
    (hnodes : nodes.Perm nodes') (hnodup : nodes.Nodup) :
    ((ofCalls calls).edgesAmong nodes).Perm ((ofCalls other).edgesAmong nodes') := by
  refine (List.perm_ext_iff_of_nodup (nodup_edgesAmong_ofCalls calls hnodup)
    (nodup_edgesAmong_ofCalls other (hnodes.nodup_iff.1 hnodup))).2 ?_
  rintro ⟨a, b⟩
  rw [mem_edgesAmong_ofCalls, mem_edgesAmong_ofCalls, isCall_congr h, hnodes.mem_iff,
    hnodes.mem_iff]

end AnyOrder

/-- What the listed order of the calls leaves as it is, if a traversal has room for all nodes. -/
structure SameSequence (calls other : List CallEdge) (t u : Traversal) : Prop where
  cut : u.cut = t.cut
  depths : u.found.Perm t.found
  order : orderedCalls (.ofCalls other) u = orderedCalls (.ofCalls calls) t
  diagram : sequenceDiagram (.ofCalls other) u = sequenceDiagram (.ofCalls calls) t
  inOrder : InCallOrder calls t (orderedCalls (.ofCalls calls) t)

theorem Walk.Explored.sameSequence {calls other : List CallEdge} {seeds : List String}
    {direction : Direction} {room depth : Nat} {w v : Walk} (hperm : calls.Perm other)
    (h : w.Explored (Hop calls direction) seeds room (depth + 1))
    (h' : v.Explored (Hop calls direction) seeds room (depth + 1)) (hroom : w.full = false)
    {t u : Traversal} (hfound : t.found = w.found) (hfound' : u.found = v.found)
    (hedges : t.edges = (Graph.ofCalls calls).edgesAmong w.nodes)
    (hedges' : u.edges = (Graph.ofCalls other).edgesAmong v.nodes) (hcut : u.cut = t.cut)
    (hseeds : u.seeds = t.seeds) : SameSequence calls other t u := by
  have hperms := h.found_perm h' hroom
  have hcalls : t.edges.Perm u.edges := by
    rw [hedges, hedges']
    exact Graph.edgesAmong_perm hperm (hperms.map Prod.fst) h.nodup
  have horder := orderedCalls_congr (Graph.sameCalls_of_perm hperm).site hcalls
  refine ⟨hcut, ?_, horder.symm, sequenceDiagram_congr horder.symm hseeds, ?_⟩
  · rw [hfound, hfound']
    exact hperms.symm
  · refine inCallOrder_orderedCalls ?_ ?_
    · rw [hedges]
      exact Graph.nodup_edgesAmong_ofCalls calls h.nodup
    · intro e he
      rw [hedges] at he
      exact ((Graph.mem_edgesAmong_ofCalls calls _ e.1 e.2).1 he).1

/-- The same calls in any order give the same sequence, unless a node finds no room. -/
theorem traverse_sameSequence {calls other : List CallEdge} (hperm : calls.Perm other)
    (seeds : List String) (direction : Direction) {maxDepth maxNodes : Int}
    (hdepth : 0 ≤ maxDepth) (hnodes : 1 ≤ maxNodes) :
    ∃ t u, (Graph.ofCalls calls).traverse seeds direction maxDepth maxNodes = .ok t ∧
      (Graph.ofCalls other).traverse seeds direction maxDepth maxNodes = .ok u ∧
      (t.cut ≠ some .nodes → SameSequence calls other t u) := by
  have hd : ¬ maxDepth < 0 := by omega
  have hn : ¬ maxNodes < 1 := by omega
  simp only [Graph.traverse, hd, hn, if_false, Except.ok.injEq, exists_and_left, exists_eq_left']
  have hstep := Graph.mem_neighbours_ofCalls calls direction
  have hstep' := Graph.mem_neighbours_ofCalls other direction
  rw [hop_congr hperm] at hstep'
  have h := Walk.run_explored hstep maxNodes.toNat (min maxDepth.toNat maxTraversalDepth) seeds
  have h' := Walk.run_explored hstep' maxNodes.toNat (min maxDepth.toNat maxTraversalDepth) seeds
  rw [ne_eq, Walk.cut?_eq_nodes_iff, Bool.not_eq_true]
  intro hroom
  refine h.sameSequence hperm h' hroom rfl rfl rfl rfl (h'.cut?_eq hstep' hstep h) ?_
  dsimp only
  rw [Walk.layer_zero_run, Walk.layer_zero_run]

/-- Two calls of one function, the later site first. Backwards its neighbours come in another
order, the sequence stays. -/
theorem traverse_sameSequence_backwards :
    let calls : List CallEdge := [⟨"main", "load", "m.py", 7⟩, ⟨"main", "save", "m.py", 9⟩,
      ⟨"load", "items.append", "m.py", 1⟩, ⟨"main", "save", "m.py", 4⟩]
    calls.Perm calls.reverse ∧ (0 : Int) ≤ 2 ∧ (1 : Int) ≤ 9 ∧
      ∃ t u, (Graph.ofCalls calls).traverse ["main"] .callees 2 9 = .ok t ∧
        (Graph.ofCalls calls.reverse).traverse ["main"] .callees 2 9 = .ok u ∧
        t.cut ≠ some .nodes ∧ SameSequence calls calls.reverse t u ∧
        t.nodes = ["main", "load", "save", "items.append"] ∧
        u.nodes = ["main", "save", "load", "items.append"] ∧
        orderedCalls (.ofCalls calls) t =
          [⟨"main", "save", "m.py", 4⟩, ⟨"main", "load", "m.py", 7⟩] := by
  intro calls
  have hperm := (List.reverse_perm calls).symm
  obtain ⟨t, u, ht, hu, hsame⟩ := traverse_sameSequence hperm ["main"] .callees
    (show (0 : Int) ≤ 2 by decide) (show (1 : Int) ≤ 9 by decide)
  have hfirst : ((Graph.ofCalls calls).traverse ["main"] .callees 2 9).map (fun t => (t.cut,
      t.nodes, (t.edges.filter (fun e => !isPlumbing e.2)).map (sitedCall (.ofCalls calls)))) =
        .ok (none, ["main", "load", "save", "items.append"],
          [⟨"main", "load", "m.py", 7⟩, ⟨"main", "save", "m.py", 4⟩]) := by decide +kernel
  have hsecond : ((Graph.ofCalls calls.reverse).traverse ["main"] .callees 2 9).map (·.nodes) =
      .ok ["main", "save", "load", "items.append"] := by decide
  rw [ht] at hfirst
  rw [hu] at hsecond
  simp only [Except.map, Except.ok.injEq, Prod.mk.injEq] at hfirst hsecond
  obtain ⟨hcut, hnodes, hcalls⟩ := hfirst
  have hroom : t.cut ≠ some .nodes := by simp [hcut]
  have horder : orderedCalls (.ofCalls calls) t =
      [⟨"main", "save", "m.py", 4⟩, ⟨"main", "load", "m.py", 7⟩] := by
    rw [orderedCalls_eq, hcalls,
      mergeSort_eq_of_perm callBefore_iff callKey_injective (List.Perm.swap _ _ [])]
    exact List.mergeSort_of_pairwise (by decide +kernel)
  exact ⟨hperm, by decide, by decide, t, u, ht, hu, hroom, hsame hroom, hnodes, hsecond, horder⟩

end RepoAtlas.Calls
