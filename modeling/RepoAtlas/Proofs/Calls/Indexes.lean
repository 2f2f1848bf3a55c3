import Mathlib.Algebra.BigOperators.Finprod
import Mathlib.Data.Prod.Lex
import Mathlib.Data.String.Basic
import Mathlib.Order.Bounds.Basic
import RepoAtlas.Proofs.Calls.Trail
import RepoAtlas.Proofs.OrderedMap
import RepoAtlas.Proofs.Sorting

/-!
What each index of a call graph holds, in terms of the list of calls alone. The indexes agree with
each other, and those that do not record an order are the same for the calls in any order.
-/
namespace RepoAtlas.Calls

/-! ### Sites -/

/-- Where one function calls the other, by file and then by line. -/
def callSites (calls : List CallEdge) (caller callee : String) : Set (String ×ₗ Int) :=
  {site | ∃ c ∈ calls, c.caller = caller ∧ c.callee = callee ∧ toLex (c.file, c.line) = site}

theorem siteBefore_iff {a b : String × Int} : siteBefore a b = true ↔ toLex a < toLex b := by
  rw [Prod.Lex.toLex_lt_toLex, siteBefore, Bool.or_eq_true, Bool.and_eq_true, beq_iff_eq,
    decide_eq_true_iff, decide_eq_true_iff]

/-- A site counts if it lies before the one on record. -/
theorem toLex_leastSite (site s : String × Int) :
    toLex (leastSite site (some s)) = min (toLex site) (toLex s) := by
  rw [leastSite]
  split
  next h => exact (min_eq_left (siteBefore_iff.1 h).le).symm
  next h => exact (min_eq_right (not_lt.1 (mt siteBefore_iff.2 h))).symm

section Step

variable (calls : List CallEdge) (c : CallEdge)

theorem callSites_append_of_eq :
    callSites (calls ++ [c]) c.caller c.callee =
      insert (toLex (c.file, c.line)) (callSites calls c.caller c.callee) := by
  ext site
  simp only [callSites, List.mem_append, List.mem_singleton, Set.mem_ofPred_eq, Set.mem_insert_iff]
  constructor
  · rintro ⟨d, hd | rfl, hcaller, hcallee, rfl⟩
    · exact Or.inr ⟨d, hd, hcaller, hcallee, rfl⟩
    · exact Or.inl rfl
  · rintro (rfl | ⟨d, hd, hrest⟩)
    · exact ⟨c, Or.inr rfl, rfl, rfl, rfl⟩
    · exact ⟨d, Or.inl hd, hrest⟩

theorem callSites_append_of_ne {a b : String} (h : (a, b) ≠ (c.caller, c.callee)) :
    callSites (calls ++ [c]) a b = callSites calls a b := by
  ext site
  simp only [callSites, List.mem_append, List.mem_singleton, Set.mem_ofPred_eq]
  constructor
  · rintro ⟨d, hd | rfl, hcaller, hcallee, rfl⟩
    · exact ⟨d, hd, hcaller, hcallee, rfl⟩
    · exact absurd (Prod.ext hcaller.symm hcallee.symm) h
  · rintro ⟨d, hd, hrest⟩
    exact ⟨d, Or.inl hd, hrest⟩

end Step

theorem callSites_nonempty_iff {calls : List CallEdge} {a b : String} :
    (callSites calls a b).Nonempty ↔ IsCall calls a b := by
  constructor
  · rintro ⟨_, c, hc, hcaller, hcallee, -⟩
    exact ⟨c, hc, hcaller, hcallee⟩
  · rintro ⟨c, hc, hcaller, hcallee⟩
    exact ⟨_, c, hc, hcaller, hcallee, rfl⟩

/-! ### One call more -/

namespace Graph

theorem ofCalls_append_singleton (calls : List CallEdge) (c : CallEdge) :
    ofCalls (calls ++ [c]) = (ofCalls calls).add c := by
  rw [ofCalls, List.foldl_append]
  rfl

theorem pairCount_add (g : Graph) (c : CallEdge) (a b : String) :
    (g.add c).pairCount a b = g.pairCount a b + if c.caller = a ∧ c.callee = b then 1 else 0 := by
  by_cases h : c.caller = a ∧ c.callee = b
  · obtain ⟨rfl, rfl⟩ := h
    simp [add, pairCount, count]
  · have hne : (a, b) ≠ (c.caller, c.callee) := by
      rintro heq
      exact h ⟨(Prod.mk.inj heq).1.symm, (Prod.mk.inj heq).2.symm⟩
    simp [add, pairCount, h, hne]

theorem get?_sites_add (g : Graph) (c : CallEdge) (e : String × String) :
    (g.add c).sites.get? e = if e = (c.caller, c.callee) then
      some (leastSite (c.file, c.line) (g.sites.get? e)) else g.sites.get? e := by
  rw [add, OrderedMap.get?_update]
  by_cases h : e = (c.caller, c.callee) <;> simp [h]

end Graph

/-! ### All calls -/

/-- However the counts are kept, they add up to one more. -/
theorem sum_updateEntries_count {κ : Type} [DecidableEq κ] (k : κ) (entries : List (κ × Nat)) :
    ((OrderedMap.updateEntries k count entries).map (·.2)).sum =
      (entries.map (·.2)).sum + 1 := by
  induction entries with
  | nil => rfl
  | cons e rest ih =>
    obtain ⟨j, n⟩ := e
    rw [OrderedMap.updateEntries]
    split
    · simp only [count, Option.getD_some, List.map_cons, List.sum_cons]
      omega
    · simp only [List.map_cons, List.sum_cons, ih]
      omega

/-- Items counted key by key are counted once each. -/
theorem finsum_countP_key {α κ : Type} [DecidableEq κ] (key : α → κ) (p : α → Prop)
    [DecidablePred p] (xs : List α) :
    ∑ᶠ k, xs.countP (fun x => key x = k ∧ p x) = xs.countP (fun x => p x) := by
  have hfinite : ∀ ys : List α,
      (Function.support fun k => ys.countP (fun x => key x = k ∧ p x)).Finite := by
    intro ys
    refine (List.finite_toSet (ys.map key)).subset ?_
    intro k hk
    obtain ⟨x, hx, hxk⟩ := List.countP_pos_iff.1 (Nat.pos_of_ne_zero hk)
    exact List.mem_map.2 ⟨x, hx, (of_decide_eq_true hxk).1⟩
  induction xs with
  | nil => simp
  | cons x rest ih =>
    have hone : ∑ᶠ k, (if key x = k ∧ p x then 1 else 0) = if p x then 1 else 0 := by
      rw [finsum_eq_single _ (key x) (fun k hk => by simp [Ne.symm hk])]
      simp
    have hfirst : (Function.support fun k => if key x = k ∧ p x then 1 else 0).Finite := by
      refine (Set.finite_singleton (key x)).subset ?_
      intro k hk
      by_contra hne
      exact hk (by simp [Ne.symm hne])
    simp only [List.countP_cons, decide_eq_true_eq]
    rw [finsum_add_distrib (hfinite rest) hfirst, ih, hone]

/-- Adding items one by one, each if it is new, leaves their first occurrences. -/
theorem addNew_of_distinct {item : String} {items : List String} {found : Option (List String)}
    (h : found.getD [] = distinct items) : addNew item found = distinct (items ++ [item]) := by
  rw [addNew, h, OrderedMap.distinct_append_singleton]
  simp only [List.contains_iff_mem, mem_distinct]

namespace Graph

section OfCalls

variable (calls : List CallEdge) (a b : String)

theorem calleesOf_ofCalls : (ofCalls calls).calleesOf a =
    distinct ((calls.filter (fun c => c.caller = a)).map (·.callee)) := by
  induction calls using List.reverseRecOn with
  | nil => rfl
  | append_singleton calls c ih =>
    rw [ofCalls_append_singleton, calleesOf_add, List.filter_append, List.map_append]
    by_cases h : c.caller = a
    · rw [if_pos h.symm, addNew_of_distinct ih]
      simp [h]
    · rw [if_neg (Ne.symm h), ih]
      simp [h]

theorem callersOf_ofCalls : (ofCalls calls).callersOf b =
    distinct ((calls.filter (fun c => c.callee = b)).map (·.caller)) := by
  induction calls using List.reverseRecOn with
  | nil => rfl
  | append_singleton calls c ih =>
    rw [ofCalls_append_singleton, callersOf_add, List.filter_append, List.map_append]
    by_cases h : c.callee = b
    · rw [if_pos h.symm, addNew_of_distinct ih]
      simp [h]
    · rw [if_neg (Ne.symm h), ih]
      simp [h]

theorem pairCount_ofCalls : (ofCalls calls).pairCount a b =
    calls.countP (fun c => c.caller = a ∧ c.callee = b) := by
  induction calls using List.reverseRecOn with
  | nil => rfl
  | append_singleton calls c ih =>
    rw [ofCalls_append_singleton, pairCount_add, ih, List.countP_append]
    simp [List.countP_singleton]

theorem calleeCount_ofCalls : ((ofCalls calls).calleeCounts.get? b).getD 0 =
    calls.countP (fun c => c.callee = b) := by
  induction calls using List.reverseRecOn with
  | nil => rfl
  | append_singleton calls c ih =>
    rw [ofCalls_append_singleton, List.countP_append, ← ih, add, OrderedMap.get?_update]
    by_cases h : c.callee = b
    · subst h
      simp [count]
    · simp [h, Ne.symm h]

theorem sum_pairCounts_ofCalls : (ofCalls calls).pairCounts.values.sum = calls.length := by
  induction calls using List.reverseRecOn with
  | nil => rfl
  | append_singleton calls c ih =>
    rw [ofCalls_append_singleton, List.length_append, List.length_singleton, ← ih]
    exact sum_updateEntries_count _ _

/-- The site on record is the least one; there is none exactly if there is no call. -/
theorem get?_sites_ofCalls : match (ofCalls calls).sites.get? (a, b) with
    | some site => IsLeast (callSites calls a b) (toLex site)
    | none => callSites calls a b = ∅ := by
  induction calls using List.reverseRecOn with
  | nil => simp [ofCalls, OrderedMap.get?, OrderedMap.lookup, callSites]
  | append_singleton calls c ih =>
    rw [ofCalls_append_singleton, get?_sites_add]
    by_cases h : (a, b) = (c.caller, c.callee)
    · obtain ⟨rfl, rfl⟩ := Prod.mk.inj h
      rw [if_pos rfl, callSites_append_of_eq]
      cases hsite : (ofCalls calls).sites.get? (c.caller, c.callee) with
      | none =>
        rw [hsite] at ih
        simp only [leastSite, ih, insert_empty_eq, isLeast_singleton]
      | some site =>
        rw [hsite] at ih
        simp only [toLex_leastSite]
        exact ih.insert _
    · rw [if_neg h, callSites_append_of_ne calls c h]
      exact ih

theorem get?_sites_eq_some_iff {site : String × Int} :
    (ofCalls calls).sites.get? (a, b) = some site ↔ IsLeast (callSites calls a b) (toLex site) := by
  have hfound := get?_sites_ofCalls calls a b
  cases hsite : (ofCalls calls).sites.get? (a, b) with
  | none =>
    rw [hsite] at hfound
    simp only [hfound, reduceCtorEq, false_iff]
    exact fun h => h.1
  | some least =>
    rw [hsite] at hfound
    rw [Option.some.injEq]
    constructor
    · rintro rfl
      exact hfound
    · intro h
      exact toLex_inj.1 (hfound.unique h)

theorem isSome_get?_sites_iff :
    ((ofCalls calls).sites.get? (a, b)).isSome = true ↔ IsCall calls a b := by
  have hfound := get?_sites_ofCalls calls a b
  rw [← callSites_nonempty_iff]
  cases hsite : (ofCalls calls).sites.get? (a, b) with
  | none =>
    rw [hsite] at hfound
    simp [hfound]
  | some least =>
    rw [hsite] at hfound
    simpa using hfound.nonempty

theorem mem_keys_callees_ofCalls :
    a ∈ (ofCalls calls).callees.keys ↔ ∃ b, IsCall calls a b := by
  induction calls using List.reverseRecOn with
  | nil => simp [ofCalls, OrderedMap.keys, IsCall]
  | append_singleton calls c ih =>
    rw [ofCalls_append_singleton, add, OrderedMap.keys_update, mem_appendNew, ih]
    simp [IsCall, or_and_right, exists_or, eq_comm]

end OfCalls

/-! ### Agreement -/

/-- What the indexes of a call graph say of the calls, and of each other. -/
structure Indexes (g : Graph) (calls : List CallEdge) : Prop where
  inverse : ∀ a b, b ∈ g.calleesOf a ↔ a ∈ g.callersOf b
  counted : ∀ a b, b ∈ g.calleesOf a ↔ 0 < g.pairCount a b
  sited : ∀ a b, b ∈ g.calleesOf a ↔ (g.sites.get? (a, b)).isSome = true
  once : ∀ a, (g.calleesOf a).Nodup ∧ (g.callersOf a).Nodup
  /-- Neighbours are listed as they are first seen. -/
  calleesOf : ∀ a,
    g.calleesOf a = distinct ((calls.filter (fun c => c.caller = a)).map (·.callee))
  callersOf : ∀ b,
    g.callersOf b = distinct ((calls.filter (fun c => c.callee = b)).map (·.caller))
  pairCount : ∀ a b, g.pairCount a b = calls.countP (fun c => c.caller = a ∧ c.callee = b)
  calleeCount : ∀ b, (g.calleeCounts.get? b).getD 0 = ∑ᶠ a, g.pairCount a b
  total : g.pairCounts.values.sum = calls.length
  site : ∀ a b s, g.sites.get? (a, b) = some s ↔ IsLeast (callSites calls a b) (toLex s)
  file : ∀ a, g.files.get? a =
    (calls.find? (fun c => c.caller = a ∧ c.file ≠ "")).map (·.file)

/-- Graphs that differ in nothing but the order of neighbours and the files on record. -/
structure SameCalls (g h : Graph) : Prop where
  callees : ∀ a, (g.calleesOf a).Perm (h.calleesOf a)
  callers : ∀ a, (g.callersOf a).Perm (h.callersOf a)
  degrees : ∀ a, (g.calleesOf a).length = (h.calleesOf a).length ∧
    (g.callersOf a).length = (h.callersOf a).length
  pairCount : ∀ a b, g.pairCount a b = h.pairCount a b
  calleeCount : ∀ b, (g.calleeCounts.get? b).getD 0 = (h.calleeCounts.get? b).getD 0
  site : ∀ e, g.sites.get? e = h.sites.get? e
  nodes : g.nodes = h.nodes

theorem nodup_callersOf_ofCalls (calls : List CallEdge) (b : String) :
    ((ofCalls calls).callersOf b).Nodup := by
  rw [callersOf_ofCalls]
  exact nodup_distinct _

theorem indexes_ofCalls (calls : List CallEdge) : (ofCalls calls).Indexes calls where
  inverse a b := by rw [mem_calleesOf_ofCalls, mem_callersOf_ofCalls]
  counted a b := by
    rw [mem_calleesOf_ofCalls, pairCount_ofCalls, List.countP_pos_iff]
    simp [IsCall]
  sited a b := by rw [mem_calleesOf_ofCalls, isSome_get?_sites_iff]
  once a := ⟨nodup_calleesOf_ofCalls calls a, nodup_callersOf_ofCalls calls a⟩
  calleesOf := calleesOf_ofCalls calls
  callersOf := callersOf_ofCalls calls
  pairCount := pairCount_ofCalls calls
  calleeCount b := by
    simp only [calleeCount_ofCalls, pairCount_ofCalls]
    exact (finsum_countP_key (·.caller) (fun c => c.callee = b) calls).symm
  total := sum_pairCounts_ofCalls calls
  site a b _ := get?_sites_eq_some_iff calls a b
  file := get?_files_ofCalls calls

end Graph

section AnyOrder

variable {calls other : List CallEdge}

theorem isCall_congr (h : calls.Perm other) (a b : String) :
    IsCall calls a b ↔ IsCall other a b := by
  simp only [IsCall, h.mem_iff]

theorem callSites_congr (h : calls.Perm other) (a b : String) :
    callSites calls a b = callSites other a b := by
  simp only [callSites, h.mem_iff]

/-- The order of the calls decides no more than the order of neighbours and the files on record. -/
theorem Graph.sameCalls_of_perm (h : calls.Perm other) :
    (ofCalls calls).SameCalls (ofCalls other) := by
  have hcallees : ∀ a, ((ofCalls calls).calleesOf a).Perm ((ofCalls other).calleesOf a) := by
    intro a
    refine (List.perm_ext_iff_of_nodup (nodup_calleesOf_ofCalls _ a)
      (nodup_calleesOf_ofCalls _ a)).2 fun b => ?_
    rw [mem_calleesOf_ofCalls, mem_calleesOf_ofCalls, isCall_congr h]
  have hcallers : ∀ a, ((ofCalls calls).callersOf a).Perm ((ofCalls other).callersOf a) := by
    intro a
    refine (List.perm_ext_iff_of_nodup (nodup_callersOf_ofCalls _ a)
      (nodup_callersOf_ofCalls _ a)).2 fun b => ?_
    rw [mem_callersOf_ofCalls, mem_callersOf_ofCalls, isCall_congr h]
  refine ⟨hcallees, hcallers, fun a => ⟨(hcallees a).length_eq, (hcallers a).length_eq⟩,
    ?_, ?_, ?_, ?_⟩
  · intro a b
    rw [pairCount_ofCalls, pairCount_ofCalls, h.countP_eq]
  · intro b
    rw [calleeCount_ofCalls, calleeCount_ofCalls, h.countP_eq]
  · rintro ⟨a, b⟩
    refine Option.ext fun site => ?_
    rw [get?_sites_eq_some_iff, get?_sites_eq_some_iff, callSites_congr h]
  · refine sortedSet_congr fun a => ?_
    simp only [List.mem_append, mem_keys_callees_ofCalls, mem_keys_callers_ofCalls,
      isCall_congr h]

end AnyOrder

/-- The graph of any calls has its indexes in agreement, and the calls in another order have the
same graph but for the order of neighbours and the files on record. -/
theorem Graph.indexes_agree (calls : List CallEdge) : (ofCalls calls).Indexes calls ∧
    ∀ other, calls.Perm other → (ofCalls calls).SameCalls (ofCalls other) :=
  ⟨indexes_ofCalls calls, fun _ h => sameCalls_of_perm h⟩

/-- A call that is made twice, first from the later site, and the same calls backwards. -/
theorem Graph.indexes_agree_backwards :
    let calls : List CallEdge := [⟨"a", "c", "", 0⟩, ⟨"a", "b", "m.py", 9⟩, ⟨"a", "b", "m.py", 4⟩,
      ⟨"b", "a", "k.py", 1⟩]
    (ofCalls calls).Indexes calls ∧ calls.Perm calls.reverse ∧
      (ofCalls calls).SameCalls (ofCalls calls.reverse) ∧
      (ofCalls calls).sites.get? ("a", "b") = some ("m.py", 4) ∧
      (ofCalls calls).calleesOf "a" = ["c", "b"] ∧
      (ofCalls calls.reverse).calleesOf "a" = ["b", "c"] := by
  intro calls
  obtain ⟨hindexes, hsame⟩ := indexes_agree calls
  have hperm := (List.reverse_perm calls).symm
  exact ⟨hindexes, hperm, hsame _ hperm, by decide, by decide, by decide⟩

end RepoAtlas.Calls
