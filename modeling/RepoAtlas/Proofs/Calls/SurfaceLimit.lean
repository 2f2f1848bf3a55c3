import RepoAtlas.Proofs.Calls.BlastRadius

/-!
What the limit on surfaces does to a search. Two searches that differ in it are the same until the
one with the smaller limit is stopped; it stays as it is then, and the other one goes on from there.
-/
namespace RepoAtlas.Calls

namespace Search

variable {g : Graph} {limit more : Int} {s t u : Search}

/-- The second search has all that the first one has, in the same places. -/
structure Continues (s t : Search) : Prop where
  chains : s.chains <+: t.chains
  surfaces : s.surfaces <+: t.surfaces

/-- The first search is the second one, or it was stopped at the limit somewhere along its way. -/
structure CutFrom (limit : Int) (s t : Search) : Prop extends Continues s t where
  going : s.stopped = false → t = s ∧ (s.surfaces.length : Int) < limit
  full : s.stopped = true → (s.surfaces.length : Int) = limit

/-! ### Going on -/

namespace Continues

theorem refl (s : Search) : Continues s s := ⟨List.prefix_rfl, List.prefix_rfl⟩

theorem trans (h : Continues s t) (h' : Continues t u) : Continues s u :=
  ⟨h.chains.trans h'.chains, h.surfaces.trans h'.surfaces⟩

theorem note (file : String) (limit : Int) (s : Search) (chain : List String) :
    Continues s (note file limit s chain) := by
  rw [Search.note]
  split
  · exact ⟨List.prefix_rfl, List.prefix_append _ _⟩
  · exact refl s

theorem extend (g : Graph) (limit : Int) (s : Search) (chain : List String) (caller : String) :
    Continues s (extend g limit s chain caller) := by
  rw [Search.extend]
  split
  · exact refl s
  · have hlonger : Continues s { s with chains := s.chains ++ [caller :: chain] } :=
      ⟨List.prefix_append _ _, List.prefix_rfl⟩
    exact hlonger.trans (note _ _ _ _)

theorem extendAll (g : Graph) (limit : Int) (s : Search) (steps : List (List String × String)) :
    Continues s (steps.foldl (fun s e => Search.extend g limit s e.1 e.2) s) := by
  induction steps generalizing s with
  | nil => exact refl s
  | cons e rest ih => exact (extend g limit s e.1 e.2).trans (ih _)

theorem expandAll (g : Graph) (limit : Int) (rounds calls : Nat) (s : Search) :
    Continues s (expandAll g limit rounds calls s) := by
  induction rounds generalizing calls s with
  | zero => exact refl s
  | succ rounds ih =>
    rw [Search.expandAll]
    split
    · exact refl s
    · exact (extendAll g limit s _).trans (ih _ _)

end Continues

/-! ### Staying -/

section Stopped

variable (hs : s.stopped = true)

include hs

theorem extend_of_stopped (chain : List String) (caller : String) :
    extend g limit s chain caller = s := by
  simp [extend, hs]

theorem extendAll_of_stopped (steps : List (List String × String)) :
    steps.foldl (fun s e => extend g limit s e.1 e.2) s = s := by
  induction steps with
  | nil => rfl
  | cons e rest ih => rw [List.foldl_cons, extend_of_stopped hs, ih]

theorem expandAll_of_stopped (rounds calls : Nat) : expandAll g limit rounds calls s = s := by
  induction rounds generalizing calls with
  | zero => rfl
  | succ rounds ih =>
    have hstay : expand g limit s calls = s := extendAll_of_stopped hs _
    rw [expandAll, hstay, ih, ite_self]

end Stopped

/-! ### Being cut -/

namespace CutFrom

theorem of_stopped (h : CutFrom limit s t) (hs : s.stopped = true) (hmore : Continues t u) :
    CutFrom limit s u where
  toContinues := h.toContinues.trans hmore
  going hgo := by
    rw [hs] at hgo
    cases hgo
  full := h.full

/-- Searches with room for a surface at least are the same until one is noted. -/
theorem of_going (hs : s.stopped = false) (hroom : (s.surfaces.length : Int) < limit) :
    CutFrom limit s s where
  toContinues := .refl s
  going _ := ⟨rfl, hroom⟩
  full hstop := by
    rw [hs] at hstop
    cases hstop

theorem note (hs : s.stopped = false) (hroom : (s.surfaces.length : Int) < limit)
    (hmore : limit ≤ more) (file : String) (chain : List String) :
    CutFrom limit (note file limit s chain) (note file more s chain) := by
  rw [Search.note, Search.note]
  split
  next =>
    have hlen : (s.surfaces ++ [Surface.mk file chain]).length = s.surfaces.length + 1 :=
      List.length_append
    refine ⟨⟨List.prefix_rfl, List.prefix_rfl⟩, ?_, ?_⟩
    · intro hgo
      have hopen := of_decide_eq_false hgo
      have hlater : ¬ more ≤ ((s.surfaces ++ [Surface.mk file chain]).length : Nat) := by omega
      dsimp only
      rw [decide_eq_false hopen, decide_eq_false hlater]
      exact ⟨rfl, by omega⟩
    · intro hstop
      have hlimit := of_decide_eq_true hstop
      dsimp only
      omega
  next => exact of_going hs hroom

/-- One step: as long as the searches are the same, they part only at the smaller limit. -/
theorem extend (h : CutFrom limit s t) (hmore : limit ≤ more) (chain : List String)
    (caller : String) :
    CutFrom limit (extend g limit s chain caller) (extend g more t chain caller) := by
  cases hs : s.stopped with
  | true =>
    rw [extend_of_stopped hs]
    exact h.of_stopped hs (.extend g more t chain caller)
  | false =>
    obtain ⟨rfl, hroom⟩ := h.going hs
    rw [Search.extend, Search.extend]
    split
    · exact of_going hs hroom
    · exact note (s := { t with chains := t.chains ++ [caller :: chain] }) hs hroom hmore _ _

theorem extendAll (h : CutFrom limit s t) (hmore : limit ≤ more)
    (steps : List (List String × String)) :
    CutFrom limit (steps.foldl (fun s e => Search.extend g limit s e.1 e.2) s)
      (steps.foldl (fun t e => Search.extend g more t e.1 e.2) t) := by
  induction steps generalizing s t with
  | nil => exact h
  | cons e rest ih => exact ih (h.extend hmore e.1 e.2)

theorem expandAll (h : CutFrom limit s t) (hmore : limit ≤ more) (rounds calls : Nat) :
    CutFrom limit (expandAll g limit rounds calls s) (expandAll g more rounds calls t) := by
  induction rounds generalizing calls s t with
  | zero => exact h
  | succ rounds ih =>
    cases hs : s.stopped with
    | true =>
      rw [expandAll_of_stopped hs]
      exact h.of_stopped hs (.expandAll g more (rounds + 1) calls t)
    | false =>
      -- both expand the same layer
      obtain ⟨rfl, hroom⟩ := h.going hs
      rw [Search.expandAll, Search.expandAll]
      split
      · exact h
      · exact ih (h.extendAll hmore _) (calls + 1)

/-- A whole search is cut from the one with a larger limit. -/
theorem run (g : Graph) (dependency : String) (maxDepth : Int) (hlimit : 1 ≤ limit)
    (hmore : limit ≤ more) :
    CutFrom limit (run g dependency maxDepth limit) (run g dependency maxDepth more) := by
  have hstart : CutFrom limit { chains := [[dependency]] } { chains := [[dependency]] } :=
    of_going rfl (Int.lt_of_lt_of_le Int.zero_lt_one hlimit)
  exact hstart.expandAll hmore maxDepth.toNat 0

theorem surfaces_eq (h : CutFrom limit s t) : s.surfaces = t.surfaces.take limit.toNat := by
  cases hs : s.stopped with
  | true =>
    have hlen : limit.toNat = s.surfaces.length := by
      rw [← h.full hs, Int.toNat_natCast]
    rw [hlen]
    exact List.prefix_iff_eq_take.1 h.surfaces
  | false =>
    obtain ⟨rfl, hroom⟩ := h.going hs
    exact (List.take_of_length_le (by omega)).symm

end CutFrom

end Search

/-! ### Impacts -/

/-- Surfaces beyond both thresholds make no difference to the risk. -/
theorem RiskBands.risk_min {bands : RiskBands} {limit : Int}
    (h : max bands.mediumAt bands.highAt ≤ limit) (n : Int) :
    bands.risk (min limit n) = bands.risk n := by
  have hmedium : min limit n < bands.mediumAt ↔ n < bands.mediumAt := by omega
  have hhigh : min limit n < bands.highAt ↔ n < bands.highAt := by omega
  simp only [risk, hmedium, hhigh]

/-- An entry that tells of the first surfaces of another one, and of no more callers. -/
structure Impact.CutFrom (limit : Int) (bands : RiskBands) (few many : Impact) : Prop where
  category : few.category = many.category
  surfaces : few.surfaces = many.surfaces.take limit.toNat
  callers : few.callers ≤ many.callers
  risk : max bands.mediumAt bands.highAt ≤ limit → few.risk = many.risk

theorem impactOf_cutFrom (g : Graph) (maxDepth : Int) {limit more : Int} (hlimit : 1 ≤ limit)
    (hmore : limit ≤ more) (bands : RiskBands) (dependency : String) (category : Dependency) :
    (impactOf g maxDepth limit bands dependency category).CutFrom limit bands
      (impactOf g maxDepth more bands dependency category) := by
  have h := Search.CutFrom.run g dependency maxDepth hlimit hmore
  refine ⟨rfl, h.surfaces_eq, Nat.sub_le_sub_right h.chains.length_le 1, fun hbands => ?_⟩
  have hlength : ((Search.run g dependency maxDepth limit).surfaces.length : Int) =
      min limit (Search.run g dependency maxDepth more).surfaces.length := by
    rw [h.surfaces_eq, List.length_take]
    omega
  rw [impactOf, impactOf, hlength, RiskBands.risk_min hbands]

theorem mem_impactTree_dependencies {calls : List CallEdge} {maxDepth limit : Int}
    {bands : RiskBands} {name : String} :
    name ∈ (impactTree (.ofCalls calls) maxDepth limit bands).map (·.dependency) ↔
      (∃ caller, IsCall calls caller name) ∧ (dependency? name).isSome = true := by
  rw [(impactTree_dependencies_perm _ _ _ _).mem_iff, List.mem_filter,
    Graph.mem_keys_callers_ofCalls]

/-- A smaller limit on surfaces cuts the entry of every called function outside the repository:
its surfaces are the first ones of the entry with the larger limit, and its risk is the same if
the limit reaches the thresholds of all bands. -/
theorem impactTree_cutFrom (calls : List CallEdge) (maxDepth : Int) {limit more : Int}
    (hlimit : 1 ≤ limit) (hmore : limit ≤ more) (bands : RiskBands) :
    let few := impactTree (.ofCalls calls) maxDepth limit bands
    let many := impactTree (.ofCalls calls) maxDepth more bands
    (∀ name, (∃ caller, IsCall calls caller name) → (dependency? name).isSome = true →
        name ∈ few.map (·.dependency) ∧ name ∈ many.map (·.dependency)) ∧
      ∀ i ∈ few, ∀ j ∈ many, i.dependency = j.dependency → i.CutFrom limit bands j := by
  refine ⟨?_, ?_⟩
  · intro name hcalled hflagged
    exact ⟨mem_impactTree_dependencies.2 ⟨hcalled, hflagged⟩,
      mem_impactTree_dependencies.2 ⟨hcalled, hflagged⟩⟩
  · intro i hi j hj hsame
    obtain ⟨name, -, category, hcategory, rfl⟩ := mem_impactTree.1 hi
    obtain ⟨name', -, category', hcategory', rfl⟩ := mem_impactTree.1 hj
    obtain rfl : name = name' := hsame
    obtain rfl := Option.some.inj (hcategory.symm.trans hcategory')
    exact impactOf_cutFrom (.ofCalls calls) maxDepth hlimit hmore bands name category

/-- Two pages above a client, one of them behind the other, and room for one or for both. -/
theorem impactTree_cutFrom_pages :
    let calls : List CallEdge := [⟨"Cart.pay", "client.post", "pages/cart.py", 1⟩,
      ⟨"Home.open", "Cart.pay", "pages/home.py", 2⟩]
    let few := impactTree (.ofCalls calls) 6 1 ⟨1, 1⟩
    let many := impactTree (.ofCalls calls) 6 10 ⟨1, 1⟩
    (1 : Int) ≤ 1 ∧ (1 : Int) ≤ 10 ∧ IsCall calls "Cart.pay" "client.post" ∧
      (dependency? "client.post").isSome = true ∧
      (∃ i ∈ few, ∃ j ∈ many, i.dependency = j.dependency ∧ i.CutFrom 1 ⟨1, 1⟩ j) ∧
      few.map (fun i => (i.callers, i.risk)) = [(1, .high)] ∧
      many.map (fun i => (i.callers, i.risk)) = [(2, .high)] := by
  intro calls few many
  obtain ⟨hlisted, hcut⟩ := impactTree_cutFrom calls 6 (show (1 : Int) ≤ 1 by decide)
    (show (1 : Int) ≤ 10 by decide) ⟨1, 1⟩
  have hcall : IsCall calls "Cart.pay" "client.post" := ⟨_, List.mem_cons_self, rfl, rfl⟩
  have hflagged : (dependency? "client.post").isSome = true := by decide
  obtain ⟨hfew, hmany⟩ := hlisted "client.post" ⟨_, hcall⟩ hflagged
  obtain ⟨i, hi, hname⟩ := List.mem_map.1 hfew
  obtain ⟨j, hj, hname'⟩ := List.mem_map.1 hmany
  have hsame : i.dependency = j.dependency := hname.trans hname'.symm
  exact ⟨by decide, by decide, hcall, hflagged, ⟨i, hi, j, hj, hsame, hcut i hi j hj hsame⟩,
    by decide +kernel, by decide +kernel⟩

end RepoAtlas.Calls
