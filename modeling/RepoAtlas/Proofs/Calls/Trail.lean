import RepoAtlas.Calls.Impact
import RepoAtlas.Proofs.Calls.BreadthFirst

/-!
What a function's distance from a dependency is, and what a shortest call chain down to it looks
like. `upstream` and `reachedSurfaces` say what lies above a dependency without any search.
-/
namespace RepoAtlas.Calls

/-- The least number of calls by which a function reaches a dependency. -/
abbrev CallDistance (calls : List CallEdge) (dependency function : String) (k : Nat) : Prop :=
  IsDistance (Hop calls .callers) [dependency] function k

/-- A shortest call chain down to the dependency, from the function in front of it. -/
inductive Trail (calls : List CallEdge) (dependency : String) : Nat → String → List String → Prop
  | stop : Trail calls dependency 0 dependency [dependency]
  | call {k : Nat} {f g : String} {chain : List String} :
      Trail calls dependency k g chain → IsCall calls f g →
      CallDistance calls dependency f (k + 1) → Trail calls dependency (k + 1) f (f :: chain)

section Trail

variable {calls : List CallEdge} {dependency f : String} {k most : Nat} {chain : List String}

theorem callDistance_zero_iff : CallDistance calls dependency f 0 ↔ f = dependency := by
  rw [CallDistance, isDistance_zero_iff, List.mem_singleton]

namespace Trail

theorem callDistance (h : Trail calls dependency k f chain) : CallDistance calls dependency f k := by
  cases h with
  | stop => exact callDistance_zero_iff.2 rfl
  | call _ _ hd => exact hd

theorem head?_eq (h : Trail calls dependency k f chain) : chain.head? = some f := by
  cases h <;> rfl

theorem length_eq (h : Trail calls dependency k f chain) : chain.length = k + 1 := by
  induction h with
  | stop => rfl
  | call _ _ _ ih => rw [List.length_cons, ih]

theorem getLast?_eq (h : Trail calls dependency k f chain) :
    chain.getLast? = some dependency := by
  induction h with
  | stop => rfl
  | call hbelow _ _ ih =>
    rw [List.getLast?_cons, ih]
    rfl

theorem isChain (h : Trail calls dependency k f chain) : chain.IsChain (IsCall calls) := by
  induction h with
  | stop => exact .singleton _
  | call hbelow hcall _ ih =>
    cases hbelow with
    | stop => exact .cons_cons hcall ih
    | call _ _ _ => exact .cons_cons hcall ih

theorem near (h : Trail calls dependency k f chain) {g : String} (hg : g ∈ chain) :
    ∃ j ≤ k, CallDistance calls dependency g j := by
  induction h with
  | stop => exact ⟨0, Nat.le_refl 0, callDistance_zero_iff.2 (List.mem_singleton.1 hg)⟩
  | call _ _ hd ih =>
    rcases List.mem_cons.1 hg with rfl | hg
    · exact ⟨_, Nat.le_refl _, hd⟩
    · obtain ⟨j, hj, hdj⟩ := ih hg
      exact ⟨j, hj.trans (Nat.le_succ _), hdj⟩

/-- No function comes twice: each is one call nearer than the one before it. -/
theorem nodup (h : Trail calls dependency k f chain) : chain.Nodup := by
  induction h with
  | stop => exact List.nodup_singleton _
  | call hbelow _ hd ih =>
    refine List.nodup_cons.2 ⟨?_, ih⟩
    intro hmem
    obtain ⟨j, hj, hdj⟩ := hbelow.near hmem
    have := hd.unique hdj
    omega

end Trail

/-! ### What lies above a dependency -/

/-- The functions other than the dependency that reach it in some calls, but not too many. -/
def upstream (calls : List CallEdge) (dependency : String) (most : Nat) : Set String :=
  {f | f ≠ dependency ∧ ∃ k, 1 ≤ k ∧ k ≤ most ∧ Reaches (Hop calls .callers) [dependency] k f}

theorem mem_upstream_iff : f ∈ upstream calls dependency most ↔
    ∃ k, 1 ≤ k ∧ k ≤ most ∧ CallDistance calls dependency f k := by
  constructor
  · rintro ⟨hne, k, -, hk, h⟩
    obtain ⟨j, hj, hd⟩ := exists_isDistance_of_reaches h
    have hpos : j ≠ 0 := by
      rintro rfl
      exact hne (callDistance_zero_iff.1 hd)
    exact ⟨j, by omega, by omega, hd⟩
  · rintro ⟨k, hpos, hk, hd⟩
    refine ⟨?_, k, hpos, hk, hd.reached⟩
    intro heq
    have := hd.unique (callDistance_zero_iff.2 heq)
    omega

/-- The file that a function's first call with a file names; empty if there is none. -/
def recordedFile (calls : List CallEdge) (function : String) : String :=
  ((calls.find? (fun c => c.caller = function ∧ c.file ≠ "")).map (·.file)).getD ""

/-- The user interface files of the functions above a dependency. -/
def reachedSurfaces (calls : List CallEdge) (dependency : String) (most : Nat) : Set String :=
  {file | isSurface file = true ∧ ∃ f ∈ upstream calls dependency most, recordedFile calls f = file}

theorem Graph.get?_files_add (g : Graph) (c : CallEdge) (function : String) :
    (g.add c).files.get? function = (g.files.get? function).or
      (if c.caller = function ∧ c.file ≠ "" then some c.file else none) := by
  by_cases hfile : c.file = ""
  · simp [add, hfile]
  · have hnew : (g.add c).files = g.files.insertNew c.caller c.file := by simp [add, hfile]
    rw [hnew, OrderedMap.insertNew, OrderedMap.get?_update]
    by_cases hcaller : function = c.caller
    · subst hcaller
      cases g.files.get? c.caller <;> simp [hfile]
    · simp [hcaller, Ne.symm hcaller]

/-- The file of a function in the graph is the one on record, if there is one. -/
theorem Graph.get?_files_ofCalls (calls : List CallEdge) (function : String) :
    (ofCalls calls).files.get? function =
      (calls.find? (fun c => c.caller = function ∧ c.file ≠ "")).map (·.file) := by
  suffices ∀ g : Graph, (calls.foldl add g).files.get? function = (g.files.get? function).or
      ((calls.find? (fun c => c.caller = function ∧ c.file ≠ "")).map (·.file)) by
    rw [ofCalls, this]
    rfl
  induction calls with
  | nil => intro g; simp
  | cons c rest ih =>
    intro g
    rw [List.foldl_cons, ih, get?_files_add, Option.or_assoc, List.find?_cons]
    by_cases hc : c.caller = function ∧ c.file ≠ ""
    · simp [hc]
    · simp [hc]

theorem Graph.fileOf_ofCalls (calls : List CallEdge) (function : String) :
    (ofCalls calls).fileOf function = recordedFile calls function := by
  rw [fileOf, get?_files_ofCalls, recordedFile]

theorem Graph.mem_keys_callers_ofCalls (calls : List CallEdge) (callee : String) :
    callee ∈ (ofCalls calls).callers.keys ↔ ∃ caller, IsCall calls caller callee := by
  suffices ∀ g : Graph, callee ∈ (calls.foldl add g).callers.keys ↔
      callee ∈ g.callers.keys ∨ ∃ caller, IsCall calls caller callee by
    simpa [ofCalls, OrderedMap.keys] using this {}
  induction calls with
  | nil => simp [IsCall]
  | cons c rest ih =>
    intro g
    rw [List.foldl_cons, ih, add, OrderedMap.keys_update, mem_appendNew, or_assoc]
    refine or_congr_right ?_
    simp [isCall_cons, exists_or, eq_comm]

theorem Graph.nodup_keys_callers_ofCalls (calls : List CallEdge) :
    (ofCalls calls).callers.keys.Nodup := by
  suffices ∀ g : Graph, g.callers.keys.Nodup → (calls.foldl add g).callers.keys.Nodup by
    exact this {} List.nodup_nil
  induction calls with
  | nil => exact fun g h => h
  | cons c rest ih => exact fun g h => ih _ (OrderedMap.nodup_keys_update h _ _)

end Trail

end RepoAtlas.Calls
