import Mathlib.Data.Set.Card
import RepoAtlas.Proofs.Calls.Truncation
import RepoAtlas.Proofs.Calls.UpwardSearch

/-!
The blast radius of a dependency, told without the search that finds it: shortest chains from the
user interface files above it, all of them unless there are too many. A dependency is not above
itself, whatever it calls and whatever file it stands in.
-/
namespace RepoAtlas.Calls

/-! ### Links -/

/-- The function below a function in its chain, from which the search has met it. -/
def Search.parent? (s : Search) (function : String) : Option String :=
  (s.chains.find? (fun chain => chain.head? = some function)).bind (fun chain => chain.tail.head?)

/-- Going from a function to its parent, and on until there is no parent, visits these. -/
inductive Follows (parent? : String → Option String) : String → List String → Prop
  | stop {f : String} : parent? f = none → Follows parent? f [f]
  | link {f g : String} {chain : List String} :
      parent? f = some g → Follows parent? g chain → Follows parent? f (f :: chain)

namespace Search

variable {calls : List CallEdge} {dependency f : String} {limit : Int} {n : Nat} {s : Search}

theorem Traced.parent?_eq (h : Traced calls dependency n s.chains) {chain : List String}
    (hchain : chain ∈ s.chains) (hhead : chain.head? = some f) :
    s.parent? f = chain.tail.head? := by
  have hsome : (s.chains.find? (fun c => c.head? = some f)).isSome = true :=
    List.find?_isSome.2 ⟨chain, hchain, by simpa using hhead⟩
  obtain ⟨c, hc⟩ := Option.isSome_iff_exists.1 hsome
  have hhead' : c.head? = some f := by simpa using List.find?_some hc
  have hsame : c = chain := by
    refine List.inj_on_of_nodup_map h.heads (List.mem_of_find?_eq_some hc) hchain ?_
    rw [List.headD_eq_head?_getD, List.headD_eq_head?_getD, hhead, hhead']
  rw [parent?, hc, hsame]
  rfl

/-- The parents of a function that was met are the functions of its chain. -/
theorem Traced.follows (h : Traced calls dependency n s.chains) {k : Nat} {chain : List String}
    (htrail : Trail calls dependency k f chain) (hchain : chain ∈ s.chains) :
    Follows s.parent? f chain := by
  induction htrail with
  | stop => exact .stop (h.parent?_eq hchain rfl)
  | @call k f g below htrail hcall hd ih =>
    have hparent := h.parent?_eq hchain rfl
    rw [List.tail_cons, htrail.head?_eq] at hparent
    have hmem : below ∈ s.chains := by
      cases htrail with
      | stop => exact h.below _ _ _ hchain
      | call _ _ _ => exact h.below _ _ _ hchain
    exact .link hparent (ih hmem)

/-- Whatever function one starts from, its parents come to an end. -/
theorem Traced.exists_follows (h : Traced calls dependency n s.chains) (f : String) :
    ∃ chain, Follows s.parent? f chain := by
  cases hfind : s.chains.find? (fun c => c.head? = some f) with
  | none => exact ⟨[f], .stop (by rw [parent?, hfind]; rfl)⟩
  | some chain =>
    have hchain := List.mem_of_find?_eq_some hfind
    have hhead : chain.head? = some f := by simpa using List.find?_some hfind
    obtain ⟨k, -, htrail⟩ := h.trail_of_head hchain hhead
    exact ⟨chain, h.follows htrail hchain⟩

end Search

/-! ### What a search has found -/

namespace Search

variable {calls : List CallEdge} {dependency f : String} {limit : Int} {most : Nat} {s : Search}

section Explored

variable (h : Explored calls dependency limit most most s)

include h

theorem Explored.trail_of_surface {u : Surface} (hu : u ∈ s.surfaces) :
    ∃ k, 1 ≤ k ∧ k ≤ most ∧ Trail calls dependency k u.function u.chain := by
  obtain ⟨hmem, htwo⟩ := h.noted.chains u hu
  obtain ⟨k, hk, f, htrail⟩ := h.traced.trails _ hmem
  have hfunction : u.function = f := by
    rw [Surface.function, List.headD_eq_head?_getD, htrail.head?_eq]
    rfl
  rw [htrail.length_eq] at htwo
  exact ⟨k, by omega, hk, hfunction ▸ htrail⟩

/-- No function of a surface's file is nearer than the surface's own, the dependency apart. -/
theorem Explored.nearest {u : Surface} (hu : u ∈ s.surfaces) (hne : f ≠ dependency)
    (hfile : recordedFile calls f = u.file) {k : Nat}
    (hk : Reaches (Hop calls .callers) [dependency] k f) : u.chain.length ≤ k + 1 := by
  obtain ⟨j, hj, hd⟩ := exists_isDistance_of_reaches hk
  by_contra hlong
  -- a function nearer than one that was met was met itself
  have hmet := h.nearer _ (h.noted.chains u hu).1 f j (by omega) hd
  obtain ⟨chain, hchain, hhead⟩ := met_iff.1 hmet
  obtain ⟨i, -, htrail⟩ := h.traced.trail_of_head hchain hhead
  obtain rfl := htrail.callDistance.unique hd
  have hpos : i ≠ 0 := by
    rintro rfl
    exact hne (callDistance_zero_iff.1 hd)
  have hleast := h.noted.least u hu chain hchain (by rw [htrail.length_eq]; omega)
    (by rw [List.headD_eq_head?_getD, hhead]; exact hfile)
  rw [htrail.length_eq] at hleast
  omega

theorem Explored.surfaces_subset :
    {file | file ∈ s.surfaces.map (·.file)} ⊆ reachedSurfaces calls dependency most := by
  intro file hfile
  obtain ⟨u, hu, rfl⟩ := List.mem_map.1 hfile
  obtain ⟨hrecorded, hsurface⟩ := h.noted.files u hu
  obtain ⟨k, hpos, hk, htrail⟩ := h.trail_of_surface hu
  exact ⟨hsurface, u.function, mem_upstream_iff.2 ⟨k, hpos, hk, htrail.callDistance⟩,
    hrecorded.symm⟩

theorem Explored.exists_chain (hgo : s.stopped = false) (hf : f ∈ upstream calls dependency most) :
    ∃ chain ∈ s.chains, chain.head? = some f ∧ 2 ≤ chain.length := by
  obtain ⟨k, hpos, hk, hd⟩ := mem_upstream_iff.1 hf
  obtain ⟨chain, hchain, hhead⟩ := met_iff.1 (h.whole hgo f k hk hd)
  obtain ⟨j, -, htrail⟩ := h.traced.trail_of_head hchain hhead
  obtain rfl := htrail.callDistance.unique hd
  exact ⟨chain, hchain, hhead, by rw [htrail.length_eq]; omega⟩

theorem Explored.surfaces_eq (hgo : s.stopped = false) :
    {file | file ∈ s.surfaces.map (·.file)} = reachedSurfaces calls dependency most := by
  refine h.surfaces_subset.antisymm ?_
  rintro file ⟨hsurface, f, hf, rfl⟩
  obtain ⟨chain, hchain, hhead, htwo⟩ := h.exists_chain hgo hf
  have hname : chain.headD "" = f := by
    rw [List.headD_eq_head?_getD, hhead]
    rfl
  have hlisted := h.noted.listed chain hchain htwo (by rwa [hname])
  rwa [hname] at hlisted

/-- The search was stopped exactly if there are at least as many files as the limit. -/
theorem Explored.stopped_iff : s.stopped = true ↔
    (limit.toNat : ℕ∞) ≤ (reachedSurfaces calls dependency most).encard := by
  have hcard := encard_setOf_mem h.noted.once
  rw [List.length_map] at hcard
  constructor
  · intro hstop
    have hle := Set.encard_le_encard h.surfaces_subset
    rw [hcard] at hle
    have hlimit := h.noted.stop.1 hstop
    exact le_trans (by exact_mod_cast (by omega : limit.toNat ≤ s.surfaces.length)) hle
  · intro hle
    by_contra hgo
    rw [← h.surfaces_eq (Bool.eq_false_of_not_eq_true hgo), hcard] at hle
    have hlen : limit.toNat ≤ s.surfaces.length := by exact_mod_cast hle
    exact hgo (h.noted.stop.2 (by omega))

/-- Every chain but the first one belongs to a function above the dependency. -/
theorem Explored.encard_met : {f | f ∈ upstream calls dependency most ∧ s.met f = true}.encard =
    (s.chains.length - 1 : Nat) := by
  obtain ⟨rest, hchains⟩ : ∃ rest, s.chains = [dependency] :: rest := by
    have hstart := h.traced.start
    cases hc : s.chains with
    | nil => rw [hc] at hstart; cases hstart
    | cons first rest =>
      rw [hc] at hstart
      exact ⟨rest, by rw [Option.some.inj hstart]⟩
  have hheads := h.traced.heads
  rw [hchains, List.map_cons, List.nodup_cons] at hheads
  obtain ⟨hnew, hnodup⟩ := hheads
  have hset : {f | f ∈ upstream calls dependency most ∧ s.met f = true} =
      {f | f ∈ rest.map (·.headD "")} := by
    ext f
    constructor
    · rintro ⟨hf, hmet⟩
      obtain ⟨chain, hchain, hhead⟩ := met_iff.1 hmet
      rw [hchains] at hchain
      rcases List.mem_cons.1 hchain with rfl | hrest
      · exact absurd (Option.some.inj hhead).symm hf.1
      · exact List.mem_map.2 ⟨chain, hrest, by rw [List.headD_eq_head?_getD, hhead]; rfl⟩
    · intro hf
      obtain ⟨chain, hrest, rfl⟩ := List.mem_map.1 hf
      have hchain : chain ∈ s.chains := hchains ▸ List.mem_cons_of_mem _ hrest
      obtain ⟨k, hk, g, htrail⟩ := h.traced.trails chain hchain
      have hname : chain.headD "" = g := by
        rw [List.headD_eq_head?_getD, htrail.head?_eq]
        rfl
      have hpos : k ≠ 0 := by
        rintro rfl
        refine hnew (List.mem_map.2 ⟨chain, hrest, ?_⟩)
        exact hname.trans (callDistance_zero_iff.1 htrail.callDistance)
      refine ⟨mem_upstream_iff.2 ⟨k, by omega, hk, hname ▸ htrail.callDistance⟩, ?_⟩
      exact met_iff.2 ⟨chain, hchain, hname ▸ htrail.head?_eq⟩
  rw [hset, encard_setOf_mem hnodup, List.length_map, hchains, List.length_cons,
    Nat.add_sub_cancel]

theorem Explored.encard_upstream (hgo : s.stopped = false) :
    (upstream calls dependency most).encard = (s.chains.length - 1 : Nat) := by
  rw [← h.encard_met]
  refine congrArg Set.encard (Set.ext fun f => ⟨fun hf => ⟨hf, ?_⟩, And.left⟩)
  obtain ⟨chain, hchain, hhead, -⟩ := h.exists_chain hgo hf
  exact met_iff.2 ⟨chain, hchain, hhead⟩

end Explored

end Search

/-! ### Impacts -/

/-- What an entry says of its dependency, given how many calls count at most and at how many
surfaces the search stops. -/
structure IsBlastRadius (calls : List CallEdge) (most : Nat) (limit : Int) (bands : RiskBands)
    (i : Impact) : Prop where
  category : dependency? i.dependency = some i.category
  chains : ∀ u ∈ i.surfaces, u.chain.head? = some u.function ∧
    u.chain.getLast? = some i.dependency ∧ u.chain.Nodup ∧ u.chain.IsChain (IsCall calls)
  shortest : ∀ u ∈ i.surfaces, ∃ k, u.chain.length = k + 1 ∧ 1 ≤ k ∧ k ≤ most ∧
    CallDistance calls i.dependency u.function k
  nearest : ∀ u ∈ i.surfaces, ∀ f, f ≠ i.dependency → recordedFile calls f = u.file →
    ∀ k, Reaches (Hop calls .callers) [i.dependency] k f → u.chain.length ≤ k + 1
  files : ∀ u ∈ i.surfaces, isSurface u.file = true ∧ u.file = recordedFile calls u.function
  once : (i.surfaces.map (·.file)).Nodup
  truncated : i.truncated = true ↔
    (limit.toNat : ℕ∞) ≤ (reachedSurfaces calls i.dependency most).encard
  covers : i.truncated = false →
    {file | file ∈ i.surfaces.map (·.file)} = reachedSurfaces calls i.dependency most
  callers : i.truncated = false →
    (upstream calls i.dependency most).encard = (i.callers : Nat)
  risk : i.risk = bands.risk i.surfaces.length

theorem isBlastRadius_impactOf (calls : List CallEdge) (maxDepth : Int) {limit : Int}
    (hlimit : 1 ≤ limit) (bands : RiskBands) {dependency : String} {category : Dependency}
    (hcategory : dependency? dependency = some category) :
    IsBlastRadius calls maxDepth.toNat limit bands
      (impactOf (.ofCalls calls) maxDepth limit bands dependency category) := by
  have h := Search.run_explored calls dependency maxDepth hlimit
  refine ⟨hcategory, ?_, ?_, ?_, ?_, h.noted.once, h.stopped_iff, h.surfaces_eq,
    h.encard_upstream, rfl⟩
  · intro u hu
    obtain ⟨k, -, -, htrail⟩ := h.trail_of_surface hu
    exact ⟨htrail.head?_eq, htrail.getLast?_eq, htrail.nodup, htrail.isChain⟩
  · intro u hu
    obtain ⟨k, hpos, hk, htrail⟩ := h.trail_of_surface hu
    exact ⟨k, htrail.length_eq, hpos, hk, htrail.callDistance⟩
  · intro u hu f hne hfile k hk
    exact h.nearest hu hne hfile hk
  · intro u hu
    exact (h.noted.files u hu).symm

/-- What the entries for a list of calls are: one for each function outside the repository that is
called, with its blast radius, and with chains that are the parents of their functions. -/
structure IsImpactTree (calls : List CallEdge) (maxDepth limit : Int) (bands : RiskBands)
    (found : List Impact) : Prop where
  once : (found.map (·.dependency)).Nodup
  flagged : ∀ name, name ∈ found.map (·.dependency) ↔
    (∃ caller, IsCall calls caller name) ∧ (dependency? name).isSome = true
  each : ∀ i ∈ found, IsBlastRadius calls maxDepth.toNat limit bands i
  /-- Links to parents lead from every function to an end, and from a surface down its chain. -/
  links : ∀ i ∈ found,
    let parent? := (Search.run (.ofCalls calls) i.dependency maxDepth limit).parent?
    (∀ f, ∃ chain, Follows parent? f chain) ∧ ∀ u ∈ i.surfaces, Follows parent? u.function u.chain

theorem mem_impactTree {g : Graph} {maxDepth limit : Int} {bands : RiskBands} {i : Impact} :
    i ∈ impactTree g maxDepth limit bands ↔ ∃ name ∈ g.callers.keys, ∃ category,
      dependency? name = some category ∧ impactOf g maxDepth limit bands name category = i := by
  rw [impactTree, List.mem_mergeSort, List.mem_filterMap]
  simp only [Option.map_eq_some_iff]

/-- The entries are for the called functions outside the repository, in some order. -/
theorem impactTree_dependencies_perm (g : Graph) (maxDepth limit : Int) (bands : RiskBands) :
    ((impactTree g maxDepth limit bands).map (·.dependency)).Perm
      (g.callers.keys.filter (fun name => (dependency? name).isSome)) := by
  refine ((List.mergeSort_perm _ _).map _).trans (List.Perm.of_eq ?_)
  rw [List.map_filterMap, ← List.filterMap_eq_filter]
  refine List.filterMap_congr fun name _ => ?_
  cases hname : dependency? name with
  | none => simp [Option.guard, hname]
  | some category => simp [hname, impactOf]

/-- With room for a surface at least, the entries are the blast radii of the called functions
outside the repository. -/
theorem impactTree_isImpactTree (calls : List CallEdge) (maxDepth maxSurfaces : Int)
    (bands : RiskBands) (hlimit : 1 ≤ maxSurfaces) :
    IsImpactTree calls maxDepth maxSurfaces bands
      (impactTree (.ofCalls calls) maxDepth maxSurfaces bands) := by
  have hperm := impactTree_dependencies_perm (.ofCalls calls) maxDepth maxSurfaces bands
  constructor
  · exact hperm.nodup_iff.2 ((Graph.nodup_keys_callers_ofCalls calls).filter _)
  · intro name
    rw [hperm.mem_iff, List.mem_filter, Graph.mem_keys_callers_ofCalls]
  · intro i hi
    obtain ⟨name, -, category, hcategory, rfl⟩ := mem_impactTree.1 hi
    exact isBlastRadius_impactOf calls maxDepth hlimit bands hcategory
  · intro i hi
    obtain ⟨name, -, category, -, rfl⟩ := mem_impactTree.1 hi
    have h := Search.run_explored calls name maxDepth hlimit
    refine ⟨h.traced.exists_follows, ?_⟩
    intro u hu
    obtain ⟨k, -, -, htrail⟩ := h.trail_of_surface hu
    exact h.traced.follows htrail (h.noted.chains u hu).1

/-- A client that calls back into the page that reaches it, which lies on a circle. -/
theorem impactTree_isImpactTree_circle :
    let calls : List CallEdge := [⟨"Home.render", "load", "pages/home.py", 1⟩,
      ⟨"load", "client.get", "load.py", 2⟩, ⟨"client.get", "Home.render", "pages/home.py", 3⟩,
      ⟨"Home.init", "Home.render", "pages/home.py", 4⟩]
    (1 : Int) ≤ 10 ∧ IsImpactTree calls 6 10 {} (impactTree (.ofCalls calls) 6 10) ∧
      (impactTree (.ofCalls calls) 6 10).map (fun i => (i.dependency, i.surfaces, i.callers)) =
        [("client.get", [⟨"pages/home.py", ["Home.render", "load", "client.get"]⟩], 3)] := by
  intro calls
  exact ⟨by decide, impactTree_isImpactTree calls 6 10 {} (by decide), by decide +kernel⟩

/-- A function outside the repository that calls itself reaches itself, from a user interface file,
but its own file is not among its surfaces. -/
theorem impactTree_own_file :
    let calls : List CallEdge := [⟨"fetchUser", "fetchUser", "pages/user.py", 1⟩]
    (impactTree (.ofCalls calls) 6 1).map (fun i => (i.dependency, i.surfaces, i.truncated)) =
        [("fetchUser", [], false)] ∧
      (1 : ℕ∞) ≤ {file | isSurface file = true ∧ ∃ f k, 1 ≤ k ∧ k ≤ 6 ∧
        Reaches (Hop calls .callers) ["fetchUser"] k f ∧ recordedFile calls f = file}.encard := by
  intro calls
  have hcall : IsCall calls "fetchUser" "fetchUser" := ⟨_, List.mem_singleton_self _, rfl, rfl⟩
  have hreach : Reaches (Hop calls .callers) ["fetchUser"] 1 "fetchUser" :=
    .step (.seed (List.mem_singleton_self _)) hcall
  refine ⟨by decide +kernel, Set.one_le_encard_iff_nonempty.2 ⟨"pages/user.py", by decide, ?_⟩⟩
  exact ⟨"fetchUser", 1, Nat.le_refl 1, by decide, hreach, by decide⟩

end RepoAtlas.Calls
