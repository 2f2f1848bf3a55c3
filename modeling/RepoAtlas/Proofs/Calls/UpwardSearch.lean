import RepoAtlas.Proofs.Calls.Trail

/-!
The search from a dependency up along the callers. Its chains are shortest ones and each goes on
from another one; of the functions in one user interface file it notes the first that it meets,
which is one of the nearest. `Explored` is what one step keeps and `run_explored` what holds after
a whole search.
-/
namespace RepoAtlas.Calls.Search

variable {calls : List CallEdge} {dependency f : String} {limit : Int} {n : Nat} {s : Search}

/-- What the chains of a search are: the dependency alone comes first, the others are shortest
ones, one for each function, and lead down along chains of the search. -/
structure Traced (calls : List CallEdge) (dependency : String) (deepest : Nat)
    (chains : List (List String)) : Prop where
  start : chains.head? = some [dependency]
  trails : ∀ chain ∈ chains, ∃ k ≤ deepest, ∃ f, Trail calls dependency k f chain
  heads : (chains.map (·.headD "")).Nodup
  below : ∀ f g rest, f :: g :: rest ∈ chains → g :: rest ∈ chains

/-- What the surfaces of a search are: of each user interface file that the chains lead to, the
shortest chain from one of its functions other than the dependency. -/
structure Noted (calls : List CallEdge) (limit : Int) (s : Search) : Prop where
  chains : ∀ u ∈ s.surfaces, u.chain ∈ s.chains ∧ 2 ≤ u.chain.length
  files : ∀ u ∈ s.surfaces, u.file = recordedFile calls u.function ∧ isSurface u.file = true
  once : (s.surfaces.map (·.file)).Nodup
  listed : ∀ chain ∈ s.chains, 2 ≤ chain.length →
    isSurface (recordedFile calls (chain.headD "")) = true →
      recordedFile calls (chain.headD "") ∈ s.surfaces.map (·.file)
  least : ∀ u ∈ s.surfaces, ∀ chain ∈ s.chains, 2 ≤ chain.length →
    recordedFile calls (chain.headD "") = u.file → u.chain.length ≤ chain.length
  stop : s.stopped = true ↔ limit ≤ (s.surfaces.length : Nat)

/-- A search whose chains have at most some calls. It has met every function that is nearer than
one that it has met, and every one within some distance unless it was stopped. -/
structure Explored (calls : List CallEdge) (dependency : String) (limit : Int)
    (deepest whole : Nat) (s : Search) : Prop where
  traced : Traced calls dependency deepest s.chains
  noted : Noted calls limit s
  nearer : ∀ chain ∈ s.chains, ∀ f k, k + 1 < chain.length → CallDistance calls dependency f k →
    s.met f = true
  whole : s.stopped = false → ∀ f k, k ≤ whole → CallDistance calls dependency f k →
    s.met f = true

theorem met_iff : s.met f = true ↔ ∃ chain ∈ s.chains, chain.head? = some f := by
  rw [met, List.any_eq_true]
  simp only [beq_iff_eq]

theorem Traced.trail_of_head (h : Traced calls dependency n s.chains) {chain : List String}
    (hchain : chain ∈ s.chains) (hhead : chain.head? = some f) :
    ∃ k ≤ n, Trail calls dependency k f chain := by
  obtain ⟨k, hk, g, htrail⟩ := h.trails chain hchain
  obtain rfl : g = f := Option.some.inj (htrail.head?_eq.symm.trans hhead)
  exact ⟨k, hk, htrail⟩

theorem Traced.mono (h : Traced calls dependency n s.chains) :
    Traced calls dependency (n + 1) s.chains where
  start := h.start
  trails := by
    intro chain hchain
    obtain ⟨k, hk, htrail⟩ := h.trails chain hchain
    exact ⟨k, by omega, htrail⟩
  heads := h.heads
  below := h.below

/-! ### One step -/

theorem note_chains (file : String) (limit : Int) (s : Search) (chain : List String) :
    (note file limit s chain).chains = s.chains := by
  rw [note]
  split <;> rfl

theorem Traced.snoc {g : String} {chain : List String}
    (h : Traced calls dependency (n + 1) s.chains) (hmem : chain ∈ s.chains)
    (htrail : Trail calls dependency n g chain) (hcall : IsCall calls f g)
    (hd : CallDistance calls dependency f (n + 1)) (hnew : ¬ s.met f = true) :
    Traced calls dependency (n + 1) (s.chains ++ [f :: chain]) where
  start := by
    rw [List.head?_append, h.start]
    rfl
  trails := by
    intro c hc
    rcases List.mem_append.1 hc with hc | hc
    · exact h.trails c hc
    · rw [List.mem_singleton.1 hc]
      exact ⟨n + 1, Nat.le_refl _, f, .call htrail hcall hd⟩
  heads := by
    rw [List.map_append, List.map_singleton, List.nodup_append]
    refine ⟨h.heads, List.nodup_singleton _, ?_⟩
    intro x hx y hy hxy
    obtain ⟨c, hc, rfl⟩ := List.mem_map.1 hx
    obtain ⟨k, -, e, hce⟩ := h.trails c hc
    obtain rfl : y = f := List.mem_singleton.1 hy
    refine hnew (met_iff.2 ⟨c, hc, ?_⟩)
    rw [← hxy, List.headD_eq_head?_getD, hce.head?_eq]
    rfl
  below := by
    intro x y rest hc
    rcases List.mem_append.1 hc with hc | hc
    · exact List.mem_append_left _ (h.below x y rest hc)
    · obtain ⟨-, rfl⟩ := List.cons.inj (List.mem_singleton.1 hc)
      exact List.mem_append_left _ hmem

/-- A chain is not noted if its function is in no user interface file, or in one that a chain no
longer than this one was noted for. -/
theorem Noted.skip {chain : List String} (h : Noted calls limit s)
    (hlong : ∀ c ∈ s.chains, c.length ≤ chain.length)
    (hknown : isSurface (recordedFile calls (chain.headD "")) = true →
      recordedFile calls (chain.headD "") ∈ s.surfaces.map (·.file)) :
    Noted calls limit { s with chains := s.chains ++ [chain] } where
  chains := by
    intro u hu
    obtain ⟨hmem, htwo⟩ := h.chains u hu
    exact ⟨List.mem_append_left _ hmem, htwo⟩
  files := h.files
  once := h.once
  listed := by
    intro c hc htwo hsurface
    rcases List.mem_append.1 hc with hc | hc
    · exact h.listed c hc htwo hsurface
    · obtain rfl := List.mem_singleton.1 hc
      exact hknown hsurface
  least := by
    intro u hu c hc htwo hfile
    rcases List.mem_append.1 hc with hc | hc
    · exact h.least u hu c hc htwo hfile
    · obtain rfl := List.mem_singleton.1 hc
      exact hlong _ (h.chains u hu).1
  stop := h.stop

/-- The first chain that leads to a user interface file is noted with the file. -/
theorem Noted.add {u : Surface} (h : Noted calls limit s) (htwo : 2 ≤ u.chain.length)
    (hlong : ∀ c ∈ s.chains, c.length ≤ u.chain.length)
    (hfile : u.file = recordedFile calls u.function) (hsurface : isSurface u.file = true)
    (hnew : u.file ∉ s.surfaces.map (·.file)) :
    Noted calls limit
      { chains := s.chains ++ [u.chain], surfaces := s.surfaces ++ [u],
        stopped := limit ≤ ((s.surfaces ++ [u]).length : Nat) } where
  chains := by
    intro v hv
    rcases List.mem_append.1 hv with hv | hv
    · obtain ⟨hmem, hlen⟩ := h.chains v hv
      exact ⟨List.mem_append_left _ hmem, hlen⟩
    · obtain rfl := List.mem_singleton.1 hv
      exact ⟨List.mem_append_right _ (List.mem_singleton_self _), htwo⟩
  files := by
    intro v hv
    rcases List.mem_append.1 hv with hv | hv
    · exact h.files v hv
    · obtain rfl := List.mem_singleton.1 hv
      exact ⟨hfile, hsurface⟩
  once := by
    rw [List.map_append, List.map_singleton, List.nodup_append]
    refine ⟨h.once, List.nodup_singleton _, ?_⟩
    rintro x hx y hy rfl
    exact hnew (List.mem_singleton.1 hy ▸ hx)
  listed := by
    intro c hc hlen hc'
    rw [List.map_append, List.mem_append, List.map_singleton, List.mem_singleton]
    rcases List.mem_append.1 hc with hc | hc
    · exact Or.inl (h.listed c hc hlen hc')
    · obtain rfl := List.mem_singleton.1 hc
      exact Or.inr hfile.symm
  least := by
    intro v hv c hc hlen hc'
    rcases List.mem_append.1 hc with hold | hc
    · rcases List.mem_append.1 hv with hv | hv
      · exact h.least v hv c hold hlen hc'
      · -- an earlier chain to the file would have been noted
        obtain rfl := List.mem_singleton.1 hv
        exact absurd (hc' ▸ h.listed c hold hlen (hc' ▸ hsurface)) hnew
    · obtain rfl := List.mem_singleton.1 hc
      rcases List.mem_append.1 hv with hv | hv
      · exact hlong _ (h.chains v hv).1
      · rw [List.mem_singleton.1 hv]
  stop := decide_eq_true_iff

/-- A chain that is no shorter than those before it is noted as it has to be. -/
theorem Noted.snoc {chain : List String} (h : Noted calls limit s) (htwo : 2 ≤ chain.length)
    (hlong : ∀ c ∈ s.chains, c.length ≤ chain.length) :
    Noted calls limit (note (recordedFile calls (chain.headD "")) limit
      { s with chains := s.chains ++ [chain] } chain) := by
  rw [note]
  split
  next hnote =>
    rw [Bool.and_eq_true, Bool.not_eq_true', List.contains_eq_mem, decide_eq_false_iff_not] at hnote
    exact h.add (u := ⟨recordedFile calls (chain.headD ""), chain⟩) htwo hlong rfl hnote.1 hnote.2
  next hnote =>
    refine h.skip hlong fun hsurface => ?_
    rw [Bool.and_eq_true, Bool.not_eq_true', List.contains_eq_mem, decide_eq_false_iff_not] at hnote
    by_contra hnew
    exact hnote ⟨hsurface, hnew⟩

/-- A caller of a function in the last whole layer belongs into the next one if it is new. -/
theorem Explored.callDistance {g : String} (h : Explored calls dependency limit (n + 1) n s)
    (hgo : s.stopped = false) (hd : CallDistance calls dependency g n) (hcall : IsCall calls f g)
    (hnew : ¬ s.met f = true) : CallDistance calls dependency f (n + 1) := by
  refine isDistance_succ_iff.2 ⟨⟨g, hd, hcall⟩, ?_⟩
  intro j hj hdj
  exact hnew (h.whole hgo f j hj hdj)

/-- What extending a chain by a caller of its function does to a search. -/
theorem Explored.extend {g : String} {chain : List String}
    (h : Explored calls dependency limit (n + 1) n s) (hmem : chain ∈ s.chains)
    (htrail : Trail calls dependency n g chain) (hcall : IsCall calls f g) :
    Explored calls dependency limit (n + 1) n (extend (.ofCalls calls) limit s chain f) ∧
      s.chains <+: (extend (.ofCalls calls) limit s chain f).chains ∧
      ((extend (.ofCalls calls) limit s chain f).stopped = false →
        s.stopped = false ∧ (extend (.ofCalls calls) limit s chain f).met f = true) := by
  rw [Search.extend]
  split
  next hkeep =>
    refine ⟨h, List.prefix_rfl, fun hgo => ⟨hgo, ?_⟩⟩
    simpa [hgo] using hkeep
  next hnext =>
    rw [Bool.or_eq_true, not_or, Bool.not_eq_true] at hnext
    obtain ⟨hgo, hnew⟩ := hnext
    have hd := h.callDistance hgo htrail.callDistance hcall hnew
    have hlong : ∀ c ∈ s.chains, c.length ≤ (f :: chain).length := by
      intro c hc
      obtain ⟨k, hk, e, hce⟩ := h.traced.trails c hc
      rw [hce.length_eq, List.length_cons, htrail.length_eq]
      omega
    have htwo : 2 ≤ (f :: chain).length := by
      rw [List.length_cons, htrail.length_eq]
      omega
    have hnoted := h.noted.snoc htwo hlong
    have hchains := note_chains (recordedFile calls f) limit
      { s with chains := s.chains ++ [f :: chain] } (f :: chain)
    have hmet : ∀ e, s.met e = true ∨ e = f → (note (recordedFile calls f) limit
        { s with chains := s.chains ++ [f :: chain] } (f :: chain)).met e = true := by
      intro e he
      rw [met_iff, hchains]
      rcases he with he | rfl
      · obtain ⟨c, hc, hhead⟩ := met_iff.1 he
        exact ⟨c, List.mem_append_left _ hc, hhead⟩
      · exact ⟨e :: chain, List.mem_append_right _ (List.mem_singleton_self _), rfl⟩
    rw [Graph.fileOf_ofCalls]
    refine ⟨⟨?_, hnoted, ?_, ?_⟩, ?_, ?_⟩
    · rw [hchains]
      exact h.traced.snoc hmem htrail hcall hd hnew
    · intro c hc e k hk hde
      rw [hchains] at hc
      refine hmet e (Or.inl ?_)
      rcases List.mem_append.1 hc with hc | hc
      · exact h.nearer c hc e k hk hde
      · rw [List.mem_singleton.1 hc, List.length_cons, htrail.length_eq] at hk
        exact h.whole hgo e k (by omega) hde
    · intro _ e k hk hde
      exact hmet e (Or.inl (h.whole hgo e k hk hde))
    · rw [hchains]
      exact List.prefix_append _ _
    · exact fun _ => ⟨hgo, hmet f (Or.inr rfl)⟩

/-! ### Layers -/

/-- Extending several chains of one layer, one caller after the other. -/
theorem Explored.extendAll (h : Explored calls dependency limit (n + 1) n s)
    (steps : List (List String × String))
    (hsteps : ∀ e ∈ steps, e.1 ∈ s.chains ∧
      ∃ g, Trail calls dependency n g e.1 ∧ IsCall calls e.2 g) :
    let next := steps.foldl (fun s e => Search.extend (.ofCalls calls) limit s e.1 e.2) s
    Explored calls dependency limit (n + 1) n next ∧ s.chains <+: next.chains ∧
      (next.stopped = false → s.stopped = false ∧ ∀ e ∈ steps, next.met e.2 = true) := by
  induction steps generalizing s with
  | nil => exact ⟨h, List.prefix_rfl, fun hgo => ⟨hgo, fun _ he => by cases he⟩⟩
  | cons e rest ih =>
    obtain ⟨hmem, g, htrail, hcall⟩ := hsteps e List.mem_cons_self
    obtain ⟨hone, hpre, hmet⟩ := h.extend hmem htrail hcall
    obtain ⟨hall, hpres, hmets⟩ := ih hone (by
      intro e' he'
      obtain ⟨hmem', hcall'⟩ := hsteps e' (List.mem_cons_of_mem e he')
      exact ⟨hpre.subset hmem', hcall'⟩)
    refine ⟨hall, hpre.trans hpres, ?_⟩
    intro hgo
    obtain ⟨hfirst, hrest⟩ := hmets hgo
    obtain ⟨hstart, hf⟩ := hmet hfirst
    refine ⟨hstart, ?_⟩
    intro e' he'
    rcases List.mem_cons.1 he' with rfl | he'
    · obtain ⟨c, hc, hhead⟩ := met_iff.1 hf
      exact met_iff.2 ⟨c, hpres.subset hc, hhead⟩
    · exact hrest e' he'

theorem Traced.mem_layer_iff (h : Traced calls dependency n s.chains) {k : Nat}
    {chain : List String} :
    chain ∈ s.layer k ↔ chain ∈ s.chains ∧ ∃ f, Trail calls dependency k f chain := by
  rw [layer, List.mem_filter, beq_iff_eq]
  refine and_congr_right fun hc => ?_
  obtain ⟨j, -, f, htrail⟩ := h.trails chain hc
  rw [htrail.length_eq]
  constructor
  · intro hj
    obtain rfl : j = k := by omega
    exact ⟨f, htrail⟩
  · rintro ⟨g, hother⟩
    exact htrail.length_eq.symm.trans hother.length_eq

/-- Expanding the last layer meets all functions of the next one, unless the search is stopped. -/
theorem Explored.expand (h : Explored calls dependency limit n n s) :
    Explored calls dependency limit (n + 1) (n + 1) (expand (.ofCalls calls) limit s n) := by
  have hstart : Explored calls dependency limit (n + 1) n s :=
    ⟨h.traced.mono, h.noted, h.nearer, h.whole⟩
  obtain ⟨hnext, hpre, hmet⟩ := hstart.extendAll ((s.layer n).flatMap (fun chain =>
    ((Graph.ofCalls calls).callersOf (chain.headD "")).map (fun caller => (chain, caller)))) (by
      intro e he
      obtain ⟨chain, hchain, he⟩ := List.mem_flatMap.1 he
      obtain ⟨caller, hcaller, rfl⟩ := List.mem_map.1 he
      obtain ⟨hmem, g, htrail⟩ := h.traced.mem_layer_iff.1 hchain
      rw [List.headD_eq_head?_getD, htrail.head?_eq] at hcaller
      exact ⟨hmem, g, htrail, (Graph.mem_callersOf_ofCalls calls g caller).1 hcaller⟩)
  refine ⟨hnext.traced, hnext.noted, hnext.nearer, ?_⟩
  intro hgo f k hk hd
  by_cases hlt : k ≤ n
  · exact hnext.whole hgo f k hlt hd
  · obtain rfl : k = n + 1 := by omega
    obtain ⟨hstopped, hall⟩ := hmet hgo
    obtain ⟨⟨g, hdg, hcall⟩, -⟩ := isDistance_succ_iff.1 hd
    obtain ⟨chain, hchain, hhead⟩ := met_iff.1 (h.whole hstopped g n (Nat.le_refl n) hdg)
    obtain ⟨j, -, htrail⟩ := h.traced.trail_of_head hchain hhead
    obtain rfl := htrail.callDistance.unique hdg
    refine hall (chain, f) (List.mem_flatMap.2 ⟨chain, ?_, List.mem_map.2 ⟨f, ?_, rfl⟩⟩)
    · exact h.traced.mem_layer_iff.2 ⟨hchain, g, htrail⟩
    · rw [List.headD_eq_head?_getD, hhead]
      exact (Graph.mem_callersOf_ofCalls calls g f).2 hcall

/-- A distance has all smaller ones below it. -/
theorem exists_callDistance_of_le {k j : Nat} (h : CallDistance calls dependency f k)
    (hj : j ≤ k) : ∃ g, CallDistance calls dependency g j := by
  induction k generalizing f with
  | zero => exact ⟨f, by rwa [Nat.le_zero.1 hj]⟩
  | succ k ih =>
    rcases Nat.lt_or_eq_of_le hj with hlt | rfl
    · obtain ⟨⟨g, hg, -⟩, -⟩ := isDistance_succ_iff.1 h
      exact ih hg (Nat.lt_succ_iff.1 hlt)
    · exact ⟨f, h⟩

/-- Past an empty layer there is nothing to meet. -/
theorem Explored.of_empty_layer (h : Explored calls dependency limit n n s)
    (hlayer : s.layer n = []) (most : Nat) :
    Explored calls dependency limit (n + most) (n + most) s where
  traced := by
    induction most with
    | zero => exact h.traced
    | succ most ih => exact ih.mono
  noted := h.noted
  nearer := h.nearer
  whole := by
    intro hgo f k _ hd
    by_cases hlt : k ≤ n
    · exact h.whole hgo f k hlt hd
    · obtain ⟨g, hg⟩ := exists_callDistance_of_le hd (Nat.le_of_not_le hlt)
      obtain ⟨chain, hchain, hhead⟩ := met_iff.1 (h.whole hgo g n (Nat.le_refl n) hg)
      obtain ⟨j, -, htrail⟩ := h.traced.trail_of_head hchain hhead
      obtain rfl := htrail.callDistance.unique hg
      have hmem := h.traced.mem_layer_iff.2 ⟨hchain, g, htrail⟩
      rw [hlayer] at hmem
      cases hmem

theorem Explored.expandAll (h : Explored calls dependency limit n n s) (rounds : Nat) :
    Explored calls dependency limit (n + rounds) (n + rounds)
      (expandAll (.ofCalls calls) limit rounds n s) := by
  induction rounds generalizing n s with
  | zero => exact h
  | succ rounds ih =>
    rw [Search.expandAll]
    split
    next hempty => exact h.of_empty_layer (List.isEmpty_iff.1 hempty) _
    next =>
      have hnext := ih h.expand
      rwa [Nat.add_right_comm, Nat.add_assoc] at hnext

theorem explored_start (calls : List CallEdge) (dependency : String) (hlimit : 1 ≤ limit) :
    Explored calls dependency limit 0 0 { chains := [[dependency]] } where
  traced := by
    refine ⟨rfl, ?_, List.nodup_singleton _, ?_⟩
    · intro chain hchain
      obtain rfl := List.mem_singleton.1 hchain
      exact ⟨0, Nat.le_refl 0, dependency, .stop⟩
    · intro f g rest hmem
      cases List.mem_singleton.1 hmem
  noted := by
    have hnone : ∀ u, u ∉ ({ chains := [[dependency]] } : Search).surfaces := by simp
    refine ⟨fun u hu => absurd hu (hnone u), fun u hu => absurd hu (hnone u), List.nodup_nil, ?_,
      fun u hu => absurd hu (hnone u), ?_⟩
    · intro chain hchain htwo
      obtain rfl := List.mem_singleton.1 hchain
      exact absurd htwo (by simp)
    · have : ¬ limit ≤ 0 := by omega
      simpa using this
  nearer := by
    intro chain hchain f k hk
    obtain rfl := List.mem_singleton.1 hchain
    exact absurd hk (by simp)
  whole := by
    intro _ f k hk hd
    obtain rfl := Nat.le_zero.1 hk
    exact met_iff.2 ⟨_, List.mem_singleton_self _, by rw [callDistance_zero_iff.1 hd]; rfl⟩

/-- What a whole search has explored. -/
theorem run_explored (calls : List CallEdge) (dependency : String) (maxDepth : Int)
    (hlimit : 1 ≤ limit) :
    Explored calls dependency limit maxDepth.toNat maxDepth.toNat
      (run (.ofCalls calls) dependency maxDepth limit) := by
  have hstart := explored_start calls dependency hlimit
  have hrun := hstart.expandAll maxDepth.toNat
  rwa [Nat.zero_add] at hrun

end RepoAtlas.Calls.Search
