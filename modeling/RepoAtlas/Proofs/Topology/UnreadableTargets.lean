import RepoAtlas.Proofs.Topology.Newcomer

/-!
There is a graph of the ecosystem if every target reads as an address or as a name; the first that
does not takes the graph with it. Requests without an answer, on the other hand, leave no trace
beside their entry among the external calls.
-/
namespace RepoAtlas.Topology

/-- The target reads as an address or as a name. -/
def IsReadable (target : String) : Prop := ∃ t, Target.parse target = .ok t

/-- A character that no address needs and that none is disguised by. -/
def IsUnsuspicious (c : Char) : Prop := c.toNat < 128 ∧ c ≠ '[' ∧ c ≠ ']'

instance : DecidablePred IsUnsuspicious := fun _ => inferInstanceAs (Decidable (_ ∧ _))

/-- The facts with those requests only that are to be kept. -/
def keeping (keep : String × OutboundCall → Bool) (facts : List (String × Option TopologyFacts)) :
    List (String × Option TopologyFacts) :=
  facts.map (fun (repo, f) => (repo, f.map (fun f =>
    { f with outboundCalls := f.outboundCalls.filter (fun c => keep (repo, c)) })))

/-- What the ecosystem becomes, by the targets of its requests. -/
structure TargetsDecide (facts : List (String × Option TopologyFacts))
    (graph : List (String × Option TopologyFacts) → Result Ecosystem) : Prop where
  exists_iff : (∃ g, graph facts = .ok g) ↔ ∀ c ∈ sentCalls facts, IsReadable c.2.target
  plain : (∀ c ∈ sentCalls facts, ∀ ch ∈ c.2.target.toList, IsUnsuspicious ch) →
    ∃ g, graph facts = .ok g
  fails_iff : ∀ fault, graph facts = .error fault ↔ ∃ earlier c later,
    sentCalls facts = earlier ++ c :: later ∧ (∀ d ∈ earlier, IsReadable d.2.target) ∧
      Target.parse c.2.target = .error fault
  fault : ∀ fault, graph facts = .error fault → ∃ why, fault = .host why
  rest : ∃ g, graph (keeping (fun c => (Target.parse c.2.target).isOk) facts) = .ok g
  unanswered : ∀ g, graph facts = .ok g → ∀ keep,
    (∀ c ∈ sentCalls facts, keep c = false → c ∈ g.externalCalls) →
      graph (keeping keep facts) = .ok { g with externalCalls := g.externalCalls.filter keep }

/-! ### Targets and their faults -/

theorem checkBracketed_fault {host : List Char} {fault : Fault}
    (h : Net.checkBracketed host = .error fault) : ∃ why, fault = .host why := by
  rw [Net.checkBracketed] at h
  split at h
  · split at h
    · cases h
    · exact ⟨_, (Except.error.inj h).symm⟩
  · split at h
    · exact ⟨_, (Except.error.inj h).symm⟩
    · split at h
      · cases h
      · exact ⟨_, (Except.error.inj h).symm⟩

theorem checkBrackets_fault {location : List Char} {fault : Fault}
    (h : Net.checkBrackets location = .error fault) : ∃ why, fault = .host why := by
  rw [Net.checkBrackets] at h
  split at h
  · exact checkBracketed_fault h
  · cases h
  · exact ⟨_, (Except.error.inj h).symm⟩

theorem checkDisguise_fault {location : List Char} {fault : Fault}
    (h : Net.checkDisguise location = .error fault) : ∃ why, fault = .host why := by
  rw [Net.checkDisguise] at h
  split at h
  · exact ⟨_, (Except.error.inj h).symm⟩
  · cases h

theorem hostAndPath_fault {url : List Char} {fault : Fault}
    (h : Net.hostAndPath url = .error fault) : ∃ why, fault = .host why := by
  rw [Net.hostAndPath] at h
  dsimp only at h
  rcases bind_eq_error_iff.1 h with hbrackets | ⟨_, -, h⟩
  · exact checkBrackets_fault hbrackets
  rcases bind_eq_error_iff.1 h with hdisguise | ⟨_, -, h⟩
  · exact checkDisguise_fault hdisguise
  · cases h

/-- A target fails for its host alone. -/
theorem parse_fault {target : String} {fault : Fault} (h : Target.parse target = .error fault) :
    ∃ why, fault = .host why := by
  rw [Target.parse] at h
  dsimp only at h
  split at h
  · cases h
  split at h
  · rcases bind_eq_error_iff.1 h with hhost | ⟨_, -, h⟩
    · exact hostAndPath_fault hhost
    · cases h
  split at h
  · rcases bind_eq_error_iff.1 h with hhost | ⟨_, -, h⟩
    · exact hostAndPath_fault hhost
    · cases h
  · cases h

theorem isOk_parse_iff {target : String} :
    (Target.parse target).isOk = true ↔ IsReadable target := by
  rw [IsReadable]
  cases Target.parse target with
  | ok t => exact ⟨fun _ => ⟨t, rfl⟩, fun _ => rfl⟩
  | error fault =>
    constructor
    · intro h
      cases h
    · rintro ⟨t, ht⟩
      cases ht

/-! ### Targets that read -/

theorem mem_of_mem_cleaned {url : List Char} {c : Char} (h : c ∈ Net.cleaned url) : c ∈ url :=
  (List.dropWhile_sublist _).subset (List.mem_of_mem_filter h)

theorem mem_of_mem_dropScheme {url : List Char} {c : Char} (h : c ∈ Net.dropScheme url) :
    c ∈ url := by
  rw [Net.dropScheme, Net.cutAt] at h
  dsimp only at h
  split at h
  · exact List.mem_of_mem_drop h
  · exact h

theorem mem_of_mem_location {url : List Char} {c : Char} (h : c ∈ (Net.splitLocation url).1) :
    c ∈ url := by
  unfold Net.splitLocation at h
  split at h
  next rest =>
    rw [List.span_eq_takeWhile_dropWhile] at h
    have hrest := (List.takeWhile_sublist _).subset h
    exact List.mem_cons_of_mem _ (List.mem_cons_of_mem _ hrest)
  next => cases h

theorem exists_hostAndPath {url : List Char} (h : ∀ c ∈ url, IsUnsuspicious c) :
    ∃ found, Net.hostAndPath url = .ok found := by
  have hlocation : ∀ c ∈ (Net.splitLocation (Net.dropScheme (Net.cleaned url))).1,
      IsUnsuspicious c :=
    fun c hc => h c (mem_of_mem_cleaned (mem_of_mem_dropScheme (mem_of_mem_location hc)))
  generalize hsplit : Net.splitLocation (Net.dropScheme (Net.cleaned url)) = split at hlocation
  obtain ⟨location, rest⟩ := split
  have hopen : location.contains '[' = false := by
    rw [List.contains_eq_mem, decide_eq_false_iff_not]
    exact fun hc => (hlocation _ hc).2.1 rfl
  have hclose : location.contains ']' = false := by
    rw [List.contains_eq_mem, decide_eq_false_iff_not]
    exact fun hc => (hlocation _ hc).2.2 rfl
  have hplain : location.any (fun c => 128 ≤ c.toNat) = false := by
    rw [List.any_eq_false]
    intro c hc
    rw [decide_eq_true_iff, not_le]
    exact (hlocation c hc).1
  have hbrackets : Net.checkBrackets location = .ok () := by
    rw [Net.checkBrackets, hopen, hclose]
  have hdisguise : Net.checkDisguise location = .ok () := by
    rw [Net.checkDisguise, hplain]
    rfl
  refine ⟨(Net.hostOf location, (Net.cutAt '?' (Net.cutAt '#' rest).1).1), ?_⟩
  rw [Net.hostAndPath, hsplit]
  dsimp only
  rw [hbrackets, hdisguise]
  rfl

/-- Targets of unsuspicious characters read. -/
theorem isReadable_of_unsuspicious {target : String}
    (h : ∀ c ∈ target.toList, IsUnsuspicious c) : IsReadable target := by
  rw [IsReadable, Target.parse]
  dsimp only
  split
  · exact ⟨_, rfl⟩
  split
  · obtain ⟨found, hfound⟩ := exists_hostAndPath h
    rw [hfound]
    exact ⟨_, rfl⟩
  split
  · have hslash : IsUnsuspicious '/' := by decide
    obtain ⟨found, hfound⟩ := exists_hostAndPath
      (List.forall_mem_cons.2 ⟨hslash, List.forall_mem_cons.2 ⟨hslash, h⟩⟩)
    rw [hfound]
    exact ⟨_, rfl⟩
  · exact ⟨_, rfl⟩

section Resolve

variable {providers : OrderedMap String Provider} {c : String × OutboundCall}

theorem exists_resolve_iff :
    (∃ r, resolve providers c = .ok r) ↔ IsReadable c.2.target := by
  rw [resolve, matchProvider, IsReadable]
  cases Target.parse c.2.target with
  | ok t => exact ⟨fun _ => ⟨t, rfl⟩, fun _ => ⟨_, rfl⟩⟩
  | error fault =>
    constructor
    · rintro ⟨r, hr⟩
      cases hr
    · rintro ⟨t, ht⟩
      cases ht

theorem resolve_eq_error_iff {fault : Fault} :
    resolve providers c = .error fault ↔ Target.parse c.2.target = .error fault := by
  rw [resolve, matchProvider]
  cases Target.parse c.2.target with
  | ok t =>
    constructor
    · intro h
      cases h
    · intro h
      cases h
  | error e =>
    constructor
    · intro h
      cases h
      rfl
    · intro h
      cases h
      rfl

end Resolve

/-! ### Fewer requests -/

section Keeping

variable {keep : String × OutboundCall → Bool} {facts : List (String × Option TopologyFacts)}

theorem names_keeping : (keeping keep facts).map (·.1) = facts.map (·.1) := by
  rw [keeping, List.map_map]
  rfl

theorem missing_keeping : ((keeping keep facts).filter (·.2.isNone)).map (·.1) =
    (facts.filter (·.2.isNone)).map (·.1) := by
  rw [keeping, List.filter_map, List.map_map]
  congr 1
  refine List.filter_congr fun p _ => ?_
  exact Option.isNone_map

theorem declaredServices_keeping :
    declaredServices (keeping keep facts) = declaredServices facts := by
  rw [declaredServices, declaredServices, gathered, gathered, keeping, List.flatMap_map]
  congr 1
  funext p
  rw [Option.map_map]
  rfl

theorem sentCalls_keeping : sentCalls (keeping keep facts) = (sentCalls facts).filter keep := by
  rw [sentCalls, sentCalls, gathered, gathered, keeping, List.flatMap_map, List.filter_flatMap]
  congr 1
  funext p
  obtain ⟨repo, f⟩ := p
  cases f with
  | none => rfl
  | some f => exact List.filter_map.symm

end Keeping

/-- Fewer requests have fewer answers, and each of them its own. -/
theorem mapM_resolve_filter {providers : OrderedMap String Provider}
    (keep : String × OutboundCall → Bool) {sent : List (String × OutboundCall)}
    {calls : List ResolvedCall} (h : sent.mapM (resolve providers) = .ok calls) :
    (sent.filter keep).mapM (resolve providers) =
      .ok (calls.filter (fun r => keep (r.repo, r.call))) := by
  induction sent generalizing calls with
  | nil =>
    rw [List.mapM_nil, pure_eq_ok_iff] at h
    rw [← h]
    rfl
  | cons c rest ih =>
    obtain ⟨r, hr, others, hothers, rfl⟩ := mapM_cons_eq_ok_iff.1 h
    obtain ⟨answer, -, rfl⟩ := resolve_eq_ok_iff.1 hr
    rw [List.filter_cons, List.filter_cons]
    dsimp only
    split
    · exact mapM_cons_eq_ok_iff.2 ⟨_, hr, _, ih hothers, rfl⟩
    · exact ih hothers

/-- Requests without an answer are no clues. -/
theorem callClues_filter {calls : List ResolvedCall} {keep : ResolvedCall → Bool}
    (h : ∀ r ∈ calls, keep r = false → r.provider = none) :
    callClues (calls.filter keep) = callClues calls := by
  rw [callClues, callClues, List.filterMap_filter]
  refine List.filterMap_congr fun r hr => ?_
  cases hkeep : keep r with
  | true => rfl
  | false =>
    rw [h r hr hkeep]
    rfl

section Graph

variable {facts : List (String × Option TopologyFacts)} {flows : List Types.FlowEdge}
variable {rules : OwnershipRules} {floor : Int} {weights : ImpactWeights} {g : Ecosystem}

/-- The graph without some of the requests that have no answer. -/
theorem build_keeping (hbuild : Ecosystem.build facts flows rules floor weights = .ok g)
    {keep : String × OutboundCall → Bool}
    (hdropped : ∀ c ∈ sentCalls facts, keep c = false → c ∈ g.externalCalls) :
    Ecosystem.build (keeping keep facts) flows rules floor weights =
      .ok { g with externalCalls := g.externalCalls.filter keep } := by
  obtain ⟨owned, calls, howned, hcalls, rfl⟩ := build_eq_ok_iff.1 hbuild
  have hunanswered : ∀ r ∈ calls, keep (r.repo, r.call) = false → r.provider = none := by
    intro r hr hkeep
    obtain ⟨c, hc, hresolved⟩ := mem_of_mapM_eq_ok hcalls hr
    obtain ⟨answer, hanswer, rfl⟩ := resolve_eq_ok_iff.1 hresolved
    have hexternal := hdropped c hc hkeep
    rw [Ecosystem.assemble, List.mem_map] at hexternal
    obtain ⟨other, hother, rfl⟩ := hexternal
    obtain ⟨hmem, hnone⟩ := List.mem_filter.1 hother
    obtain ⟨d, -, hsame⟩ := mem_of_mapM_eq_ok hcalls hmem
    obtain ⟨found, hfound, rfl⟩ := resolve_eq_ok_iff.1 hsame
    rw [hanswer] at hfound
    obtain rfl := Except.ok.inj hfound
    exact Option.isNone_iff_eq_none.1 hnone
  have hevidence : callEvidence (calls.filter (fun r => keep (r.repo, r.call))) =
      callEvidence calls := by
    rw [callEvidence_eq, callEvidence_eq, callClues_filter hunanswered]
  refine build_eq_ok_iff.2 ⟨owned, calls.filter (fun r => keep (r.repo, r.call)), ?_, ?_, ?_⟩
  · rw [declaredServices_keeping, names_keeping]
    exact howned
  · rw [sentCalls_keeping]
    exact mapM_resolve_filter keep hcalls
  · rw [names_keeping, missing_keeping, Ecosystem.assemble, Ecosystem.assemble, hevidence]
    congr 1
    rw [List.filter_map, List.filter_filter, List.filter_filter]
    congr 1
    refine List.filter_congr fun r _ => ?_
    exact Bool.and_comm _ _

/-- The first target that does not read decides how the ecosystem fails. -/
theorem build_eq_error_iff (hrules : rules.IsPlain)
    (himages : ∀ d ∈ declaredServices facts, HasPlainImage d.2) {fault : Fault} :
    Ecosystem.build facts flows rules floor weights = .error fault ↔ ∃ earlier c later,
      sentCalls facts = earlier ++ c :: later ∧ (∀ d ∈ earlier, IsReadable d.2.target) ∧
        Target.parse c.2.target = .error fault := by
  obtain ⟨owned, howned, -⟩ := exists_ownedServices hrules himages (facts.map (·.1))
  rw [ownedServices_eq] at howned
  have hcalls : Ecosystem.build facts flows rules floor weights = .error fault ↔
      (sentCalls facts).mapM (resolve (providerIndex owned)) = .error fault := by
    rw [Ecosystem.build]
    simp only [ownedServices_eq, resolvedCalls_eq, howned, bind_eq_error_iff, reduceCtorEq,
      Except.ok.injEq, exists_eq_left', false_or]
    refine or_iff_left ?_
    rintro ⟨_, -, hdone⟩
    cases hdone
  rw [hcalls, mapM_eq_error_iff]
  simp only [exists_resolve_iff, resolve_eq_error_iff]

end Graph

/-- With rules that name repositories and images that are texts, there is a graph exactly if every
target reads. Otherwise the first that does not is the fault, though there is a graph without such
requests; and in a graph, requests without an answer are external calls and nothing else. -/
theorem targets_decide {facts : List (String × Option TopologyFacts)}
    {flows : List Types.FlowEdge} {rules : OwnershipRules} {floor : Int} {weights : ImpactWeights}
    (hrules : rules.IsPlain) (himages : ∀ d ∈ declaredServices facts, HasPlainImage d.2) :
    TargetsDecide facts (Ecosystem.build · flows rules floor weights) where
  exists_iff := by
    constructor
    · rintro ⟨g, hg⟩ c hc
      obtain ⟨owned, calls, -, hcalls, -⟩ := build_eq_ok_iff.1 hg
      obtain ⟨r, -, hr⟩ := exists_mem_of_mapM_eq_ok hcalls hc
      exact exists_resolve_iff.1 ⟨r, hr⟩
    · exact exists_build hrules himages
  plain := fun h => exists_build hrules himages fun c hc => isReadable_of_unsuspicious (h c hc)
  fails_iff := fun _ => build_eq_error_iff hrules himages
  fault := by
    intro fault h
    obtain ⟨earlier, c, later, -, -, hparse⟩ := (build_eq_error_iff hrules himages).1 h
    exact parse_fault hparse
  rest := by
    refine exists_build hrules ?_ ?_
    · rw [declaredServices_keeping]
      exact himages
    · intro c hc
      rw [sentCalls_keeping, List.mem_filter] at hc
      exact isOk_parse_iff.1 hc.2
  unanswered := fun _ hbuild _ hdropped => build_keeping hbuild hdropped

/-- A poet asks for a target that does not read, beside the shop and the bank. -/
def poetAndShop : List (String × Option TopologyFacts) :=
  ("poet", some (asking "http://[bad")) :: shopAndBank

/-- The poet's target leaves no graph, not even of the others. -/
theorem build_poetAndShop_fails :
    Ecosystem.build poetAndShop = .error (.host .unbalanced) := by
  rfl

/-- Without the poet's request there is a graph, and with it there is none. -/
theorem targets_decide_poetAndShop :
    (∃ g, Ecosystem.build (keeping (fun c => (Target.parse c.2.target).isOk) poetAndShop) = .ok g) ∧
      ¬ ∃ g, Ecosystem.build poetAndShop = .ok g := by
  have himages : ∀ d ∈ declaredServices poetAndShop, HasPlainImage d.2 := by
    intro d hd
    obtain rfl := List.mem_singleton.1 hd
    exact Or.inl rfl
  have hdecide := @targets_decide poetAndShop [] {} 60 {} (fun _ h => by cases h) himages
  refine ⟨hdecide.rest, fun hgraph => ?_⟩
  obtain ⟨t, ht⟩ := hdecide.exists_iff.1 hgraph ("poet", { target := "http://[bad" })
    List.mem_cons_self
  have hparse : Target.parse "http://[bad" = .error (.host .unbalanced) := by rfl
  rw [hparse] at ht
  cases ht

end RepoAtlas.Topology
