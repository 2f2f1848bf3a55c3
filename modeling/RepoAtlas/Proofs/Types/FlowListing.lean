import RepoAtlas.Proofs.Listing
import RepoAtlas.Proofs.Types.Precedence

/-!
Flow edges list the contracts. A strong match has one edge for each two of its definitions in
different repositories, and the order of the mapping decides which way it leads.
-/
namespace RepoAtlas.Types

/-- The edge from the first definition to the second one, with the fields of both in ascending
order. -/
structure FlowEdge.Joins (e : FlowEdge) (score : Int) (a b : Instance) : Prop where
  source : e.sourceRepo = a.repo ∧ e.sourceType = a.type.name
  target : e.targetRepo = b.repo ∧ e.targetType = b.type.name
  confidence : e.confidence = score
  ascending : e.sharedFields.Pairwise (· < ·)
  shared : ∀ name, name ∈ e.sharedFields ↔ (∃ f ∈ a.type.fields, normalized f.name = name) ∧
    ∃ f ∈ b.type.fields, normalized f.name = name

/-- The edge for two places in a match, where the repository of the first comes first. -/
def Match.FlowAt (order : List String) (floor : Int) (m : Match) (places : ℕ × ℕ) (e : FlowEdge) :
    Prop :=
  floor ≤ m.score ∧ ∃ a b, m.instances[places.1]? = some a ∧ m.instances[places.2]? = some b ∧
    Precedes order a.repo b.repo ∧ e.Joins m.score a b

/-- For each match that is similar enough and each two of its definitions in different repositories
there is one edge, from the repository that comes first. -/
structure ListsFlows (order : List String) (floor : Int) (found : List Match)
    (edges : List FlowEdge) : Prop where
  each : ListsEach (fun (p : ℕ × ℕ × ℕ) e =>
    ∃ m, found[p.1]? = some m ∧ m.FlowAt order floor p.2 e) edges
  oneWay : ∀ m ∈ found, ∀ a ∈ m.instances, ∀ b ∈ m.instances, a.repo ≠ b.repo →
    Xor (Precedes order a.repo b.repo) (Precedes order b.repo a.repo)
  apart : ∀ e ∈ edges, e.sourceRepo ≠ e.targetRepo

/-! ### Pairs of places -/

/-- Each two places once, in their order. -/
theorem listsEach_pairs {α : Type} (xs : List α) :
    ListsEach (fun (k : ℕ × ℕ) p => k.1 < k.2 ∧ xs[k.1]? = some p.1 ∧ xs[k.2]? = some p.2)
      (pairs xs) := by
  induction xs with
  | nil => exact ListsEach.nil fun _ _ h => nomatch h.2.1
  | cons x rest ih =>
    have hfirst := ((ListsEach.places rest).map (x, ·)).rekey (f := fun j => (0, j + 1))
      fun i j heq => Nat.succ_injective (Prod.mk.inj heq).2
    have hlater := ih.rekey (f := Prod.map Nat.succ Nat.succ)
      (Function.Injective.prodMap Nat.succ_injective Nat.succ_injective)
    refine (hfirst.append hlater ?_).congr fun k p => ?_
    · rintro k p q ⟨j, rfl, -⟩ ⟨i, hi, -⟩
      exact Nat.succ_ne_zero _ (Prod.mk.inj hi).1
    · obtain ⟨i, j⟩ := k
      obtain ⟨y, z⟩ := p
      cases i <;> cases j <;> simp [Prod.ext_iff, and_comm]

section Pairs

variable {types : List (String × Option (List TypeDefinition))}

/-- The pairs of a group are those that lead onwards in the order of the mapping, so that one of two
definitions decides which place comes first. -/
theorem listsEach_crossPairs (hnodup : (types.map (·.1)).Nodup) (p : Instance → Bool) :
    ListsEach (fun (k : ℕ × ℕ) q => ((declared types).filter p)[k.1]? = some q.1 ∧
      ((declared types).filter p)[k.2]? = some q.2 ∧
        Precedes (types.map (·.1)) q.1.repo q.2.repo) (crossPairs ((declared types).filter p)) := by
  have hpart := withData_sublist types
  have honward : ∀ {a b : Instance}, (a, b) ∈ crossPairs ((declared types).filter p) →
      Precedes (types.map (·.1)) a.repo b.repo := fun hpair =>
    ((mem_crossPairs_filter (hnodup.sublist hpart)).1 hpair).2.2.trans hpart
  have hcross := (listsEach_pairs ((declared types).filter p)).filter
    (fun q => decide (q.1.repo ≠ q.2.repo))
  refine hcross.congr fun k q => ?_
  obtain ⟨a, b⟩ := q
  rw [decide_eq_true_iff, and_assoc, and_assoc]
  constructor
  · rintro ⟨hlt, ha, hb, hapart⟩
    exact ⟨ha, hb, honward (hcross.mem_iff.2 ⟨k, ⟨hlt, ha, hb⟩, decide_eq_true hapart⟩)⟩
  · rintro ⟨ha, hb, hbefore⟩
    have hapart : a.repo ≠ b.repo := hbefore.ne hnodup
    refine ⟨?_, ha, hb, hapart⟩
    rcases lt_trichotomy k.1 k.2 with hlt | heq | hgt
    · exact hlt
    · rw [heq, hb] at ha
      cases ha
      exact absurd rfl hapart
    · have hback := honward (hcross.mem_iff.2
        ⟨(k.2, k.1), ⟨hgt, hb, ha⟩, decide_eq_true hapart.symm⟩)
      exact absurd hback (hbefore.asymm hnodup)

end Pairs

/-! ### The edges of a match -/

theorem FlowEdge.joins_iff {e : FlowEdge} {score : Int} {a b : Instance} :
    e.Joins score a b ↔ FlowEdge.ofPair score a b = e := by
  have hsome : (FlowEdge.ofPair score a b).Joins score a b := by
    refine ⟨⟨rfl, rfl⟩, ⟨rfl, rfl⟩, rfl, pairwise_sortTexts ((nodup_fieldNames _).filter _), ?_⟩
    intro name
    rw [FlowEdge.ofPair, mem_sortTexts, List.mem_filter, List.contains_iff_mem, mem_fieldNames,
      mem_fieldNames]
  constructor
  · intro h
    have hfields := hsome.ascending.eq_of_mem_iff h.ascending
      fun name => (hsome.shared name).trans (h.shared name).symm
    cases e
    obtain ⟨⟨rfl, rfl⟩, ⟨rfl, rfl⟩, rfl, -, -⟩ := h
    exact congrArg _ hfields
  · rintro rfl
    exact hsome

/-- The edges of one match, none if it is not similar enough. -/
def edgesOf (floor : Int) (m : Match) : List FlowEdge :=
  if floor ≤ m.score then (crossPairs m.instances).map (fun p => FlowEdge.ofPair m.score p.1 p.2)
  else []

theorem flowEdges_eq (floor : Int) (found : List Match) :
    flowEdges floor found = (found.map (edgesOf floor)).flatten := by
  induction found with
  | nil => rfl
  | cons m rest ih =>
    rw [List.map_cons, List.flatten_cons, ← ih, flowEdges, List.filter_cons, edgesOf]
    simp only [decide_eq_true_eq]
    split
    · rw [List.flatMap_cons, flowEdges]
    · rfl

theorem listsEach_edgesOf {types : List (String × Option (List TypeDefinition))}
    (hnodup : (types.map (·.1)).Nodup) (floor : Int) {m : Match}
    (hmembers : m.instances = (declared types).filter (fun i => normalized i.type.name = m.name)) :
    ListsEach (m.FlowAt (types.map (·.1)) floor) (edgesOf floor m) := by
  rw [edgesOf]
  split
  next hfloor =>
    have hpairs := listsEach_crossPairs hnodup (fun i => normalized i.type.name = m.name)
    rw [← hmembers] at hpairs
    refine (hpairs.map _).congr fun k e => ?_
    simp only [Match.FlowAt, hfloor, true_and, FlowEdge.joins_iff, Prod.exists, and_assoc]
  next hfloor => exact ListsEach.nil fun _ _ h => hfloor h.1

/-- A higher bound keeps the edges of the matches that reach it. -/
theorem edgesOf_higher {floor higher : Int} (hle : floor ≤ higher) (m : Match) :
    edgesOf higher m = (edgesOf floor m).filter (fun e => higher ≤ e.confidence) := by
  rw [edgesOf, edgesOf]
  by_cases hhigher : higher ≤ m.score
  · rw [if_pos hhigher, if_pos (hle.trans hhigher), List.filter_eq_self.2]
    intro e he
    obtain ⟨p, -, rfl⟩ := List.mem_map.1 he
    exact decide_eq_true hhigher
  · rw [if_neg hhigher, eq_comm, List.filter_eq_nil_iff]
    intro e he
    split at he
    · obtain ⟨p, -, rfl⟩ := List.mem_map.1 he
      exact fun h => hhigher (of_decide_eq_true h)
    · cases he

theorem flowEdges_higher {floor higher : Int} (hle : floor ≤ higher) (found : List Match) :
    flowEdges higher found = (flowEdges floor found).filter (fun e => higher ≤ e.confidence) := by
  rw [flowEdges_eq, flowEdges_eq, List.filter_flatten, List.map_map]
  congr 1
  exact List.map_congr_left fun m _ => edgesOf_higher hle m

/-! ### The edges of all matches -/

/-- Matching fails only for a weight that is too large for a double. The edges of the matches that
it finds list the contracts, and a higher bound keeps those that are sure enough. -/
theorem flowEdges_list_contracts (w : SimilarityWeights)
    {types : List (String × Option (List TypeDefinition))} (hnodup : (types.map (·.1)).Nodup) :
    (¬ IsOverweight w (declared types) → ∃ found, matchAcrossRepos w (withData types) = .ok found) ∧
    ∀ found, matchAcrossRepos w (withData types) = .ok found →
      IsMatching w (declared types) found ∧
      ∀ floor, ListsFlows (types.map (·.1)) floor found (flowEdges floor found) ∧
        ∀ higher, floor ≤ higher →
          flowEdges higher found =
            (flowEdges floor found).filter (fun e => higher ≤ e.confidence) := by
  refine ⟨fun hlight => ?_, fun found hfound => ?_⟩
  · obtain ⟨found, hfound, -⟩ := matchAcrossRepos_of_light hlight
    exact ⟨found, hfound⟩
  have hlight : ¬ IsOverweight w (declared types) := by
    intro hover
    rw [matchAcrossRepos_of_overweight hover] at hfound
    cases hfound
  obtain ⟨other, hother, hmatching⟩ := matchAcrossRepos_of_light hlight
  obtain rfl := Except.ok.inj (hfound.symm.trans hother)
  refine ⟨hmatching, fun floor => ⟨⟨?_, ?_, fun e => apart_of_mem_flowEdges⟩,
    fun higher hle => flowEdges_higher hle found⟩⟩
  · rw [flowEdges_eq]
    exact ListsEach.flatten (forall₂_map_self fun m hm =>
      listsEach_edgesOf hnodup floor (hmatching.members m hm))
  · intro m hm a ha b hb hapart
    rw [hmatching.members m hm] at ha hb
    have hknown : ∀ {i : Instance}, i ∈ (declared types).filter
        (fun i => normalized i.type.name = m.name) → i.repo ∈ types.map (·.1) := fun hi =>
      (withData_sublist types).subset (repo_mem_of_mem_instancesOf (List.mem_filter.1 hi).1)
    rcases precedes_or_precedes hnodup (hknown ha) (hknown hb) hapart with hbefore | hafter
    · exact Or.inl ⟨hbefore, hbefore.asymm hnodup⟩
    · exact Or.inr ⟨hafter, hafter.asymm hnodup⟩

/-- The shop comes first, so the users flow from the shop to the bank and not back. -/
theorem flowEdges_list_contracts_users : ∃ found score,
    matchAcrossRepos {} (withData usersTwice) = .ok found ∧
      (∃ e ∈ flowEdges score found, e.sourceRepo = "shop" ∧ e.targetRepo = "bank") ∧
      ∀ e ∈ flowEdges score found, e.sourceRepo ≠ "bank" := by
  obtain ⟨hfinds, hlists⟩ := @flowEdges_list_contracts {} usersTwice (by decide)
  obtain ⟨found, hfound⟩ := hfinds fun h => absurd h.1 (by decide +kernel)
  obtain ⟨hmatching, hflows⟩ := hlists found hfound
  obtain ⟨m, hm, hname⟩ := (hmatching.names "user").2 isShared_user
  obtain ⟨hedges, -⟩ := hflows m.score
  refine ⟨found, m.score, hfound, ?_, ?_⟩
  · obtain ⟨k, hk⟩ := List.mem_iff_getElem?.1 hm
    have hmembers : m.instances = [⟨"shop", user⟩, ⟨"bank", user⟩] := by
      rw [hmatching.members m hm, hname]
      refine List.filter_eq_self.2 fun i hi => ?_
      obtain rfl | rfl := List.mem_pair.1 hi <;> decide +kernel
    refine ⟨FlowEdge.ofPair m.score ⟨"shop", user⟩ ⟨"bank", user⟩, ?_, rfl, rfl⟩
    refine hedges.each.mem_iff.2 ⟨(k, 0, 1), m, hk, le_rfl, ⟨"shop", user⟩, ⟨"bank", user⟩, ?_, ?_,
      List.Sublist.refl _, FlowEdge.joins_iff.2 rfl⟩ <;> rw [hmembers] <;> rfl
  · intro e he hbank
    obtain ⟨p, n, -, -, a, b, -, -, hbefore, hjoins⟩ := hedges.each.mem_iff.1 he
    rw [← hjoins.source.1, hbank] at hbefore
    -- nothing comes after the bank
    obtain ⟨hlater, hlt⟩ := (precedes_iff_idxOf (by decide)).1 hbefore
    rcases List.mem_pair.1 hlater with hshop | hsame
    · rw [hshop] at hlt
      exact absurd hlt (by decide)
    · rw [hsame] at hlt
      exact absurd hlt (by decide)

end RepoAtlas.Types
