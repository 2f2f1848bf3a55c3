import Mathlib.Data.List.Sym
import RepoAtlas.Proofs.Number.Overflow
import RepoAtlas.Proofs.OrderedMap
import RepoAtlas.Proofs.Outcome
import RepoAtlas.Proofs.Sorting
import RepoAtlas.Types.Match
import RepoAtlas.Types.Similarity

/-!
Matching types across repositories. The unordered pairs of definitions decide the score of a
group, so that neither the order of the repositories nor that of their types matters.
-/
namespace RepoAtlas.Types

/-! ### Similarity

The similarity of two types is the same both ways round. It fails for one reason alone: both types
have fields, and the weight of fields is too large for a double.
-/

theorem length_filter_contains_comm {a b : List String} (ha : a.Nodup) (hb : b.Nodup) :
    (a.filter b.contains).length = (b.filter a.contains).length := by
  have hcommon : (a.filter b.contains).Perm (b.filter a.contains) := by
    rw [List.perm_ext_iff_of_nodup (ha.filter _) (hb.filter _)]
    intro x
    simp only [List.mem_filter, List.contains_iff_mem]
    exact And.comm
  exact hcommon.length_eq

theorem overlap_comm {a b : List String} (ha : a.Nodup) (hb : b.Nodup) :
    overlap a b = overlap b a := by
  rw [overlap, overlap, length_filter_contains_comm ha hb, max_comm]

theorem fieldScore_comm (weight : Int) {a b : List String} (ha : a.Nodup) (hb : b.Nodup) :
    fieldScore weight a b = fieldScore weight b a := by
  rw [fieldScore, fieldScore, overlap_comm ha hb, Bool.or_comm]

theorem similarity_comm (w : SimilarityWeights) (a b : TypeDefinition) :
    similarity w a b = similarity w b a := by
  have hfields := fieldScore_comm w.fields (nodup_distinct (a.fields.map fun f => normalized f.name))
    (nodup_distinct (b.fields.map fun f => normalized f.name))
  have hname : (normalized a.name = normalized b.name) ↔ (normalized b.name = normalized a.name) :=
    eq_comm
  simp only [similarity, fieldNames, hfields, hname, kindsEquivalent_comm a.kind b.kind]

theorem mem_fieldNames {t : TypeDefinition} {name : String} :
    name ∈ fieldNames t ↔ ∃ f ∈ t.fields, normalized f.name = name := by
  rw [fieldNames, mem_distinct, List.mem_map]

theorem nodup_fieldNames (t : TypeDefinition) : (fieldNames t).Nodup := nodup_distinct _

theorem isEmpty_fieldNames (t : TypeDefinition) : (fieldNames t).isEmpty = t.fields.isEmpty := by
  rw [fieldNames]
  cases t.fields <;> rfl

theorem similarity_eq_error_iff {w : SimilarityWeights} {a b : TypeDefinition} {fault : Fault} :
    similarity w a b = .error fault ↔
      fault = .tooLarge ∧ Binary64.overflowSize ≤ w.fields.natAbs ∧
        a.fields ≠ [] ∧ b.fields ≠ [] := by
  rw [similarity, fieldScore, isEmpty_fieldNames, isEmpty_fieldNames, finite_ofInt]
  by_cases hfields : (a.fields.isEmpty || b.fields.isEmpty) = true
  · have hnone : ¬ (a.fields ≠ [] ∧ b.fields ≠ []) := by
      rw [Bool.or_eq_true, List.isEmpty_iff, List.isEmpty_iff] at hfields
      tauto
    rw [if_pos hfields]
    constructor
    · intro h
      cases h
    · exact fun h => absurd h.2.2 hnone
  · have hsome : a.fields ≠ [] ∧ b.fields ≠ [] := by
      rw [Bool.or_eq_true, List.isEmpty_iff, List.isEmpty_iff] at hfields
      tauto
    rw [if_neg hfields]
    split
    next hlt =>
      constructor
      · intro h
        cases h
      · exact fun h => absurd hlt (not_lt.2 h.2.1)
    next hge =>
      constructor
      · intro h
        cases h
        exact ⟨rfl, not_lt.1 hge, hsome⟩
      · rintro ⟨rfl, -, -⟩
        rfl

/-! ### Pairs across repositories -/

/-- The two definitions lie in different repositories. -/
def crossing : Sym2 Instance → Bool :=
  Sym2.lift ⟨fun a b => decide (a.repo ≠ b.repo), fun a b => by simp only [ne_comm]⟩

/-- How alike the two definitions are. -/
def likeness (w : SimilarityWeights) : Sym2 Instance → Result Int :=
  Sym2.lift ⟨fun a b => similarity w a.type b.type, fun a b => similarity_comm w a.type b.type⟩

theorem crossing_mk (a b : Instance) : crossing s(a, b) = decide (a.repo ≠ b.repo) := rfl

theorem likeness_mk (w : SimilarityWeights) (a b : Instance) :
    likeness w s(a, b) = similarity w a.type b.type := rfl

/-- All pairs of the items but those of an item with itself. -/
theorem crossPairs_unordered (instances : List Instance) :
    (crossPairs instances).map (fun p => s(p.1, p.2)) = instances.sym2.filter crossing := by
  induction instances with
  | nil => rfl
  | cons x rest ih =>
    have hself : crossing s(x, x) = false := by simp [crossing_mk]
    have hlater : ((rest.map (x, ·)).filter (fun p => decide (p.1.repo ≠ p.2.repo))).map
        (fun p => s(p.1, p.2)) = (rest.map (fun y => s(x, y))).filter crossing := by
      rw [List.filter_map, List.filter_map, List.map_map]
      rfl
    rw [List.sym2, List.map_cons, List.cons_append, List.filter_cons_of_neg (by simp [hself]),
      List.filter_append, ← ih, ← hlater, crossPairs, crossPairs, pairs, List.filter_append,
      List.map_append]

theorem groupScore_eq (w : SimilarityWeights) (instances : List Instance) :
    groupScore w instances = (do
      let scores ← (instances.sym2.filter crossing).mapM (likeness w)
      if scores.isEmpty then return 0
      else return roundHalfUp (nearest ((scores.sum : Rat) / (scores.length : Nat)))) := by
  rw [← crossPairs_unordered, List.mapM_map]
  rfl

/-- The score is the mean similarity of the pairs across repositories, rounded half up. -/
def IsMeanScore (w : SimilarityWeights) (instances : List Instance) (score : Int) : Prop :=
  ∃ scores, (instances.sym2.filter crossing).mapM (likeness w) = .ok scores ∧ scores ≠ [] ∧
    score = roundHalfUp (nearest ((scores.sum : Rat) / (scores.length : Nat)))

theorem IsMeanScore.unique {w : SimilarityWeights} {instances : List Instance} {s t : Int}
    (hs : IsMeanScore w instances s) (ht : IsMeanScore w instances t) : s = t := by
  obtain ⟨scores, hscores, -, rfl⟩ := hs
  obtain ⟨others, hothers, -, rfl⟩ := ht
  rw [hscores] at hothers
  cases hothers
  rfl

theorem IsMeanScore.perm {w : SimilarityWeights} {xs ys : List Instance} (hperm : xs.Perm ys)
    {score : Int} (h : IsMeanScore w xs score) : IsMeanScore w ys score := by
  obtain ⟨scores, hscores, hsome, rfl⟩ := h
  obtain ⟨others, hothers, hsame⟩ := mapM_perm (hperm.sym2.filter crossing) hscores
  refine ⟨others, hothers, ?_, ?_⟩
  · rintro rfl
    exact hsome hsame.eq_nil
  · rw [hsame.sum_eq, hsame.length_eq]

/-! ### Shared names -/

/-- Two repositories declare the normalized name. -/
def IsShared (instances : List Instance) (name : String) : Prop :=
  ∃ a ∈ instances, ∃ b ∈ instances,
    normalized a.type.name = name ∧ normalized b.type.name = name ∧ a.repo ≠ b.repo

/-- The weight of fields is too large for a double, and a pair of definitions asks for it. -/
def IsOverweight (w : SimilarityWeights) (instances : List Instance) : Prop :=
  Binary64.overflowSize ≤ w.fields.natAbs ∧ ∃ a ∈ instances, ∃ b ∈ instances,
    normalized a.type.name = normalized b.type.name ∧ a.repo ≠ b.repo ∧
      a.type.fields ≠ [] ∧ b.type.fields ≠ []

theorem IsOverweight.perm {w : SimilarityWeights} {xs ys : List Instance} (hperm : xs.Perm ys)
    (h : IsOverweight w xs) : IsOverweight w ys := by
  obtain ⟨hlarge, a, ha, b, hb, hpair⟩ := h
  exact ⟨hlarge, a, hperm.mem_iff.1 ha, b, hperm.mem_iff.1 hb, hpair⟩

theorem two_le_length_distinct {xs : List String} :
    2 ≤ (distinct xs).length ↔ ∃ x ∈ xs, ∃ y ∈ xs, x ≠ y := by
  have hnodup := nodup_distinct xs
  simp only [← @mem_distinct _ _ _ xs]
  generalize distinct xs = ys at hnodup ⊢
  match ys with
  | [] => simp
  | [y] => simp
  | y :: z :: rest =>
    have hne : y ≠ z := by
      rw [List.nodup_cons, List.mem_cons, not_or] at hnodup
      exact hnodup.1.1
    simp only [List.length_cons, Nat.le_add_left, true_iff]
    exact ⟨y, by simp, z, by simp, hne⟩

theorem spansRepos_iff {instances : List Instance} :
    spansRepos instances = true ↔ ∃ a ∈ instances, ∃ b ∈ instances, a.repo ≠ b.repo := by
  rw [spansRepos, decide_eq_true_iff, two_le_length_distinct]
  simp only [List.mem_map, exists_exists_and_eq_and]

/-- The groups that become matches: each shared name with all its definitions. -/
theorem mem_shared_groups {instances group : List Instance} {name : String} :
    (name, group) ∈ (groups instances).entries.filter (fun g => spansRepos g.2) ↔
      group = instances.filter (fun i => normalized i.type.name = name) ∧
        IsShared instances name := by
  rw [List.mem_filter, groups, OrderedMap.mem_entries_groupedBy, spansRepos_iff]
  constructor
  · rintro ⟨⟨rfl, -⟩, a, ha, b, hb, hapart⟩
    rw [List.mem_filter, decide_eq_true_iff] at ha hb
    exact ⟨rfl, a, ha.1, b, hb.1, ha.2, hb.2, hapart⟩
  · rintro ⟨rfl, a, ha, b, hb, hna, hnb, hapart⟩
    have hfirst : a ∈ instances.filter (fun i => normalized i.type.name = name) :=
      List.mem_filter.2 ⟨ha, decide_eq_true hna⟩
    exact ⟨⟨rfl, List.ne_nil_of_mem hfirst⟩, a, hfirst, b,
      List.mem_filter.2 ⟨hb, decide_eq_true hnb⟩, hapart⟩

section Groups

variable {w : SimilarityWeights} {instances : List Instance} {name : String}

theorem mem_crossing_pairs {z : Sym2 Instance} :
    z ∈ (instances.filter (fun i => normalized i.type.name = name)).sym2.filter crossing ↔
      ∃ a ∈ instances, ∃ b ∈ instances, s(a, b) = z ∧
        normalized a.type.name = name ∧ normalized b.type.name = name ∧ a.repo ≠ b.repo := by
  induction z using Sym2.ind with
  | _ a b =>
    rw [List.mem_filter, List.mk_mem_sym2_iff, List.mem_filter, List.mem_filter, crossing_mk]
    simp only [decide_eq_true_eq]
    constructor
    · rintro ⟨⟨⟨ha, hna⟩, hb, hnb⟩, hapart⟩
      exact ⟨a, ha, b, hb, rfl, hna, hnb, hapart⟩
    · rintro ⟨c, hc, d, hd, heq, hnc, hnd, hapart⟩
      rcases Sym2.eq_iff.1 heq with ⟨rfl, rfl⟩ | ⟨rfl, rfl⟩
      · exact ⟨⟨⟨hc, hnc⟩, hd, hnd⟩, hapart⟩
      · exact ⟨⟨⟨hd, hnd⟩, hc, hnc⟩, Ne.symm hapart⟩

theorem exists_groupScore (hlight : ¬ IsOverweight w instances) (hshared : IsShared instances name) :
    ∃ score, groupScore w (instances.filter (fun i => normalized i.type.name = name)) = .ok score ∧
      IsMeanScore w (instances.filter (fun i => normalized i.type.name = name)) score := by
  have hpairs : ∀ z ∈ (instances.filter (fun i => normalized i.type.name = name)).sym2.filter
      crossing, ∃ s, likeness w z = .ok s := by
    intro z hz
    obtain ⟨a, ha, b, hb, rfl, hna, hnb, hapart⟩ := mem_crossing_pairs.1 hz
    rw [likeness_mk]
    cases hs : similarity w a.type b.type with
    | ok s => exact ⟨s, rfl⟩
    | error fault =>
      obtain ⟨-, hlarge, hfields⟩ := similarity_eq_error_iff.1 hs
      exact absurd ⟨hlarge, a, ha, b, hb, hna.trans hnb.symm, hapart, hfields⟩ hlight
  obtain ⟨scores, hscores⟩ := exists_mapM_eq_ok hpairs
  have hsome : scores ≠ [] := by
    obtain ⟨a, ha, b, hb, hna, hnb, hapart⟩ := hshared
    obtain ⟨s, hs, -⟩ := exists_mem_of_mapM_eq_ok hscores
      (mem_crossing_pairs.2 ⟨a, ha, b, hb, rfl, hna, hnb, hapart⟩)
    exact List.ne_nil_of_mem hs
  refine ⟨_, ?_, scores, hscores, hsome, rfl⟩
  rw [groupScore_eq, hscores]
  have hempty : scores.isEmpty = false := by simpa using hsome
  simp only [bind, Except.bind, hempty]
  rfl

/-- A group has no score for one reason only. -/
theorem fault_of_groupScore {group : List Instance} {fault : Fault}
    (h : groupScore w group = .error fault) : fault = .tooLarge := by
  rw [groupScore_eq] at h
  cases hscores : (group.sym2.filter crossing).mapM (likeness w) with
  | ok scores =>
    rw [hscores] at h
    simp only [bind, Except.bind] at h
    split at h <;> cases h
  | error e =>
    rw [hscores] at h
    cases h
    obtain ⟨z, -, hz⟩ := exists_mem_of_mapM_eq_error hscores
    induction z using Sym2.ind with
    | _ a b => exact (similarity_eq_error_iff.1 hz).1

theorem groupScore_ne_ok (hlarge : Binary64.overflowSize ≤ w.fields.natAbs) {a b : Instance}
    (ha : a ∈ instances) (hb : b ∈ instances)
    (hname : normalized a.type.name = normalized b.type.name) (hapart : a.repo ≠ b.repo)
    (hfields : a.type.fields ≠ [] ∧ b.type.fields ≠ []) (score : Int) :
    groupScore w (instances.filter (fun i => normalized i.type.name = normalized b.type.name)) ≠
      .ok score := by
  intro h
  rw [groupScore_eq, bind_eq_ok_iff] at h
  obtain ⟨scores, hscores, -⟩ := h
  obtain ⟨s, -, hs⟩ := exists_mem_of_mapM_eq_ok hscores
    (mem_crossing_pairs.2 ⟨a, ha, b, hb, rfl, hname, rfl, hapart⟩)
  rw [likeness_mk, similarity_eq_error_iff.2 ⟨rfl, hlarge, hfields⟩] at hs
  cases hs

end Groups

/-! ### Matches -/

theorem Match.before_iff (a b : Match) :
    a.before b = true ↔ b.score < a.score ∨ a.score = b.score ∧ a.name ≤ b.name := by
  rw [before]
  simp only [Bool.or_eq_true, Bool.and_eq_true, decide_eq_true_eq, beq_iff_eq, gt_iff_lt]

/-- What the definitions of several repositories have in common: each shared name once, with all
its definitions and their mean score. -/
structure IsMatching (w : SimilarityWeights) (instances : List Instance) (found : List Match) :
    Prop where
  names : ∀ name, (∃ m ∈ found, m.name = name) ↔ IsShared instances name
  members : ∀ m ∈ found, m.instances = instances.filter (fun i => normalized i.type.name = m.name)
  scores : ∀ m ∈ found, IsMeanScore w m.instances m.score
  ordered : found.Pairwise (fun a b => b.score < a.score ∨ b.score = a.score ∧ a.name < b.name)

/-- All definitions of the repositories that have type facts. -/
def declared (types : List (String × Option (List TypeDefinition))) : List Instance :=
  instancesOf (withData types)

/-- A group with its score. -/
def scored (w : SimilarityWeights) (g : String × List Instance) : Result Match := do
  return ⟨g.1, g.2, ← groupScore w g.2⟩

theorem scored_eq_ok_iff {w : SimilarityWeights} {g : String × List Instance} {m : Match} :
    scored w g = .ok m ↔ m.name = g.1 ∧ m.instances = g.2 ∧ groupScore w g.2 = .ok m.score := by
  rw [scored, bind_eq_ok_iff]
  constructor
  · rintro ⟨score, hscore, hm⟩
    obtain rfl := pure_eq_ok_iff.1 hm
    exact ⟨rfl, rfl, hscore⟩
  · rintro ⟨hname, hmembers, hscore⟩
    refine ⟨m.score, hscore, pure_eq_ok_iff.2 ?_⟩
    rw [← hname, ← hmembers]

theorem matchAcrossRepos_eq (w : SimilarityWeights) (types : List (String × List TypeDefinition)) :
    matchAcrossRepos w types = (do
      let found ← ((groups (instancesOf types)).entries.filter (fun g => spansRepos g.2)).mapM
        (scored w)
      return found.mergeSort Match.before) := rfl

section Whole

variable {w : SimilarityWeights} {types : List (String × Option (List TypeDefinition))}

/-- Without a weight that is too large, each shared name gets its mean score. -/
theorem exists_scored (hlight : ¬ IsOverweight w (declared types)) {g : String × List Instance}
    (hg : g ∈ (groups (declared types)).entries.filter (fun g => spansRepos g.2)) :
    ∃ m, scored w g = .ok m ∧ IsMeanScore w g.2 m.score := by
  obtain ⟨name, group⟩ := g
  obtain ⟨rfl, hshared⟩ := mem_shared_groups.1 hg
  obtain ⟨score, hscore, hmean⟩ := exists_groupScore hlight hshared
  exact ⟨⟨name, _, score⟩, scored_eq_ok_iff.2 ⟨rfl, rfl, hscore⟩, hmean⟩

theorem nodup_scored_names {found : List Match}
    (hfound : ((groups (declared types)).entries.filter (fun g => spansRepos g.2)).mapM (scored w) =
      .ok found) : (found.map Match.name).Nodup := by
  have hnames : found.map Match.name =
      ((groups (declared types)).entries.filter (fun g => spansRepos g.2)).map (·.1) :=
    map_eq_of_mapM_eq_ok (fun g m h => (scored_eq_ok_iff.1 h).1) hfound
  rw [hnames]
  exact (OrderedMap.nodup_keys_groupedBy _ _).sublist (List.filter_sublist.map _)

theorem matchAcrossRepos_of_light (hlight : ¬ IsOverweight w (declared types)) :
    ∃ found, matchAcrossRepos w (withData types) = .ok found ∧
      IsMatching w (declared types) found := by
  obtain ⟨found, hfound⟩ :=
    exists_mapM_eq_ok (fun _ hg => (exists_scored hlight hg).imp fun _ h => h.1)
  have hback : ∀ m ∈ found, m.instances =
      (declared types).filter (fun i => normalized i.type.name = m.name) ∧
        IsShared (declared types) m.name ∧ IsMeanScore w m.instances m.score := by
    intro m hm
    obtain ⟨g, hg, hscored⟩ := mem_of_mapM_eq_ok hfound hm
    obtain ⟨other, hother, hmean⟩ := exists_scored hlight hg
    rw [hscored] at hother
    cases hother
    obtain ⟨hname, hmembers, -⟩ := scored_eq_ok_iff.1 hscored
    obtain ⟨hgroup, hshared⟩ := mem_shared_groups.1 hg
    rw [hname, hmembers]
    exact ⟨hgroup, hshared, hmean⟩
  refine ⟨found.mergeSort Match.before, ?_, ?_, ?_, ?_, ?_⟩
  · rw [matchAcrossRepos_eq, ← declared, hfound]
    rfl
  · intro name
    simp only [List.mem_mergeSort]
    constructor
    · rintro ⟨m, hm, rfl⟩
      exact (hback m hm).2.1
    · intro hshared
      obtain ⟨m, hm, hscored⟩ :=
        exists_mem_of_mapM_eq_ok hfound (mem_shared_groups.2 ⟨rfl, hshared⟩)
      exact ⟨m, hm, (scored_eq_ok_iff.1 hscored).1⟩
  · exact fun m hm => (hback m (List.mem_mergeSort.1 hm)).1
  · exact fun m hm => (hback m (List.mem_mergeSort.1 hm)).2.2
  · exact ranked_mergeSort Match.before_iff (nodup_scored_names hfound)

theorem matchAcrossRepos_of_overweight (hover : IsOverweight w (declared types)) :
    matchAcrossRepos w (withData types) = .error .tooLarge := by
  obtain ⟨hlarge, a, ha, b, hb, hname, hapart, hfields⟩ := hover
  have hfail : ((groups (declared types)).entries.filter (fun g => spansRepos g.2)).mapM (scored w) =
      .error .tooLarge := by
    apply mapM_eq_error
    · intro g _ fault h
      rw [scored] at h
      cases hscore : groupScore w g.2 with
      | ok score =>
        rw [hscore] at h
        cases h
      | error e =>
        rw [hscore] at h
        cases h
        exact fault_of_groupScore hscore
    · have hshared : IsShared (declared types) (normalized b.type.name) :=
        ⟨a, ha, b, hb, hname, rfl, hapart⟩
      refine ⟨_, mem_shared_groups.2 ⟨rfl, hshared⟩, ?_⟩
      cases hscored : scored w (normalized b.type.name, (declared types).filter
          (fun i => normalized i.type.name = normalized b.type.name)) with
      | ok m =>
        exact absurd (scored_eq_ok_iff.1 hscored).2.2
          (groupScore_ne_ok hlarge ha hb hname hapart hfields m.score)
      | error fault => exact ⟨fault, rfl⟩
  rw [matchAcrossRepos_eq, ← declared, hfail]
  rfl

end Whole

/-! ### The order of the input -/

/-- A match without its definitions: its name, its score and its repositories. -/
def Match.outline (m : Match) : String × Int × List String := (m.name, m.score, m.repos)

/-- Higher scores come first, equal scores by name. -/
def Ahead (p q : String × Int × List String) : Prop :=
  q.2.1 < p.2.1 ∨ q.2.1 = p.2.1 ∧ p.1 < q.1

theorem Ahead.asymm {p q : String × Int × List String} (h : Ahead p q) : ¬ Ahead q p := by
  rintro (hlt | ⟨heq, hlt⟩)
  · rcases h with hscore | ⟨hscore, -⟩ <;> omega
  · rcases h with hscore | ⟨-, hname⟩
    · omega
    · exact lt_asymm hlt hname

section Order

variable {w : SimilarityWeights} {xs ys : List Instance} {found other : List Match}

theorem IsShared.perm (hperm : xs.Perm ys) {name : String} (h : IsShared xs name) :
    IsShared ys name := by
  obtain ⟨a, ha, b, hb, hpair⟩ := h
  exact ⟨a, hperm.mem_iff.1 ha, b, hperm.mem_iff.1 hb, hpair⟩

theorem IsMatching.outline_mem (hperm : xs.Perm ys) (hfound : IsMatching w xs found)
    (hother : IsMatching w ys other) {p : String × Int × List String}
    (hp : p ∈ found.map Match.outline) : p ∈ other.map Match.outline := by
  obtain ⟨m, hm, rfl⟩ := List.mem_map.1 hp
  have hshared : IsShared xs m.name := (hfound.names m.name).1 ⟨m, hm, rfl⟩
  obtain ⟨n, hn, hname⟩ := (hother.names m.name).2 (hshared.perm hperm)
  have hmembers : m.instances.Perm n.instances := by
    rw [hfound.members m hm, hother.members n hn, hname]
    exact hperm.filter _
  have hscore : m.score = n.score :=
    ((hfound.scores m hm).perm hmembers).unique (hother.scores n hn)
  have hrepos : m.repos = n.repos :=
    sortedSet_congr fun repo => (hmembers.map (·.repo)).mem_iff
  refine List.mem_map.2 ⟨n, hn, ?_⟩
  rw [Match.outline, Match.outline, hname, hscore, hrepos]

theorem IsMatching.outline_ordered (h : IsMatching w xs found) :
    (found.map Match.outline).Pairwise Ahead :=
  List.pairwise_map.2 h.ordered

/-- The definitions tell the outlines, whatever their order. -/
theorem IsMatching.outline_eq (hperm : xs.Perm ys) (hfound : IsMatching w xs found)
    (hother : IsMatching w ys other) : found.map Match.outline = other.map Match.outline := by
  have hirrefl : Std.Irrefl Ahead := ⟨fun _ h => h.asymm h⟩
  have hantisymm : Std.Antisymm Ahead := ⟨fun _ _ h hback => absurd hback h.asymm⟩
  refine hfound.outline_ordered.eq_of_mem_iff hother.outline_ordered fun p => ?_
  exact ⟨hfound.outline_mem hperm hother, hother.outline_mem hperm.symm hfound⟩

end Order

/-- The same definitions in another order: the repositories are permuted, or the types of one of
them, and repositories without type facts come or go. -/
inductive Rearranged : List (String × Option (List TypeDefinition)) →
    List (String × Option (List TypeDefinition)) → Prop
  | repos {types other} : types.Perm other → Rearranged types other
  | types {before after repo ts us} : ts.Perm us →
    Rearranged (before ++ (repo, some ts) :: after) (before ++ (repo, some us) :: after)
  | noData {types} (repo) : Rearranged types ((repo, none) :: types)
  | symm {types other} : Rearranged types other → Rearranged other types
  | trans {types other third} : Rearranged types other → Rearranged other third →
    Rearranged types third

theorem Rearranged.declared_perm {types other : List (String × Option (List TypeDefinition))}
    (h : Rearranged types other) : (declared types).Perm (declared other) := by
  induction h with
  | repos hperm => exact (hperm.filterMap _).flatMap_right _
  | types hperm =>
    simp only [declared, instancesOf, withData, List.filterMap_append, List.filterMap_cons,
      Option.map_some, List.flatMap_append, List.flatMap_cons]
    exact ((hperm.map _).append_right _).append_left _
  | noData repo => exact List.Perm.refl _
  | symm _ ih => exact ih.symm
  | trans _ _ ih₁ ih₂ => exact ih₁.trans ih₂

/-- Matching finds the shared names with all their definitions and their mean scores, unless it
needs a weight that is too large for a double. The outlines of the matches, or the failure, do not
depend on the order of the input. -/
theorem matchAcrossRepos_any_order (w : SimilarityWeights)
    (types : List (String × Option (List TypeDefinition))) :
    (IsOverweight w (declared types) →
      matchAcrossRepos w (withData types) = .error .tooLarge) ∧
    (¬ IsOverweight w (declared types) →
      ∃ found, matchAcrossRepos w (withData types) = .ok found ∧
        IsMatching w (declared types) found) ∧
    (∀ other, Rearranged types other →
      (matchAcrossRepos w (withData other)).map (List.map Match.outline) =
        (matchAcrossRepos w (withData types)).map (List.map Match.outline)) := by
  refine ⟨matchAcrossRepos_of_overweight, matchAcrossRepos_of_light, ?_⟩
  intro other hother
  have hperm := hother.declared_perm
  by_cases hover : IsOverweight w (declared types)
  · rw [matchAcrossRepos_of_overweight hover, matchAcrossRepos_of_overweight (hover.perm hperm)]
  · have hlight : ¬ IsOverweight w (declared other) := fun h => hover (h.perm hperm.symm)
    obtain ⟨found, hfound, hmatching⟩ := matchAcrossRepos_of_light hover
    obtain ⟨rest, hrest, hsame⟩ := matchAcrossRepos_of_light hlight
    rw [hfound, hrest]
    exact congrArg Except.ok (hsame.outline_eq hperm.symm hmatching)

/-- A class of users with an identifier. -/
def user : TypeDefinition :=
  { name := "User", kind := .class_,
    fields := [{ name := "id", typeRef := { name := "int", raw := "int" } }] }

/-- A shop and a bank that both declare users. -/
def usersTwice : List (String × Option (List TypeDefinition)) :=
  [("shop", some [user]), ("bank", some [user])]

theorem isShared_user : IsShared (declared usersTwice) "user" :=
  ⟨⟨"shop", user⟩, List.mem_cons_self, ⟨"bank", user⟩, List.mem_cons_of_mem _ List.mem_cons_self,
    by decide +kernel, by decide +kernel, by decide +kernel⟩

/-- The users are matched, and also in the other order beside a repository without facts. -/
theorem matchAcrossRepos_any_order_users :
    (∃ found, matchAcrossRepos {} (withData usersTwice) = .ok found ∧
      ∃ m ∈ found, m.name = "user" ∧ m.instances.length = 2) ∧
    (matchAcrossRepos {}
        (withData [("mill", none), ("bank", some [user]), ("shop", some [user])])).map
        (List.map Match.outline) =
      (matchAcrossRepos {} (withData usersTwice)).map (List.map Match.outline) := by
  obtain ⟨-, hlight, hother⟩ := matchAcrossRepos_any_order {} usersTwice
  constructor
  · have hsmall : ¬ IsOverweight {} (declared usersTwice) :=
      fun h => absurd h.1 (by decide +kernel)
    obtain ⟨found, hfound, hmatching⟩ := hlight hsmall
    obtain ⟨m, hm, hname⟩ := (hmatching.names "user").2 isShared_user
    refine ⟨found, hfound, m, hm, hname, ?_⟩
    rw [hmatching.members m hm, hname]
    decide +kernel
  · exact hother _ ((Rearranged.repos (List.Perm.swap _ _ _)).trans (.noData "mill"))

/-- The users are shared, but with a weight of `2 ^ 1024` for fields there is no match. -/
theorem matchAcrossRepos_users_overweight :
    IsShared (declared usersTwice) "user" ∧
      matchAcrossRepos { fields := 2 ^ 1024 } (withData usersTwice) = .error .tooLarge := by
  refine ⟨isShared_user, matchAcrossRepos_of_overweight ⟨by decide +kernel, ?_⟩⟩
  obtain ⟨a, ha, b, hb, hna, hnb, hapart⟩ := isShared_user
  have hfields : ∀ i ∈ declared usersTwice, i.type.fields ≠ [] := by
    have hall : declared usersTwice = [⟨"shop", user⟩, ⟨"bank", user⟩] := rfl
    intro i hi
    rw [hall, List.mem_pair] at hi
    rcases hi with rfl | rfl <;> exact List.cons_ne_nil _ _
  exact ⟨a, ha, b, hb, hna.trans hnb.symm, hapart, hfields a ha, hfields b hb⟩

end RepoAtlas.Types
