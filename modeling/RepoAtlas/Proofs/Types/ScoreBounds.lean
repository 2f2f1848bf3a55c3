import Mathlib.Algebra.Order.BigOperators.Group.List
import Mathlib.Order.Bounds.Basic
import RepoAtlas.Proofs.Number.Order
import RepoAtlas.Proofs.Types.Matching

/-!
Bounds of similarity. It lies between 0 and 100 both ways round, a field in common never lowers it,
and a group scores between the least and the greatest similarity of its pairs across repositories.
The weight of fields may be too large for a double; otherwise there is always a score.
-/
namespace RepoAtlas.Types

open Binary64

/-! ### A field in common -/

/-- The definition with one more field, wherever it stands. -/
structure HasOneMore (field : Field) (a a' : TypeDefinition) : Prop where
  name : a'.name = a.name
  kind : a'.kind = a.kind
  fields : a'.fields.Perm (field :: a.fields)

/-- The definition has no field of this name, letter case and separators apart. -/
def IsNewField (field : Field) (a : TypeDefinition) : Prop :=
  ∀ f ∈ a.fields, normalized f.name ≠ normalized field.name

theorem HasOneMore.fieldNames_perm {field : Field} {a a' : TypeDefinition}
    (h : HasOneMore field a a') (hnew : IsNewField field a) :
    (fieldNames a').Perm (normalized field.name :: fieldNames a) := by
  have hfresh : normalized field.name ∉ fieldNames a := by
    rw [mem_fieldNames]
    rintro ⟨f, hf, heq⟩
    exact hnew f hf heq
  rw [List.perm_ext_iff_of_nodup (nodup_fieldNames a')
    (List.nodup_cons.2 ⟨hfresh, nodup_fieldNames a⟩)]
  intro name
  simp only [mem_fieldNames, List.mem_cons, h.fields.mem_iff, or_and_right, exists_or,
    exists_eq_left]
  rw [@eq_comm _ name]

/-- The common names over the larger number of names, before rounding. -/
def share (a b : List String) : ℚ :=
  ((a.filter b.contains).length : ℚ) / (max a.length b.length : ℕ)

theorem overlap_eq (a b : List String) : overlap a b = nearest (share a b) := rfl

theorem share_nonneg (a b : List String) : 0 ≤ share a b := by
  rw [share]
  positivity

theorem share_le_one (a b : List String) : share a b ≤ 1 := by
  refine div_le_one_of_le₀ ?_ (Nat.cast_nonneg _)
  exact_mod_cast (List.length_filter_le _ a).trans (le_max_left _ _)

/-- One more name on both sides is one more common name. -/
theorem share_le_of_perm {x : String} {a b a' b' : List String} (ha : a'.Perm (x :: a))
    (hb : b'.Perm (x :: b)) (hxa : x ∉ a) : share a b ≤ share a' b' := by
  have hcommon : (a'.filter b'.contains).length = (a.filter b.contains).length + 1 := by
    have hsame : ∀ y ∈ a, b'.contains y = b.contains y := by
      intro y hy
      have hne : y ≠ x := fun heq => hxa (heq ▸ hy)
      rw [Bool.eq_iff_iff, List.contains_iff_mem, List.contains_iff_mem, hb.mem_iff,
        List.mem_cons, or_iff_right hne]
    have hx : b'.contains x = true := by
      rw [List.contains_iff_mem, hb.mem_iff]
      exact List.mem_cons_self
    rw [(ha.filter _).length_eq, List.filter_cons_of_pos hx, List.length_cons,
      List.filter_congr hsame]
  have hlarger : max a'.length b'.length = max a.length b.length + 1 := by
    rw [ha.length_eq, hb.length_eq, List.length_cons, List.length_cons]
    omega
  have hle : (a.filter b.contains).length ≤ max a.length b.length :=
    (List.length_filter_le _ a).trans (le_max_left _ _)
  rw [share, share, hcommon, hlarger]
  -- `common / larger ≤ (common + 1) / (larger + 1)`, as `common ≤ larger`
  generalize (a.filter b.contains).length = common at hle
  generalize max a.length b.length = larger at hle
  rcases Nat.eq_zero_or_pos larger with rfl | hpos
  · rw [Nat.cast_zero, div_zero]
    positivity
  · have hcast : (common : ℚ) ≤ larger := by exact_mod_cast hle
    rw [div_le_div_iff₀ (by exact_mod_cast hpos) (by positivity)]
    push_cast
    linarith

/-! ### The points for fields -/

section Points

variable {weight : ℤ} {a b : List String}

theorem overlap_bounds (a b : List String) : 0 ≤ overlap a b ∧ overlap a b ≤ 1 := by
  have hone : nearest 1 = 1 := by
    have h := nearest_natCast (n := 1) (by norm_num)
    rwa [Nat.cast_one] at h
  rw [overlap_eq]
  constructor
  · exact nearest_nonneg (share_nonneg a b)
      (lt_overflowSize ((share_le_one a b).trans (by norm_num)))
  · rw [← hone]
    exact nearest_mono (share_nonneg a b) (share_le_one a b) (lt_overflowSize (by norm_num))

/-- A weight as a double. -/
theorem points_of_finite {points : ℚ} (hweight : 0 ≤ weight)
    (h : Doc.finite (.ofInt weight) = .ok points) :
    0 ≤ points ∧ points + 1 / 2 < overflowSize := by
  rw [finite_ofInt] at h
  split at h
  next hsmall =>
    obtain rfl := Except.ok.inj h
    have hcast : (weight : ℚ) < overflowSize := by
      rw [← Int.natAbs_of_nonneg hweight, Int.cast_natCast]
      exact_mod_cast hsmall
    have hnonneg : (0 : ℚ) ≤ weight := by exact_mod_cast hweight
    have hsame : (Binary64.ofInt weight).toRat = nearest weight := by
      rw [nearest, Rat.num_intCast, Rat.den_intCast]
      rfl
    rw [hsame]
    exact ⟨nearest_nonneg hnonneg hcast, nearest_lt hnonneg hcast⟩
  next => cases h

theorem fieldScore_of_points {points : ℚ} (hsome : a ≠ [] ∧ b ≠ [])
    (h : Doc.finite (.ofInt weight) = .ok points) :
    fieldScore weight a b = .ok (roundHalfUp (nearest (points * overlap a b))) := by
  have hboth : ¬ (a.isEmpty || b.isEmpty) = true := by
    rw [Bool.or_eq_true, List.isEmpty_iff, List.isEmpty_iff, not_or]
    exact hsome
  rw [fieldScore, if_neg hboth, h]
  rfl

theorem fieldScore_of_none (hnone : a = [] ∨ b = []) : fieldScore weight a b = .ok 0 := by
  rw [← List.isEmpty_iff, ← List.isEmpty_iff, ← Bool.or_eq_true] at hnone
  rw [fieldScore, if_pos hnone]

/-- Points grow with the overlap. -/
theorem roundHalfUp_points_le {points q r : ℚ}
    (hpoints : 0 ≤ points ∧ points + 1 / 2 < overflowSize) (hq : 0 ≤ q) (h : q ≤ r) (hr : r ≤ 1) :
    roundHalfUp (nearest (points * q)) ≤ roundHalfUp (nearest (points * r)) := by
  obtain ⟨hnonneg, hsmall⟩ := hpoints
  have hproduct : points * r ≤ points := mul_le_of_le_one_right hnonneg hr
  have hlow : 0 ≤ points * q := mul_nonneg hnonneg hq
  have hle : points * q ≤ points * r := mul_le_mul_of_nonneg_left h hnonneg
  refine roundHalfUp_mono (nearest_nonneg hlow (by linarith)) ?_ ?_
  · exact nearest_mono hlow hle (by linarith)
  · exact nearest_lt (hlow.trans hle) (by linarith)

theorem roundHalfUp_points_nonneg {points q : ℚ}
    (hpoints : 0 ≤ points ∧ points + 1 / 2 < overflowSize) (hq : 0 ≤ q) (hle : q ≤ 1) :
    0 ≤ roundHalfUp (nearest (points * q)) := by
  have h := roundHalfUp_points_le hpoints le_rfl hq hle
  have hzero := roundHalfUp_natCast (n := 0) (by norm_num)
  rw [mul_zero, nearest_zero] at h
  rw [Nat.cast_zero, Nat.cast_zero] at hzero
  rwa [hzero] at h

theorem fieldScore_nonneg (hweight : 0 ≤ weight) {points : ℤ}
    (h : fieldScore weight a b = .ok points) : 0 ≤ points := by
  by_cases hnone : a = [] ∨ b = []
  · rw [fieldScore_of_none hnone] at h
    exact (Except.ok.inj h).le
  · rw [not_or] at hnone
    cases hfinite : Doc.finite (.ofInt weight) with
    | error fault =>
      rw [fieldScore, hfinite] at h
      split at h
      next hempty => simp [hnone] at hempty
      next => cases h
    | ok value =>
      rw [fieldScore_of_points hnone hfinite] at h
      obtain rfl := Except.ok.inj h
      obtain ⟨hlow, hhigh⟩ := overlap_bounds a b
      exact roundHalfUp_points_nonneg (points_of_finite hweight hfinite) hlow hhigh

/-- A name in common does not cost points, unless the weight is too large for a double. -/
theorem fieldScore_le_of_perm {x : String} {a' b' : List String} (hweight : 0 ≤ weight)
    (hlight : weight.natAbs < overflowSize) (ha : a'.Perm (x :: a)) (hb : b'.Perm (x :: b))
    (hxa : x ∉ a) :
    ∃ points more, fieldScore weight a b = .ok points ∧ fieldScore weight a' b' = .ok more ∧
      points ≤ more := by
  obtain ⟨value, hvalue⟩ : ∃ value, Doc.finite (.ofInt weight) = .ok value := by
    rw [finite_ofInt, if_pos hlight]
    exact ⟨_, rfl⟩
  have hsome : a' ≠ [] ∧ b' ≠ [] := by
    constructor <;> rintro rfl
    · exact List.cons_ne_nil _ _ ha.symm.eq_nil
    · exact List.cons_ne_nil _ _ hb.symm.eq_nil
  have hmore := fieldScore_of_points hsome hvalue
  by_cases hnone : a = [] ∨ b = []
  · exact ⟨0, _, fieldScore_of_none hnone, hmore, fieldScore_nonneg hweight hmore⟩
  · rw [not_or] at hnone
    refine ⟨_, _, fieldScore_of_points hnone hvalue, hmore, ?_⟩
    refine roundHalfUp_points_le (points_of_finite hweight hvalue) (overlap_bounds a b).1 ?_
      (overlap_bounds a' b').2
    rw [overlap_eq, overlap_eq]
    exact nearest_mono (share_nonneg a b) (share_le_of_perm ha hb hxa)
      (lt_overflowSize ((share_le_one a' b').trans (by norm_num)))

end Points

/-! ### Similarity -/

section Similarity

variable {w : SimilarityWeights} {a b a' b' : TypeDefinition}

/-- The points for the name and the kind. -/
def headScore (w : SimilarityWeights) (a b : TypeDefinition) : ℤ :=
  (if normalized a.name = normalized b.name then w.name else 0) +
    if kindsEquivalent a.kind b.kind then w.kind else 0

theorem similarity_of_fieldScore {points : ℤ}
    (h : fieldScore w.fields (fieldNames a) (fieldNames b) = .ok points) :
    similarity w a b = .ok (max 0 (min 100 (headScore w a b + points))) := by
  rw [similarity, h]
  rfl

theorem fieldScore_of_similarity {score : ℤ} (h : similarity w a b = .ok score) :
    ∃ points, fieldScore w.fields (fieldNames a) (fieldNames b) = .ok points ∧
      score = max 0 (min 100 (headScore w a b + points)) := by
  rw [similarity, bind_eq_ok_iff] at h
  obtain ⟨points, hpoints, h⟩ := h
  exact ⟨points, hpoints, (pure_eq_ok_iff.1 h).symm⟩

/-- A field in common never lowers the similarity. -/
theorem similarity_le_of_hasOneMore {f g : Field} (hweight : 0 ≤ w.fields)
    (hlight : w.fields.natAbs < overflowSize) (ha : HasOneMore f a a') (hb : HasOneMore g b b')
    (hsame : normalized g.name = normalized f.name) (hnewa : IsNewField f a)
    (hnewb : IsNewField g b) :
    ∃ score more, similarity w a b = .ok score ∧ similarity w a' b' = .ok more ∧ score ≤ more := by
  have hfresh : normalized f.name ∉ fieldNames a := by
    rw [mem_fieldNames]
    rintro ⟨other, hother, heq⟩
    exact hnewa other hother heq
  obtain ⟨points, more, hpoints, hmore, hle⟩ := fieldScore_le_of_perm hweight hlight
    (ha.fieldNames_perm hnewa) (hsame ▸ hb.fieldNames_perm hnewb) hfresh
  refine ⟨_, _, similarity_of_fieldScore hpoints, similarity_of_fieldScore hmore, ?_⟩
  have hhead : headScore w a' b' = headScore w a b := by
    rw [headScore, headScore, ha.name, ha.kind, hb.name, hb.kind]
  omega

/-- Types of one name get at least the weight of the name. -/
theorem le_similarity_of_name (hkind : 0 ≤ w.kind) (hweight : 0 ≤ w.fields) {score : ℤ}
    (hname : normalized a.name = normalized b.name) (h : similarity w a b = .ok score) :
    min 100 w.name ≤ score := by
  obtain ⟨points, hpoints, rfl⟩ := fieldScore_of_similarity h
  have hnonneg := fieldScore_nonneg hweight hpoints
  have hhead : w.name ≤ headScore w a b := by
    rw [headScore, if_pos hname]
    split <;> omega
  omega

end Similarity

/-! ### Groups -/

/-- The similarities of the pairs across repositories. -/
def pairScores (w : SimilarityWeights) (instances : List Instance) : Set ℤ :=
  {s | ∃ a ∈ instances, ∃ b ∈ instances, a.repo ≠ b.repo ∧ similarity w a.type b.type = .ok s}

/-- The score lies between the least and the greatest similarity of the pairs. -/
def ScoresBetween (w : SimilarityWeights) (m : Match) : Prop :=
  ∃ low high, IsLeast (pairScores w m.instances) low ∧ IsGreatest (pairScores w m.instances) high ∧
    low ≤ m.score ∧ m.score ≤ high

section Groups

variable {w : SimilarityWeights} {instances : List Instance} {scores : List ℤ}

theorem mem_scores_iff (h : (instances.sym2.filter crossing).mapM (likeness w) = .ok scores)
    {s : ℤ} : s ∈ scores ↔ s ∈ pairScores w instances := by
  constructor
  · intro hs
    obtain ⟨z, hz, hscore⟩ := mem_of_mapM_eq_ok h hs
    induction z using Sym2.ind with
    | _ a b =>
      rw [List.mem_filter, List.mk_mem_sym2_iff, crossing_mk, decide_eq_true_iff] at hz
      exact ⟨a, hz.1.1, b, hz.1.2, hz.2, hscore⟩
  · rintro ⟨a, ha, b, hb, hapart, hscore⟩
    have hpair : s(a, b) ∈ instances.sym2.filter crossing := by
      rw [List.mem_filter, List.mk_mem_sym2_iff, crossing_mk, decide_eq_true_iff]
      exact ⟨⟨ha, hb⟩, hapart⟩
    obtain ⟨t, ht, heq⟩ := exists_mem_of_mapM_eq_ok h hpair
    rw [likeness_mk, hscore] at heq
    exact Except.ok.inj heq ▸ ht

theorem exists_extremes (hsome : scores ≠ []) :
    ∃ low high, IsLeast {s | s ∈ scores} low ∧ IsGreatest {s | s ∈ scores} high := by
  have hnonempty : scores.toFinset.Nonempty := List.toFinset_nonempty_iff scores |>.2 hsome
  have hleast := scores.toFinset.isLeast_min' hnonempty
  have hgreatest := scores.toFinset.isGreatest_max' hnonempty
  rw [List.coe_toFinset] at hleast hgreatest
  exact ⟨_, _, hleast, hgreatest⟩

/-- A mean lies between the least and the greatest of the scores. -/
theorem mean_bounds (hsome : scores ≠ []) {low high : ℤ} (hlow : ∀ s ∈ scores, low ≤ s)
    (hhigh : ∀ s ∈ scores, s ≤ high) :
    (low : ℚ) ≤ (scores.sum : ℚ) / scores.length ∧ (scores.sum : ℚ) / scores.length ≤ high := by
  have hpos : (0 : ℚ) < scores.length := by exact_mod_cast List.length_pos_iff.2 hsome
  have hbelow := List.card_nsmul_le_sum scores low hlow
  have habove := List.sum_le_card_nsmul scores high hhigh
  rw [nsmul_eq_mul] at hbelow habove
  rw [le_div_iff₀ hpos, div_le_iff₀ hpos]
  constructor
  · exact_mod_cast (mul_comm _ _).trans_le hbelow
  · exact_mod_cast habove.trans_eq (mul_comm _ _)

theorem scoresBetween_of_isMeanScore {m : Match} (h : IsMeanScore w m.instances m.score) :
    ScoresBetween w m := by
  obtain ⟨scores, hscores, hsome, hmean⟩ := h
  obtain ⟨low, high, hleast, hgreatest⟩ := exists_extremes hsome
  have hset : {s | s ∈ scores} = pairScores w m.instances :=
    Set.ext fun s => mem_scores_iff hscores
  have hrange : ∀ s ∈ scores, 0 ≤ s ∧ s ≤ 100 := by
    intro s hs
    obtain ⟨a, -, b, -, -, hscore⟩ := (mem_scores_iff hscores).1 hs
    exact similarity_range hscore
  obtain ⟨hlow, -⟩ := hrange low hleast.1
  obtain ⟨hhigh, htop⟩ := hrange high hgreatest.1
  obtain ⟨hbelow, habove⟩ := mean_bounds hsome hleast.2 hgreatest.2
  rw [hset] at hleast hgreatest
  refine ⟨low, high, hleast, hgreatest, ?_⟩
  lift low to ℕ using hlow
  lift high to ℕ using hhigh
  rw [hmean]
  exact roundHalfUp_bounds (by omega) (by exact_mod_cast hbelow) (by exact_mod_cast habove)

/-- A group with equal names gets at least the weight of the name. -/
theorem ScoresBetween.le_score {m : Match} (h : ScoresBetween w m) (hkind : 0 ≤ w.kind)
    (hweight : 0 ≤ w.fields) (hname : ∀ a ∈ m.instances, normalized a.type.name = m.name) :
    min 100 w.name ≤ m.score := by
  obtain ⟨low, -, ⟨⟨a, ha, b, hb, -, hscore⟩, -⟩, -, hle, -⟩ := h
  have hsame := (hname a ha).trans (hname b hb).symm
  exact (le_similarity_of_name hkind hweight hsame hscore).trans hle

end Groups

/-! ### The weights -/

/-- With these weights similarity is symmetric and lies between 0 and 100, groups score between
their pairs, the weight of the name is a floor for groups, and a field in common costs nothing. The
only failure is a weight of fields that is too large for a double. -/
structure IsWellBehaved (w : SimilarityWeights) : Prop where
  symmetric : ∀ a b, similarity w a b = similarity w b a
  fails_iff : ∀ a b fault, similarity w a b = .error fault ↔
    fault = .tooLarge ∧ overflowSize ≤ w.fields.natAbs ∧ a.fields ≠ [] ∧ b.fields ≠ []
  range : ∀ a b score, similarity w a b = .ok score → 0 ≤ score ∧ score ≤ 100
  groups : ∀ types,
    IsOverweight w (declared types) ∧ matchAcrossRepos w (withData types) = .error .tooLarge ∨
      ∃ found, matchAcrossRepos w (withData types) = .ok found ∧ ∀ m ∈ found, ScoresBetween w m
  floor : 0 ≤ w.kind → 0 ≤ w.fields → ∀ types found,
    matchAcrossRepos w (withData types) = .ok found → ∀ m ∈ found, min 100 w.name ≤ m.score
  grows : 0 ≤ w.fields → w.fields.natAbs < overflowSize → ∀ field a a' b b',
    HasOneMore field a a' → HasOneMore field b b' → IsNewField field a → IsNewField field b →
      ∃ score more, similarity w a b = .ok score ∧ similarity w a' b' = .ok more ∧ score ≤ more

theorem similarity_isWellBehaved (w : SimilarityWeights) : IsWellBehaved w where
  symmetric := similarity_comm w
  fails_iff _ _ _ := similarity_eq_error_iff
  range _ _ _ := similarity_range
  groups types := by
    by_cases hover : IsOverweight w (declared types)
    · exact .inl ⟨hover, matchAcrossRepos_of_overweight hover⟩
    · obtain ⟨found, hfound, hmatching⟩ := matchAcrossRepos_of_light hover
      exact .inr ⟨found, hfound, fun m hm => scoresBetween_of_isMeanScore (hmatching.scores m hm)⟩
  floor hkind hweight types found hfound m hm := by
    by_cases hover : IsOverweight w (declared types)
    · rw [matchAcrossRepos_of_overweight hover] at hfound
      cases hfound
    · obtain ⟨other, hother, hmatching⟩ := matchAcrossRepos_of_light hover
      obtain rfl : found = other := Except.ok.inj (hfound.symm.trans hother)
      refine (scoresBetween_of_isMeanScore (hmatching.scores m hm)).le_score hkind hweight ?_
      intro a ha
      rw [hmatching.members m hm, List.mem_filter, decide_eq_true_iff] at ha
      exact ha.2
  grows hweight hlight _ _ _ _ _ ha hb hnewa hnewb :=
    similarity_le_of_hasOneMore hweight hlight ha hb rfl hnewa hnewb

/-- With a weight of `10 ^ 400` for fields two users have no similarity. -/
theorem similarity_users_overweight :
    similarity { fields := 10 ^ 400 } user user = .error .tooLarge :=
  similarity_eq_error_iff.2 ⟨rfl, by decide +kernel, List.cons_ne_nil _ _, List.cons_ne_nil _ _⟩

end RepoAtlas.Types
