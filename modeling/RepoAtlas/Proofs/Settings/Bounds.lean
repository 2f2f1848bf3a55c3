import Mathlib.Algebra.Order.Ring.Rat
import Mathlib.Order.WithBot
import RepoAtlas.Settings.Basic

/-!
What the settings ask of a score. A bound may be any number, and the whole number that stands for
it lets the same scores pass.
-/
namespace RepoAtlas

/-- A number as a bound from below, in the order of numbers. What is no number bounds nothing, and
no score reaches an infinite bound or a value of another kind. -/
def Doc.bound : Doc → WithBot (WithTop ℚ)
  | .int i => ((i : ℚ) : WithTop ℚ)
  | .bool b => (((if b then 1 else 0 : Int) : ℚ) : WithTop ℚ)
  | .float (.finite negative m e) => ((Binary64.finite negative m e).toRat : WithTop ℚ)
  | .float (.infinite true) => ⊥
  | .float .nan => ⊥
  | _ => ⊤

namespace Settings

/-- The bound on scores under a name; none passes without one. -/
def bound (s : Settings) (key : String) : WithBot (WithTop ℚ) :=
  ((s.value? "scoring" key).map Doc.bound).getD ⊤

theorem coe_le_score_iff {q : ℚ} {score : Int} :
    ((q : WithTop ℚ) : WithBot (WithTop ℚ)) ≤ (Doc.int score).bound ↔ q ≤ score := by
  rw [Doc.bound, WithBot.coe_le_coe, WithTop.coe_le_coe]

theorem not_top_le_score {score : Int} :
    ¬ (⊤ : WithBot (WithTop ℚ)) ≤ (Doc.int score).bound := by
  rw [Doc.bound, ← WithBot.coe_top, WithBot.coe_le_coe, top_le_iff]
  exact WithTop.coe_ne_top

theorem min?_getD_le {scores : List Int} {score : Int} (h : score ∈ scores) :
    scores.min?.getD 0 ≤ score := by
  cases hmin : scores.min? with
  | none => exact absurd h (List.min?_eq_none_iff.1 hmin ▸ List.not_mem_nil)
  | some least => exact (List.min?_eq_some_iff.1 hmin).2 score h

theorem le_max?_getD {scores : List Int} {score : Int} (h : score ∈ scores) :
    score ≤ scores.max?.getD 0 := by
  cases hmax : scores.max? with
  | none => exact absurd h (List.max?_eq_none_iff.1 hmax ▸ List.not_mem_nil)
  | some greatest => exact (List.max?_eq_some_iff.1 hmax).2 score h

/-- The bound of a value that reads as a whole number, or that is rounded up to one. -/
theorem bound_of_atLeast {s : Settings} {key : String} {v : Doc} {least score : Int}
    (hvalue : s.value? "scoring" key = some v)
    (hfinite : ∀ x, v = .float x → ∃ negative m e, x = .finite negative m e)
    (h : s.atLeast "scoring" key = .ok least) :
    least ≤ score ↔ v.bound ≤ (Doc.int score).bound := by
  rw [atLeast, hvalue] at h
  cases v with
  | float x =>
    obtain ⟨negative, m, e, rfl⟩ := hfinite x rfl
    obtain rfl := Except.ok.inj h
    exact Rat.ceil_le_iff.trans coe_le_score_iff.symm
  | int i =>
    obtain rfl : i = least := by simpa [whole, hvalue, Doc.whole?] using h
    exact (coe_le_score_iff.trans Rat.intCast_le_intCast).symm
  | bool b =>
    obtain rfl : (if b then 1 else 0) = least := by simpa [whole, hvalue, Doc.whole?] using h
    exact (coe_le_score_iff.trans Rat.intCast_le_intCast).symm
  | _ => simp [whole, hvalue, Doc.whole?] at h

/-- The whole number that stands for a bound lets the scores pass that reach it. -/
theorem scoreBound_le_iff {s : Settings} {key : String} {scores : List Int} {least score : Int}
    (h : s.scoreBound key scores = .ok least) (hscore : score ∈ scores) :
    least ≤ score ↔ s.bound key ≤ (Doc.int score).bound := by
  rw [scoreBound] at h
  rw [bound]
  have hsome : scores.isEmpty = false := by simpa using List.ne_nil_of_mem hscore
  split at h
  next hvalue =>
    obtain rfl := Except.ok.inj h
    rw [hvalue]
    exact iff_of_true (min?_getD_le hscore) bot_le
  next hvalue =>
    obtain rfl := Except.ok.inj h
    rw [hvalue]
    exact iff_of_true (min?_getD_le hscore) bot_le
  next hvalue =>
    obtain rfl := Except.ok.inj h
    have hmost := le_max?_getD hscore
    rw [hvalue]
    exact iff_of_false (by omega) not_top_le_score
  next v hnan hlow hhigh hvalue =>
    rw [if_neg (by simp [hsome])] at h
    rw [hvalue]
    refine bound_of_atLeast hvalue (fun x hx => ?_) h
    subst hx
    match x with
    | .finite negative m e => exact ⟨negative, m, e, rfl⟩
    | .infinite true => exact (hlow rfl).elim
    | .infinite false => exact (hhigh rfl).elim
    | .nan => exact (hnan rfl).elim
  next => cases h

end Settings

end RepoAtlas
