import Mathlib.Data.List.TakeDrop
import Mathlib.Tactic.Ring
import RepoAtlas.Number.Numeral

/-!
The decimal text of a natural number: digits only, no zero in front, and its value is the number.
-/
namespace RepoAtlas.Numeral

open RepoAtlas.Text

def AllDigits (s : List Char) : Prop := ∀ c ∈ s, isAsciiDigit c = true

theorem AllDigits.append {s t : List Char} (hs : AllDigits s) (ht : AllDigits t) :
    AllDigits (s ++ t) := by
  intro c hc
  rcases List.mem_append.1 hc with h | h
  · exact hs c h
  · exact ht c h

theorem allDigits_replicate_zero (n : ℕ) : AllDigits (List.replicate n '0') := by
  intro c hc
  rw [List.eq_of_mem_replicate hc]
  rfl

theorem isAsciiDigit_eq_isDigit (c : Char) : isAsciiDigit c = c.isDigit := rfl

theorem toList_toString (n : ℕ) : (toString n).toList = Nat.toDigits 10 n := Nat.toList_repr

theorem allDigits_toDigits (n : ℕ) : AllDigits (Nat.toDigits 10 n) := by
  intro c hc
  rw [isAsciiDigit_eq_isDigit]
  exact Nat.isDigit_of_mem_toDigits (by norm_num) (le_refl 10) hc

/-- Only zero has a zero in front. -/
theorem toDigits_head {n : ℕ} (hn : 0 < n) : ∃ c rest, Nat.toDigits 10 n = c :: rest ∧ c ≠ '0' := by
  induction n using Nat.strong_induction_on with
  | _ n ih =>
    rw [Nat.toDigits_eq_if (by norm_num)]
    split
    next h =>
      refine ⟨n.digitChar, [], rfl, ?_⟩
      intro hzero
      rw [Nat.digitChar_eq_zero] at hzero
      omega
    next h =>
      obtain ⟨c, rest, heq, hc⟩ := ih (n / 10) (by omega) (by omega)
      exact ⟨c, rest ++ [Nat.digitChar (n % 10)], by rw [heq]; rfl, hc⟩

/-! ### The value of digits -/

theorem digitsValue_eq (s : List Char) : digitsValue s = Nat.ofDigitChars 10 s 0 := rfl

theorem digitsValue_toDigits (n : ℕ) : digitsValue (Nat.toDigits 10 n) = n :=
  Nat.ofDigitChars_ten_toDigits

theorem digitsValue_append (s t : List Char) :
    digitsValue (s ++ t) = digitsValue s * 10 ^ t.length + digitsValue t := by
  simp only [digitsValue_eq, Nat.ofDigitChars_append]
  rw [Nat.ofDigitChars_eq_ofDigitChars_zero]
  ring

theorem digitsValue_replicate_zero (n : ℕ) : digitsValue (List.replicate n '0') = 0 := by
  simp [digitsValue_eq]

theorem digitsValue_zeros_append (n : ℕ) (s : List Char) :
    digitsValue (List.replicate n '0' ++ s) = digitsValue s := by
  rw [digitsValue_append, digitsValue_replicate_zero, zero_mul, zero_add]

theorem digitsValue_lt {s : List Char} (hs : AllDigits s) : digitsValue s < 10 ^ s.length := by
  induction s with
  | nil => simp [digitsValue]
  | cons c rest ih =>
    have hrest := ih (fun d hd => hs d (List.mem_cons_of_mem c hd))
    have hc := hs c List.mem_cons_self
    have hdigit : digitsValue [c] < 10 := by
      simp only [isAsciiDigit, Bool.and_eq_true, decide_eq_true_eq, Char.le_def] at hc
      obtain ⟨-, hhigh⟩ := hc
      have hle : c.toNat ≤ 57 := hhigh
      simp only [digitsValue, List.foldl_cons, List.foldl_nil]
      omega
    rw [← List.singleton_append, digitsValue_append, List.length_append, pow_add]
    have hmul := Nat.mul_le_mul_right (10 ^ rest.length) (Nat.le_of_lt_succ hdigit)
    simp only [List.length_singleton, pow_one]
    omega

/-- An integer with more digits than are written. -/
def IsLong (i : ℤ) : Prop := 10 ^ maxDigits ≤ i.natAbs

theorem lt_length_iff {i : ℤ} : maxDigits < (toString i.natAbs).length ↔ IsLong i := by
  have hmax : 0 < maxDigits := by decide
  exact not_le.symm.trans ((not_congr (Nat.length_repr_le_iff hmax)).trans not_lt)

theorem intText_of_isLong {i : ℤ} (h : IsLong i) : intText i = .error .longNumber :=
  if_pos (lt_length_iff.2 h)

theorem intText_of_not_isLong {i : ℤ} (h : ¬ IsLong i) : intText i = .ok (toString i) :=
  if_neg (mt lt_length_iff.1 h)

/-! ### Reading digits off the front -/

/-- The text does not go on with a digit. -/
def EndsDigits (s : List Char) : Prop := ∀ c ∈ s.head?, isAsciiDigit c = false

theorem span_digits {s rest : List Char} (hs : AllDigits s) (hrest : EndsDigits rest) :
    (s ++ rest).span isAsciiDigit = (s, rest) := by
  have hnone : rest.takeWhile isAsciiDigit = [] ∧ rest.dropWhile isAsciiDigit = rest := by
    cases rest with
    | nil => exact ⟨rfl, rfl⟩
    | cons c tail => simp [hrest c rfl]
  rw [List.span_eq_takeWhile_dropWhile, List.takeWhile_append_of_pos hs,
    List.dropWhile_append_of_pos hs, hnone.1, hnone.2, List.append_nil]

end RepoAtlas.Numeral
