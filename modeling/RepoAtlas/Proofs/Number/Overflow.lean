import RepoAtlas.Doc.Ratio
import RepoAtlas.Number.Numeral
import RepoAtlas.Proofs.Number.Rounding

/-!
Which numbers are too large for a double: those from half a unit above the largest double on. The
largest mantissa is odd, so the tie between it and the next power of two goes up. Whatever is
rounded, it ends in a double.
-/
namespace RepoAtlas

namespace Binary64

theorem le_nearestNat {q : ℚ} {k : ℕ} (h : (k : ℚ) ≤ q) : k ≤ nearestNat q := by
  have hfloor : k ≤ ⌊q⌋₊ := Nat.le_floor h
  rw [nearestNat]
  split_ifs <;> omega

theorem nearestNat_le {q : ℚ} {k : ℕ} (hq : 0 ≤ q) (h : q < k + 1 / 2) : nearestNat q ≤ k := by
  have hbelow : (⌊q⌋₊ : ℚ) ≤ q := Nat.floor_le hq
  have hfloor : ⌊q⌋₊ ≤ k := by
    have hlt : (⌊q⌋₊ : ℚ) < (k + 1 : ℕ) := by
      push_cast
      linarith
    have : ⌊q⌋₊ < k + 1 := by exact_mod_cast hlt
    omega
  rcases hfloor.lt_or_eq with hlt | heq
  · rw [nearestNat]
    split_ifs <;> omega
  · have hnear : 2 * (q - (⌊q⌋₊ : ℚ)) < 1 := by
      rw [heq]
      linarith
    rw [nearestNat, if_pos hnear]
    exact hfloor

/-- From half a unit above an odd number on, the next number is nearer or as near. -/
theorem lt_nearestNat_of_odd {q : ℚ} {k : ℕ} (hodd : k % 2 = 1) (h : (k : ℚ) + 1 / 2 ≤ q) :
    k < nearestNat q := by
  have hfloor : k ≤ ⌊q⌋₊ := Nat.le_floor (by linarith)
  rcases hfloor.lt_or_eq with hlt | rfl
  · rw [nearestNat]
    split_ifs <;> omega
  · rw [nearestNat, if_neg (by linarith)]
    split_ifs <;> omega

/-- Next to a power of two the largest mantissa is rounded up to it. -/
theorem nearestNat_eq_top {q : ℚ} (hlow : 2 ^ 53 - 1 / 2 ≤ q) (hhigh : q < 2 ^ 53) :
    nearestNat q = 2 ^ 53 := by
  have hup : 2 ^ 53 - 1 < nearestNat q := by
    apply lt_nearestNat_of_odd (by norm_num)
    norm_num
    linarith
  have hdown : nearestNat q ≤ 2 ^ 53 := by
    apply nearestNat_le (by linarith)
    push_cast
    linarith
  omega

theorem settle_of_beyond (negative : Bool) {m : ℕ} {e : ℤ} (hpos : 0 < m) (he : 971 < e) :
    settle negative m e = .infinite negative := by
  by_cases hm : m = 2 ^ 53
  · rw [settle, if_pos hm]
    dsimp only
    rw [if_neg (Nat.two_pow_pos 52).ne', if_pos (by omega)]
  · rw [settle, if_neg hm]
    dsimp only
    rw [if_neg hpos.ne', if_pos he]

theorem settle_of_within (negative : Bool) {m : ℕ} {e : ℤ}
    (h : e < 971 ∨ e = 971 ∧ m ≠ 2 ^ 53) : ∃ n f, settle negative m e = .finite negative n f := by
  rw [settle]
  by_cases hm : m = 2 ^ 53
  · have he : e < 971 := h.resolve_right (fun htop => htop.2 hm)
    rw [if_pos hm]
    dsimp only
    rw [if_neg (Nat.two_pow_pos 52).ne', if_neg (by omega)]
    exact ⟨_, _, rfl⟩
  · rw [if_neg hm]
    dsimp only
    split
    · exact ⟨_, _, rfl⟩
    · rw [if_neg (by omega)]
      exact ⟨_, _, rfl⟩

/-- The unit in the last place of the largest doubles. -/
def topUnit : ℚ := 2 ^ (971 : ℤ)

theorem topUnit_pos : 0 < topUnit := by
  rw [topUnit]
  positivity

variable {num den : ℕ}

theorem ofQuotient_eq_infinite (negative : Bool) (hden : 0 < den)
    (h : (2 ^ 53 - 1 / 2) * topUnit ≤ num / den) :
    ofQuotient negative num den = .infinite negative := by
  have htop := topUnit_pos
  have hnum : 0 < num := by
    rcases Nat.eq_zero_or_pos num with rfl | hpos
    · rw [Nat.cast_zero, zero_div] at h
      linarith
    · exact hpos
  have hunit := unitExponent_isUnit hnum hden
  generalize unitExponent num den = e at hunit
  have hpow : (0 : ℚ) < 2 ^ e := by positivity
  rw [ofQuotient_eq_of_round negative hnum hden hunit rfl]
  have hlarge : 971 ≤ e := by
    by_contra hlt
    have hstep : (2 : ℚ) ^ (e + 1) ≤ topUnit := zpow_le_zpow_right₀ (by norm_num) (by omega)
    rw [zpow_add_one₀ (by norm_num)] at hstep
    have := hunit.lt
    linarith
  rcases hlarge.lt_or_eq with hlt | heq
  · refine settle_of_beyond negative ?_ hlt
    have hge : 2 ^ 52 * 2 ^ e ≤ (num : ℚ) / den := hunit.normal.resolve_right (by omega)
    have hmantissa : 2 ^ 52 ≤ nearestNat ((num : ℚ) / den / 2 ^ e) := by
      apply le_nearestNat
      rw [le_div_iff₀ hpow]
      exact_mod_cast hge
    exact (Nat.two_pow_pos 52).trans_le hmantissa
  · have hsame : (2 : ℚ) ^ e = topUnit := by rw [topUnit, heq]
    have hlt := hunit.lt
    rw [hsame] at hlt ⊢
    have hround : nearestNat ((num : ℚ) / den / topUnit) = 2 ^ 53 :=
      nearestNat_eq_top ((le_div_iff₀ htop).2 h) ((div_lt_iff₀ htop).2 hlt)
    rw [hround, settle, if_pos rfl]
    dsimp only
    rw [if_neg (Nat.two_pow_pos 52).ne', if_pos (by omega)]

theorem ofQuotient_eq_finite (negative : Bool) (hden : 0 < den)
    (h : num / den < (2 ^ 53 - 1 / 2) * topUnit) :
    ∃ m e, ofQuotient negative num den = .finite negative m e := by
  have htop := topUnit_pos
  rcases Nat.eq_zero_or_pos num with rfl | hnum
  · exact ⟨0, 0, ofQuotient_zero negative den⟩
  have hunit := unitExponent_isUnit hnum hden
  generalize unitExponent num den = e at hunit
  rw [ofQuotient_eq_of_round negative hnum hden hunit rfl]
  have hsmall : e ≤ 971 := by
    by_contra hlt
    have hge : 2 ^ 52 * 2 ^ e ≤ (num : ℚ) / den := hunit.normal.resolve_right (by omega)
    have hstep : (2 : ℚ) ^ ((971 : ℤ) + 1) ≤ 2 ^ e := zpow_le_zpow_right₀ (by norm_num) (by omega)
    rw [zpow_add_one₀ (by norm_num), ← topUnit] at hstep
    linarith
  apply settle_of_within
  rcases hsmall.lt_or_eq with hlt | heq
  · exact Or.inl hlt
  · refine Or.inr ⟨heq, ?_⟩
    have hdown : nearestNat ((num : ℚ) / den / 2 ^ e) ≤ 2 ^ 53 - 1 := by
      rw [heq, ← topUnit]
      apply nearestNat_le (by positivity)
      rw [div_lt_iff₀ htop]
      norm_num
      linarith
    omega

/-- The size from which on an integer is too large for a double. -/
def overflowSize : ℕ := 2 ^ 1024 - 2 ^ 970

theorem overflowSize_cast : (overflowSize : ℚ) = (2 ^ 53 - 1 / 2) * topUnit := by
  have hle : 2 ^ 970 ≤ 2 ^ 1024 := pow_le_pow_right₀ one_le_two (by omega)
  have hhalf : topUnit = 2 * 2 ^ 970 := by
    rw [topUnit, ← pow_succ']
    exact zpow_natCast 2 971
  have hwhole : (2 : ℚ) ^ 1024 = 2 ^ 54 * 2 ^ 970 := by rw [← pow_add]
  rw [overflowSize, Nat.cast_sub hle, Nat.cast_pow, Nat.cast_pow, Nat.cast_ofNat, hhalf, hwhole]
  generalize (2 : ℚ) ^ 970 = unit
  norm_num
  ring

end Binary64

theorem natAbs_num_div_den (q : ℚ) : (q.num.natAbs : ℚ) / q.den = |q| := by
  rw [Nat.cast_natAbs, Int.cast_abs, ← Nat.abs_cast q.den, ← abs_div, Rat.num_div_den]

/-- A quotient has a double, or it is too large. -/
theorem finite_ofQuotient (negative : Bool) {num den : ℕ} (hden : 0 < den) :
    Doc.finite (.ofQuotient negative num den) =
      if (num : ℚ) / den < Binary64.overflowSize then
        .ok (Binary64.ofQuotient negative num den).toRat
      else .error .tooLarge := by
  rw [Binary64.overflowSize_cast]
  split
  next hlt =>
    obtain ⟨m, e, hfinite⟩ := Binary64.ofQuotient_eq_finite negative hden hlt
    rw [hfinite]
    rfl
  next hge =>
    rw [Binary64.ofQuotient_eq_infinite negative hden (not_lt.1 hge)]
    rfl

/-- An integer has a double, or it is too large. -/
theorem finite_ofInt (i : Int) : Doc.finite (.ofInt i) =
    if i.natAbs < Binary64.overflowSize then .ok (Binary64.ofInt i).toRat
    else .error .tooLarge := by
  rw [Binary64.ofInt, finite_ofQuotient (decide (i < 0)) Nat.one_pos]
  simp only [Nat.cast_one, div_one, Nat.cast_lt]

/-! ### Numbers that are read -/

namespace Binary64

theorem isDouble_neg (x : Binary64) : x.neg.isDouble = x.isDouble := by
  cases x <;> rfl

/-- A mantissa with at most one digit too many, and with too few at the least exponent only. -/
theorem isDouble_settle (negative : Bool) {m : ℕ} {e : ℤ} (hle : m ≤ 2 ^ 53) (hleast : -1074 ≤ e)
    (hnormal : 2 ^ 52 ≤ m ∨ e = -1074) : (settle negative m e).isDouble = true := by
  have hfinite : ∀ n f, 0 < n → n < 2 ^ 53 → -1074 ≤ f → (2 ^ 52 ≤ n ∨ f = -1074) →
      (if 971 < f then Binary64.infinite negative else .finite negative n f).isDouble = true := by
    intro n f hpos hlt hf hnorm
    split
    next => rfl
    next htop => exact isDouble_finite_iff.2 (Or.inr ⟨hpos, hlt, hf, not_lt.1 htop, hnorm⟩)
  rw [settle]
  by_cases hover : m = 2 ^ 53
  · rw [if_pos hover]
    dsimp only
    rw [if_neg (Nat.two_pow_pos 52).ne']
    exact hfinite _ _ (by decide) (by decide) (by omega) (Or.inl le_rfl)
  · rw [if_neg hover]
    dsimp only
    split
    next hzero => exact isDouble_finite_iff.2 (Or.inl ⟨rfl, rfl⟩)
    next hpos => exact hfinite m e (by omega) (by omega) hleast hnormal

theorem isDouble_ofQuotient (negative : Bool) (num : ℕ) {den : ℕ} (hden : 0 < den) :
    (ofQuotient negative num den).isDouble = true := by
  rcases Nat.eq_zero_or_pos num with rfl | hnum
  · rfl
  have hunit := unitExponent_isUnit hnum hden
  generalize unitExponent num den = e at hunit
  rw [ofQuotient_eq_of_round negative hnum hden hunit rfl]
  have hpow : (0 : ℚ) < 2 ^ e := by positivity
  have hsize : (0 : ℚ) ≤ num / den / 2 ^ e := by positivity
  refine isDouble_settle negative (nearestNat_le hsize ?_) hunit.least ?_
  · have hlt := (div_lt_iff₀ hpow).2 hunit.lt
    push_cast
    linarith
  · refine hunit.normal.imp_left fun hnormal => le_nearestNat ?_
    rw [le_div_iff₀ hpow]
    exact_mod_cast hnormal

theorem isDouble_ofDecimal (negative : Bool) (digits : ℕ) (exponent : ℤ) :
    (ofDecimal negative digits exponent).isDouble = true := by
  unfold ofDecimal
  split
  · rfl
  · dsimp only
    split
    · rfl
    · split
      · rfl
      · split
        · exact isDouble_ofQuotient _ _ Nat.one_pos
        · exact isDouble_ofQuotient _ _ (by positivity)

end Binary64

theorem Numeral.isDouble_of_readFloat? {s : List Char} {x : Binary64}
    (h : Numeral.readFloat? s = some x) : x.isDouble = true := by
  rw [Numeral.readFloat?, Option.bind_eq_bind, Option.bind_eq_some_iff] at h
  obtain ⟨body, -, h⟩ := h
  dsimp only at h
  split at h
  · obtain rfl := Option.some.inj h
    rfl
  · split at h
    · obtain rfl := Option.some.inj h
      rfl
    · obtain ⟨⟨n, e⟩, -, h⟩ := Option.bind_eq_some_iff.1 h
      obtain rfl := Option.some.inj h
      exact Binary64.isDouble_ofDecimal _ _ _

end RepoAtlas
