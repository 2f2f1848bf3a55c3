import RepoAtlas.Proofs.Number.Overflow
import RepoAtlas.Proofs.Number.ReadsBack

/-!
Rounding to a double keeps the order of numbers, as long as they are not too large, and leaves
doubles as they are. So a score that is rounded half up stays between whole bounds.
-/
namespace RepoAtlas

namespace Binary64

/-! ### Mantissas -/

theorem nearestNat_mono {q r : ℚ} (hq : 0 ≤ q) (h : q ≤ r) : nearestNat q ≤ nearestNat r := by
  have hfloor : ⌊q⌋₊ ≤ ⌊r⌋₊ := Nat.floor_mono h
  rcases hfloor.lt_or_eq with hlt | heq
  · have hup : nearestNat q ≤ ⌊q⌋₊ + 1 := by
      rw [nearestNat]
      split_ifs <;> omega
    have hdown : ⌊r⌋₊ ≤ nearestNat r := le_nearestNat (Nat.floor_le (hq.trans h))
    omega
  · -- on one interval the tie is decided the same way
    rw [nearestNat, nearestNat, heq]
    split_ifs <;> first | omega | (exfalso; linarith)

theorem toRat_finite (m : ℕ) (e : ℤ) : (Binary64.finite false m e).toRat = m * 2 ^ e := by
  rw [← quotient_value]
  rfl

/-- Moving a digit into the exponent does not change the value. -/
theorem toRat_settle {m : ℕ} {e : ℤ} (h : ∃ n f, settle false m e = .finite false n f) :
    (settle false m e).toRat = m * 2 ^ e := by
  obtain ⟨n, f, h⟩ := h
  rw [settle] at h ⊢
  by_cases hover : m = 2 ^ 53
  · rw [if_pos hover] at h ⊢
    dsimp only at h ⊢
    rw [if_neg (Nat.two_pow_pos 52).ne'] at h ⊢
    split at h
    · cases h
    next hin =>
      rw [if_neg hin, toRat_finite, hover, zpow_add_one₀ (by norm_num)]
      push_cast
      ring
  · rw [if_neg hover] at h ⊢
    dsimp only at h ⊢
    split at h
    next hzero =>
      rw [if_pos hzero, hzero, toRat_finite, Nat.cast_zero, zero_mul, zero_mul]
    next hpos =>
      split at h
      · cases h
      next hin => rw [if_neg hpos, if_neg hin, toRat_finite]

end Binary64

open Binary64

theorem two_le_topUnit : 2 ≤ topUnit := by
  have hpow : (2 : ℚ) ^ (1 : ℤ) ≤ 2 ^ (971 : ℤ) := zpow_le_zpow_right₀ (by norm_num) (by norm_num)
  rwa [zpow_one] at hpow

theorem lt_overflowSize {q : ℚ} (h : q ≤ 2 ^ 53) : q < overflowSize := by
  have htop := two_le_topUnit
  rw [overflowSize_cast]
  linarith

/-! ### Rounding and order -/

theorem exists_isUnit {q : ℚ} (hq : 0 < q) : ∃ e, IsUnit q e := by
  have hnum : 0 < q.num.natAbs := Int.natAbs_pos.2 (Rat.num_pos.2 hq).ne'
  have hvalue : (q.num.natAbs : ℚ) / q.den = q :=
    (natAbs_num_div_den q).trans (abs_of_pos hq)
  exact ⟨_, hvalue ▸ unitExponent_isUnit hnum q.den_pos⟩

theorem nearest_zero : nearest 0 = 0 := by
  decide +kernel

/-- A number is rounded to a whole number of its units. -/
theorem nearest_eq {q : ℚ} {e : ℤ} (hq : 0 < q) (hsmall : q < overflowSize) (hunit : IsUnit q e) :
    nearest q = nearestNat (q / 2 ^ e) * 2 ^ e := by
  have hnum : 0 < q.num.natAbs := Int.natAbs_pos.2 (Rat.num_pos.2 hq).ne'
  have hsign : decide (q.num < 0) = false := decide_eq_false (not_lt.2 (Rat.num_pos.2 hq).le)
  have hvalue : (q.num.natAbs : ℚ) / q.den = q :=
    (natAbs_num_div_den q).trans (abs_of_pos hq)
  have hbound : (q.num.natAbs : ℚ) / q.den < (2 ^ 53 - 1 / 2) * topUnit := by
    rw [hvalue, ← overflowSize_cast]
    exact hsmall
  have hfinite := ofQuotient_eq_finite false q.den_pos hbound
  have hround : ofQuotient false q.num.natAbs q.den = settle false (nearestNat (q / 2 ^ e)) e :=
    ofQuotient_eq_of_round false hnum q.den_pos (hvalue.symm ▸ hunit) (by rw [hvalue])
  rw [hround] at hfinite
  rw [nearest, hsign, hround]
  exact toRat_settle hfinite

theorem nearest_nonneg {q : ℚ} (hq : 0 ≤ q) (hsmall : q < overflowSize) : 0 ≤ nearest q := by
  rcases hq.lt_or_eq with hpos | rfl
  · obtain ⟨e, hunit⟩ := exists_isUnit hpos
    rw [nearest_eq hpos hsmall hunit]
    exact mul_nonneg (Nat.cast_nonneg _) (zpow_nonneg (by norm_num) e)
  · exact nearest_zero.ge

/-- Rounding keeps the order of numbers. -/
theorem nearest_mono {q r : ℚ} (hq : 0 ≤ q) (h : q ≤ r) (hsmall : r < overflowSize) :
    nearest q ≤ nearest r := by
  rcases hq.lt_or_eq with hpos | rfl
  · obtain ⟨e, he⟩ := exists_isUnit hpos
    obtain ⟨f, hf⟩ := exists_isUnit (hpos.trans_le h)
    rw [nearest_eq hpos (h.trans_lt hsmall) he, nearest_eq (hpos.trans_le h) hsmall hf]
    rcases (he.mono h hf).lt_or_eq with hlt | rfl
    · -- between the two stands a power of two
      have hup : nearestNat (q / 2 ^ e) ≤ 2 ^ 53 := by
        have hbound := (div_lt_iff₀ (by positivity)).2 he.lt
        apply nearestNat_le (by positivity)
        push_cast
        linarith
      have hdown : 2 ^ 52 ≤ nearestNat (r / 2 ^ f) := by
        have hbound := hf.normal.resolve_right (by have := he.least; omega)
        apply le_nearestNat
        rw [le_div_iff₀ (by positivity)]
        exact_mod_cast hbound
      have hstep : (2 : ℚ) ^ (e + 1) ≤ 2 ^ f := zpow_le_zpow_right₀ (by norm_num) (by omega)
      rw [zpow_add_one₀ (by norm_num)] at hstep
      calc (nearestNat (q / 2 ^ e) : ℚ) * 2 ^ e
          ≤ 2 ^ 53 * 2 ^ e := mul_le_mul_of_nonneg_right (by exact_mod_cast hup) (by positivity)
        _ = 2 ^ 52 * (2 ^ e * 2) := by ring
        _ ≤ 2 ^ 52 * 2 ^ f := mul_le_mul_of_nonneg_left hstep (by positivity)
        _ ≤ nearestNat (r / 2 ^ f) * 2 ^ f :=
          mul_le_mul_of_nonneg_right (by exact_mod_cast hdown) (by positivity)
    · have hmantissa : nearestNat (q / 2 ^ e) ≤ nearestNat (r / 2 ^ e) :=
        nearestNat_mono (by positivity) (div_le_div_of_nonneg_right h (by positivity))
      exact mul_le_mul_of_nonneg_right (by exact_mod_cast hmantissa) (by positivity)
  · rw [nearest_zero]
    exact nearest_nonneg h hsmall

/-- A number with few enough digits is a double. -/
theorem nearest_of_units {k : ℕ} {e : ℤ} (hk : k < 2 ^ 53) (he : -1074 ≤ e)
    (hsmall : (k : ℚ) * 2 ^ e < overflowSize) : nearest (k * 2 ^ e) = k * 2 ^ e := by
  rcases Nat.eq_zero_or_pos k with rfl | hpos
  · rw [Nat.cast_zero, zero_mul, nearest_zero]
  have hvalue : (0 : ℚ) < k * 2 ^ e := by positivity
  obtain ⟨f, hunit⟩ := exists_isUnit hvalue
  have hfe : f ≤ e := by
    rcases hunit.normal with hnormal | hleast
    · by_contra hlt
      have hstep : (2 : ℚ) ^ (e + 1) ≤ 2 ^ f := zpow_le_zpow_right₀ (by norm_num) (by omega)
      rw [zpow_add_one₀ (by norm_num)] at hstep
      have hdigits : (k : ℚ) * 2 ^ e < 2 ^ 53 * 2 ^ e :=
        mul_lt_mul_of_pos_right (by exact_mod_cast hk) (by positivity)
      linarith
    · omega
  obtain ⟨n, hn⟩ := Int.eq_ofNat_of_zero_le (sub_nonneg.2 hfe)
  have hwhole : (k : ℚ) * 2 ^ e / 2 ^ f = (k * 2 ^ n : ℕ) := by
    rw [mul_div_assoc, ← zpow_sub₀ (by norm_num), hn]
    push_cast
    rfl
  have hround : nearestNat ((k * 2 ^ n : ℕ) : ℚ) = k * 2 ^ n :=
    nearestNat_eq (by positivity) (by linarith) (by linarith)
  rw [nearest_eq hvalue hsmall hunit, hwhole, hround, ← hwhole,
    div_mul_cancel₀ _ (by positivity)]

/-- The double of a number is further below the bound than one half. -/
theorem nearest_lt {q : ℚ} (hq : 0 ≤ q) (hsmall : q < overflowSize) :
    nearest q + 1 / 2 < overflowSize := by
  have htop := two_le_topUnit
  have hlargest : (2 ^ 53 - 1) * topUnit + 1 / 2 < overflowSize := by
    rw [overflowSize_cast]
    linarith
  have hdouble : ((2 ^ 53 - 1 : ℕ) : ℚ) * 2 ^ (971 : ℤ) = (2 ^ 53 - 1) * topUnit := by
    rw [topUnit]
    norm_num
  -- the largest double is half a unit below the bound
  by_cases hbelow : q ≤ (2 ^ 53 - 1) * topUnit
  · have hmono := nearest_mono hq hbelow (by linarith)
    rw [← hdouble, nearest_of_units (by norm_num) (by norm_num) (by rw [hdouble]; linarith),
      hdouble] at hmono
    linarith
  · rw [not_le] at hbelow
    have hunit : IsUnit q 971 := by
      rw [overflowSize_cast] at hsmall
      refine ⟨?_, by norm_num, Or.inl ?_⟩
      · rw [← topUnit]
        linarith
      · rw [← topUnit]
        linarith
    have hpos : 0 < q := lt_trans (by linarith) hbelow
    have hmantissa : nearestNat (q / 2 ^ (971 : ℤ)) ≤ 2 ^ 53 - 1 := by
      apply nearestNat_le (by positivity)
      rw [div_lt_iff₀ (by positivity), ← topUnit]
      rw [overflowSize_cast] at hsmall
      push_cast
      linarith
    rw [nearest_eq hpos hsmall hunit]
    have hle : (nearestNat (q / 2 ^ (971 : ℤ)) : ℚ) * 2 ^ (971 : ℤ) ≤ (2 ^ 53 - 1) * topUnit := by
      rw [← hdouble]
      exact mul_le_mul_of_nonneg_right (by exact_mod_cast hmantissa) (by positivity)
    linarith

/-! ### Half up -/

theorem roundHalfUp_mono {q r : ℚ} (hq : 0 ≤ q) (h : q ≤ r) (hsmall : r + 1 / 2 < overflowSize) :
    roundHalfUp q ≤ roundHalfUp r := by
  rw [roundHalfUp, roundHalfUp]
  exact Rat.floor_monotone (nearest_mono (by linarith) (by linarith) hsmall)

theorem nearest_natCast {n : ℕ} (hn : n < 2 ^ 52) : nearest n = n := by
  have hsmall : (n : ℚ) ≤ 2 ^ 52 := by exact_mod_cast hn.le
  have h := nearest_of_units (k := n) (e := 0) (by omega) (by norm_num)
    (lt_overflowSize (by rw [zpow_zero, mul_one]; linarith))
  rwa [zpow_zero, mul_one] at h

theorem roundHalfUp_natCast {n : ℕ} (hn : n < 2 ^ 51) : roundHalfUp n = n := by
  have hhalf : (n : ℚ) + 1 / 2 = (2 * n + 1 : ℕ) * 2 ^ (-1 : ℤ) := by
    push_cast
    rw [zpow_neg_one]
    ring
  have hle : (n : ℚ) ≤ 2 ^ 51 := by exact_mod_cast hn.le
  have hsmall : (n : ℚ) + 1 / 2 < overflowSize := lt_overflowSize (by linarith)
  have hexact : nearest ((n : ℚ) + 1 / 2) = n + 1 / 2 := by
    rw [hhalf]
    exact nearest_of_units (by omega) (by norm_num) (hhalf ▸ hsmall)
  rw [roundHalfUp, hexact]
  apply le_antisymm
  · rw [← Int.lt_add_one_iff, Rat.floor_lt_iff]
    push_cast
    linarith
  · rw [Rat.le_floor_iff]
    push_cast
    linarith

/-- A number between whole bounds is rounded to one between them. -/
theorem roundHalfUp_bounds {q : ℚ} {low high : ℕ} (hhigh : high < 2 ^ 51) (hlow : (low : ℚ) ≤ q)
    (hq : q ≤ high) :
    (low : ℤ) ≤ roundHalfUp (nearest q) ∧ roundHalfUp (nearest q) ≤ high := by
  have hle : low ≤ high := by exact_mod_cast hlow.trans hq
  have hcast : (high : ℚ) ≤ 2 ^ 51 := by exact_mod_cast hhigh.le
  have hsmall : (high : ℚ) + 1 / 2 < overflowSize := lt_overflowSize (by linarith)
  have hbelow := nearest_mono (Nat.cast_nonneg low) hlow (by linarith)
  have habove := nearest_mono ((Nat.cast_nonneg low).trans hlow) hq (by linarith)
  rw [nearest_natCast (by omega)] at hbelow habove
  constructor
  · rw [← roundHalfUp_natCast (n := low) (by omega)]
    exact roundHalfUp_mono (Nat.cast_nonneg low) hbelow (by linarith)
  · rw [← roundHalfUp_natCast (n := high) hhigh]
    exact roundHalfUp_mono ((Nat.cast_nonneg low).trans hbelow) habove hsmall

end RepoAtlas
