import RepoAtlas.Number.Shortest
import RepoAtlas.Proofs.Number.Rounding

/-!
The shortest decimal of a double reads back as that double: of the two neighbours with 17 digits
the nearer one does, so the search ends with a hit.
-/
namespace RepoAtlas.Binary64

/-! ### Decimals as quotients

A decimal of ordinary size rounds as the quotient it stands for. The size is told from the number
of binary digits, at 30103 decimal digits for 100000 binary ones.
-/

/-- How the sizes of powers of two are told; the range covers every double. -/
theorem two_pow_decimal_size : ∀ n < 1200,
    10 ^ (n * 30103 / 100000) ≤ 2 * 2 ^ n ∧ 2 ^ n ≤ 10 ^ (n * 30103 / 100000 + 1) := by
  decide +kernel

theorem decimal_size_le {n : ℕ} (h : n < 1200) :
    (10 : ℚ) ^ ((n * 30103 / 100000 : ℕ) : ℤ) ≤ 2 * 2 ^ (n : ℤ) := by
  rw [zpow_natCast, zpow_natCast]
  exact_mod_cast (two_pow_decimal_size n h).1

theorem le_decimal_size {n : ℕ} (h : n < 1200) :
    (2 : ℚ) ^ (n : ℤ) ≤ 10 ^ ((n * 30103 / 100000 : ℕ) + 1 : ℤ) := by
  have hnat := (two_pow_decimal_size n h).2
  generalize n * 30103 / 100000 = c at *
  rw [← Nat.cast_add_one, zpow_natCast, zpow_natCast]
  exact_mod_cast hnat

/-- A decimal as a quotient of natural numbers. -/
theorem ofDecimal_quotient (negative : Bool) {digits num den : ℕ} (p : ℤ) (hden : 0 < den) :
    (digits : ℚ) * 10 ^ p = num / den →
    (match p with
      | .ofNat e => ofQuotient negative (digits * 10 ^ e) 1
      | .negSucc e => ofQuotient negative digits (10 ^ (e + 1))) = ofQuotient negative num den := by
  intro hvalue
  cases p with
  | ofNat e =>
    apply ofQuotient_congr negative Nat.one_pos hden
    rw [← hvalue]
    push_cast
    simp
  | negSucc e =>
    apply ofQuotient_congr negative (Nat.pow_pos (by norm_num)) hden
    rw [← hvalue, zpow_negSucc]
    push_cast
    rw [div_eq_mul_inv]

/-- Between these sizes nothing is answered without the power. -/
theorem ofDecimal_eq_ofQuotient (negative : Bool) {digits num den : ℕ} {p : ℤ}
    (hpos : 0 < digits) (hlog : digits.log2 + 1 < 1200) (hden : 0 < den)
    (hvalue : (digits : ℚ) * 10 ^ p = num / den) (hlow : (10 : ℚ) ^ (-340 : ℤ) ≤ num / den)
    (hhigh : (num : ℚ) / den < 10 ^ (320 : ℤ)) :
    ofDecimal negative digits p = ofQuotient negative num den := by
  have hsize : ((digits.log2 : ℤ) + 1) * 30103 / 100000 =
      (((digits.log2 + 1) * 30103 / 100000 : ℕ) : ℤ) := by
    push_cast
    rfl
  have hle := decimal_size_le hlog
  have hge := le_decimal_size hlog
  have hfrom := two_pow_log2_le hpos
  have hto := lt_two_pow_log2 digits
  have hten : (0 : ℚ) < 10 ^ p := by positivity
  rw [Nat.cast_add_one, zpow_add_one₀ (by norm_num)] at hle hge
  unfold ofDecimal
  rw [if_neg hpos.ne']
  dsimp only
  rw [hsize]
  generalize (digits.log2 + 1) * 30103 / 100000 = k at *
  rw [if_neg, if_neg]
  · exact ofDecimal_quotient negative p hden hvalue
  · intro hlt
    have hsmall : (10 : ℚ) ^ ((k : ℤ) + 1) * 10 ^ p ≤ 10 ^ (-349 : ℤ) := by
      rw [← zpow_add₀ (by norm_num)]
      exact zpow_le_zpow_right₀ (by norm_num) (by omega)
    have hbound : (digits : ℚ) * 10 ^ p ≤ 10 ^ (-349 : ℤ) := by
      refine le_trans (mul_le_mul_of_nonneg_right ?_ hten.le) hsmall
      linarith
    have hstrict : (10 : ℚ) ^ (-349 : ℤ) < 10 ^ (-340 : ℤ) :=
      zpow_lt_zpow_right₀ (by norm_num) (by norm_num)
    linarith
  · intro hlt
    have hlarge : (10 : ℚ) ^ (330 : ℤ) ≤ 10 ^ ((k : ℤ) - 1) * 10 ^ p := by
      rw [← zpow_add₀ (by norm_num)]
      exact zpow_le_zpow_right₀ (by norm_num) (by omega)
    have hbound : (10 : ℚ) ^ ((k : ℤ) - 1) * 10 ^ p ≤ digits * 10 ^ p := by
      refine mul_le_mul_of_nonneg_right ?_ hten.le
      rw [zpow_sub_one₀ (by norm_num)]
      linarith
    have hstrict : (10 : ℚ) ^ (320 : ℤ) < 10 ^ (330 : ℤ) :=
      zpow_lt_zpow_right₀ (by norm_num) (by norm_num)
    rw [hvalue] at hbound
    exact absurd hhigh (not_lt.2 (hstrict.le.trans (hlarge.trans hbound)))

/-! ### Doubles as quotients -/

theorem quotient_den_pos (m : ℕ) (e : ℤ) : 0 < (quotient m e).2 := by
  cases e with
  | ofNat k => exact Nat.one_pos
  | negSucc k => exact Nat.two_pow_pos (k + 1)

theorem quotient_value (m : ℕ) (e : ℤ) :
    ((quotient m e).1 : ℚ) / (quotient m e).2 = m * 2 ^ e := by
  cases e with
  | ofNat k => simp [quotient]
  | negSucc k =>
    simp only [quotient, zpow_negSucc]
    push_cast
    rw [div_eq_mul_inv]

/-! ### Where the point stands -/

theorem below_iff (num : ℕ) {den : ℕ} (hden : 0 < den) (k : ℤ) :
    (match k with
      | .ofNat e => decide (num < den * 10 ^ e)
      | .negSucc e => decide (num * 10 ^ (e + 1) < den)) = true ↔ (num : ℚ) / den < 10 ^ k := by
  have hd : (0 : ℚ) < den := by exact_mod_cast hden
  cases k with
  | ofNat e =>
    rw [decide_eq_true_iff, div_lt_iff₀ hd, mul_comm, Int.ofNat_eq_natCast, zpow_natCast]
    exact_mod_cast Iff.rfl
  | negSucc e =>
    have hp : (0 : ℚ) < 10 ^ (e + 1) := by positivity
    rw [decide_eq_true_iff, div_lt_iff₀ hd, zpow_negSucc, inv_mul_eq_div, lt_div_iff₀ hp]
    exact_mod_cast Iff.rfl

theorem guess_bounds_of_nat {n : ℕ} (hn : n < 1200) :
    (10 : ℚ) ^ ((n : ℤ) * 30103 / 100000 - 2) ≤ 2 ^ (n : ℤ) / 2 ∧
      2 * 2 ^ (n : ℤ) ≤ (10 : ℚ) ^ ((n : ℤ) * 30103 / 100000 + 2) := by
  have hle := decimal_size_le hn
  have hge := le_decimal_size hn
  have hcast : (n : ℤ) * 30103 / 100000 = ((n * 30103 / 100000 : ℕ) : ℤ) := by
    push_cast
    rfl
  rw [hcast]
  generalize n * 30103 / 100000 = c at *
  rw [zpow_add_one₀ (by norm_num)] at hge
  rw [zpow_sub₀ (by norm_num), zpow_add₀ (by norm_num)]
  constructor
  · rw [div_le_iff₀ (by positivity)]
    norm_num at hle ⊢
    linarith [show (0 : ℚ) < 2 ^ n by positivity]
  · norm_num at hge ⊢
    linarith [show (0 : ℚ) < 10 ^ c by positivity]

theorem guess_bounds_of_neg {n : ℕ} (hn : n < 1200) :
    (10 : ℚ) ^ (-(n : ℤ) * 30103 / 100000 - 2) ≤ 2 ^ (-(n : ℤ)) / 2 ∧
      2 * 2 ^ (-(n : ℤ)) ≤ (10 : ℚ) ^ (-(n : ℤ) * 30103 / 100000 + 2) := by
  have hle := decimal_size_le hn
  have hge := le_decimal_size hn
  have hguess : -((n * 30103 / 100000 : ℕ) : ℤ) - 1 ≤ -(n : ℤ) * 30103 / 100000 ∧
      -(n : ℤ) * 30103 / 100000 ≤ -((n * 30103 / 100000 : ℕ) : ℤ) := by
    omega
  generalize n * 30103 / 100000 = c at *
  generalize -(n : ℤ) * 30103 / 100000 = g at *
  have htwo : (0 : ℚ) < 2 ^ (n : ℤ) := by positivity
  have hten : (0 : ℚ) < 10 ^ (c : ℤ) := by positivity
  have hinv : (2 : ℚ) ^ (-(n : ℤ)) = 1 / 2 ^ (n : ℤ) := by rw [zpow_neg, one_div]
  rw [zpow_add_one₀ (by norm_num)] at hge
  rw [hinv]
  constructor
  · calc (10 : ℚ) ^ (g - 2) ≤ 10 ^ (-(c : ℤ) - 2) :=
          zpow_le_zpow_right₀ (by norm_num) (by omega)
      _ = 1 / (10 ^ (c : ℤ) * 100) := by
          rw [zpow_sub₀ (by norm_num), zpow_neg]
          norm_num
          ring
      _ ≤ 1 / 2 ^ (n : ℤ) / 2 := by
          rw [div_div]
          apply one_div_le_one_div_of_le (by positivity)
          linarith
  · calc 2 * (1 / 2 ^ (n : ℤ)) ≤ 10 * (1 / (10 : ℚ) ^ (c : ℤ)) := by
          rw [mul_one_div, mul_one_div, div_le_div_iff₀ htwo hten]
          linarith
      _ = 10 ^ (-(c : ℤ) + 1) := by
          rw [zpow_add_one₀ (by norm_num), zpow_neg]
          ring
      _ ≤ 10 ^ (g + 2) := zpow_le_zpow_right₀ (by norm_num) (by omega)

/-- The guess at the decimal size of a power of two is off by little. -/
theorem guess_bounds {k : ℤ} (h : k.natAbs < 1200) :
    (10 : ℚ) ^ (k * 30103 / 100000 - 2) ≤ 2 ^ k / 2 ∧
      2 * 2 ^ k ≤ (10 : ℚ) ^ (k * 30103 / 100000 + 2) := by
  obtain ⟨n, rfl | rfl⟩ := k.eq_nat_or_neg
  · exact guess_bounds_of_nat (by omega)
  · exact guess_bounds_of_neg (by omega)

/-- Three steps around the guess find the least power of ten above a value. -/
theorem least_power_bounds {q : ℚ} {below : ℤ → Bool} {g : ℤ}
    (hbelow : ∀ k, below k = true ↔ q < 10 ^ k) (hfrom : (10 : ℚ) ^ (g - 2) ≤ q)
    (hto : q < 10 ^ (g + 2)) {k : ℤ}
    (hk : (if below (g - 1) then g - 1 else if below g then g
      else if below (g + 1) then g + 1 else g + 2) = k) : 10 ^ (k - 1) ≤ q ∧ q < 10 ^ k := by
  simp only [hbelow] at hk
  subst hk
  split
  next h => exact ⟨by rwa [sub_sub], h⟩
  next h1 =>
    rw [not_lt] at h1
    split
    next h => exact ⟨h1, h⟩
    next h2 =>
      rw [not_lt] at h2
      split
      next h => exact ⟨by rwa [add_sub_cancel_right], h⟩
      next h3 =>
        rw [not_lt] at h3
        exact ⟨by rwa [show g + 2 - 1 = g + 1 by ring], hto⟩

theorem pointPosition_bounds {num den : ℕ} (hnum : 0 < num) (hden : 0 < den)
    (hsize : ((num.log2 : ℤ) - den.log2).natAbs < 1200) :
    (10 : ℚ) ^ (pointPosition num den - 1) ≤ num / den ∧
      (num : ℚ) / den < 10 ^ pointPosition num den := by
  obtain ⟨hlow, hhigh⟩ := quotient_bounds hnum hden
  obtain ⟨hfrom, hto⟩ := guess_bounds hsize
  exact least_power_bounds (below_iff num hden) (by linarith) (by linarith) rfl

/-! ### The size of a double -/

theorem IsCanonical.log2_lt {m : ℕ} {e : ℤ} (h : IsCanonical m e) :
    (((quotient m e).1.log2 : ℤ) - (quotient m e).2.log2).natAbs < 1200 := by
  have hleast := h.least
  have hgreatest := h.greatest
  cases e with
  | ofNat k =>
    have hlog : (m * 2 ^ k).log2 < 53 + k := by
      rw [Nat.log2_lt (Nat.mul_pos h.pos (Nat.two_pow_pos k)).ne', pow_add]
      exact Nat.mul_lt_mul_of_pos_right h.lt (Nat.two_pow_pos k)
    simp only [Int.ofNat_eq_natCast] at hgreatest
    simp only [quotient]
    rw [show Nat.log2 1 = 0 from rfl]
    omega
  | negSucc k =>
    have hlog : m.log2 < 53 := (Nat.log2_lt h.pos.ne').2 h.lt
    simp only [quotient]
    rw [Nat.log2_two_pow]
    omega

theorem IsCanonical.value_bounds {m : ℕ} {e : ℤ} (h : IsCanonical m e) :
    (10 : ℚ) ^ (-330 : ℤ) ≤ m * 2 ^ e ∧ (m : ℚ) * 2 ^ e ≤ 10 ^ (310 : ℤ) := by
  have hpow : (0 : ℚ) < 2 ^ e := by positivity
  constructor
  · have hsize := le_decimal_size (n := 1074) (by norm_num)
    calc (10 : ℚ) ^ (-330 : ℤ) ≤ 10 ^ (-(((1074 * 30103 / 100000 : ℕ) : ℤ) + 1)) :=
          zpow_le_zpow_right₀ (by norm_num) (by norm_num)
      _ ≤ 2 ^ (-((1074 : ℕ) : ℤ)) := by
          rw [zpow_neg, zpow_neg]
          exact inv_anti₀ (by positivity) hsize
      _ ≤ 2 ^ e := zpow_le_zpow_right₀ (by norm_num) (by exact_mod_cast h.least)
      _ ≤ m * 2 ^ e := le_mul_of_one_le_left hpow.le (by exact_mod_cast h.pos)
  · have hsize := le_decimal_size (n := 1024) (by norm_num)
    have hm : (m : ℚ) ≤ 2 ^ (53 : ℤ) := by exact_mod_cast h.lt.le
    calc (m : ℚ) * 2 ^ e ≤ 2 ^ (53 : ℤ) * 2 ^ e := mul_le_mul_of_nonneg_right hm hpow.le
      _ = 2 ^ (53 + e) := by rw [zpow_add₀ (by norm_num)]
      _ ≤ 2 ^ ((1024 : ℕ) : ℤ) := by
          have := h.greatest
          exact zpow_le_zpow_right₀ (by norm_num) (by push_cast; omega)
      _ ≤ 10 ^ (((1024 * 30103 / 100000 : ℕ) : ℤ) + 1) := hsize
      _ ≤ 10 ^ (310 : ℤ) := zpow_le_zpow_right₀ (by norm_num) (by norm_num)

/-! ### Decimals that read back -/

theorem exists_quotient (digits : ℕ) (p : ℤ) :
    ∃ num den : ℕ, 0 < den ∧ (digits : ℚ) * 10 ^ p = num / den := by
  cases p with
  | ofNat k => exact ⟨digits * 10 ^ k, 1, Nat.one_pos, by push_cast; simp⟩
  | negSucc k =>
    refine ⟨digits, 10 ^ (k + 1), Nat.pow_pos (by norm_num), ?_⟩
    rw [zpow_negSucc]
    push_cast
    rw [div_eq_mul_inv]

theorem log2_lt_of_le {n : ℕ} (hpos : 0 < n) (h : n ≤ 10 ^ 17) : n.log2 + 1 < 1200 := by
  have hlog : n.log2 < 57 := by
    rw [Nat.log2_lt hpos.ne']
    exact lt_of_le_of_lt h (by norm_num)
  omega

/-- A decimal of a double's size rounds as a quotient. -/
theorem IsCanonical.ofDecimal_eq {m n num den : ℕ} {e p : ℤ} (hc : IsCanonical m e)
    (negative : Bool) (hpos : 0 < n) (hn : n ≤ 10 ^ 17) (hden : 0 < den)
    (hvalue : (n : ℚ) * 10 ^ p = num / den) (hlow : (m : ℚ) * 2 ^ e ≤ 2 * (num / den))
    (hhigh : (num : ℚ) / den ≤ 2 * (m * 2 ^ e)) :
    ofDecimal negative n p = ofQuotient negative num den := by
  obtain ⟨hfrom, hto⟩ := hc.value_bounds
  apply ofDecimal_eq_ofQuotient negative hpos (log2_lt_of_le hpos hn) hden hvalue
  · have hstep : (10 : ℚ) ^ (-330 : ℤ) = 10 ^ (-340 : ℤ) * 10 ^ (10 : ℤ) := by
      rw [← zpow_add₀ (by norm_num)]
      norm_num
    have hx : (0 : ℚ) < 10 ^ (-340 : ℤ) := by positivity
    rw [hstep] at hfrom
    generalize (10 : ℚ) ^ (-340 : ℤ) = x at *
    norm_num at hfrom
    linarith only [hfrom, hlow, hx]
  · have hstep : (10 : ℚ) ^ (320 : ℤ) = 10 ^ (310 : ℤ) * 10 ^ (10 : ℤ) := by
      rw [← zpow_add₀ (by norm_num)]
      norm_num
    have hx : (0 : ℚ) < 10 ^ (310 : ℤ) := by positivity
    rw [hstep]
    generalize (10 : ℚ) ^ (310 : ℤ) = x at *
    norm_num
    linarith only [hto, hhigh, hx]

/-- A decimal of at most 17 digits that reads back as a positive double, and is of its size. -/
structure Spells (m : ℕ) (e : ℤ) (digits : ℕ) (power : ℤ) : Prop where
  hit : readsBack m e digits power = true
  pos : 0 < digits
  le : digits ≤ 10 ^ 17
  low : (m : ℚ) * 2 ^ e ≤ 2 * (digits * 10 ^ power)
  high : (digits : ℚ) * 10 ^ power ≤ 2 * (m * 2 ^ e)

/-- Every decimal of the same value reads back as the same double, with either sign. -/
theorem Spells.ofDecimal_eq {m digits n : ℕ} {e power p : ℤ} (h : Spells m e digits power)
    (hc : IsCanonical m e) (hn : n ≤ 10 ^ 17) (hvalue : (n : ℚ) * 10 ^ p = digits * 10 ^ power)
    (negative : Bool) : ofDecimal negative n p = .finite negative m e := by
  obtain ⟨num, den, hden, hquot⟩ := exists_quotient digits power
  have hlow := h.low
  have hhigh := h.high
  rw [hquot] at hlow hhigh
  have hnpos : 0 < n := by
    apply Nat.pos_of_ne_zero
    rintro rfl
    have hpos : (0 : ℚ) < digits * 10 ^ power :=
      mul_pos (by exact_mod_cast h.pos) (by positivity)
    rw [← hvalue] at hpos
    simp at hpos
  have hhit : ofDecimal false digits power = .finite false m e := by
    simpa [readsBack] using h.hit
  rw [hc.ofDecimal_eq false h.pos h.le hden hquot hlow hhigh] at hhit
  rw [hc.ofDecimal_eq negative hnpos hn hden (hvalue.trans hquot) hlow hhigh]
  cases negative with
  | false => exact hhit
  | true =>
    rw [ofQuotient_true num hden, hhit]
    rfl

/-- Half a step of a grid with 17 digits is less than half a unit of the last place. -/
theorem readsBack_of_close {m digits : ℕ} {e power : ℤ} (hc : IsCanonical m e)
    (hpos : 0 < digits) (hle : digits ≤ 10 ^ 17) (hfine : (10 : ℚ) ^ power * 10 ^ 16 ≤ m * 2 ^ e)
    (hlow : (m : ℚ) * 2 ^ e ≤ digits * 10 ^ power + 10 ^ power / 2)
    (hhigh : (digits : ℚ) * 10 ^ power ≤ m * 2 ^ e + 10 ^ power / 2) :
    readsBack m e digits power = true := by
  obtain ⟨num, den, hden, hquot⟩ := exists_quotient digits power
  have htwo : (0 : ℚ) < 2 ^ e := by positivity
  have hten : (0 : ℚ) < 10 ^ power := by positivity
  have hm : (m : ℚ) * 2 ^ e ≤ 2 ^ 53 * 2 ^ e :=
    mul_le_mul_of_nonneg_right (by exact_mod_cast hc.lt.le) htwo.le
  rw [hquot] at hlow hhigh
  have hnum : 0 < num := by
    apply Nat.pos_of_ne_zero
    rintro rfl
    have hval : (0 : ℚ) < digits * 10 ^ power := mul_pos (by exact_mod_cast hpos) hten
    rw [hquot] at hval
    simp at hval
  rw [readsBack, hc.ofDecimal_eq false hpos hle hden hquot (by linarith) (by linarith), beq_iff_eq]
  apply ofQuotient_of_near false hnum hden hc
  · linarith
  · intro hm'
    have hmq : (m : ℚ) * 2 ^ e = 2 ^ 52 * 2 ^ e := by
      rw [hm']
      push_cast
      rfl
    linarith
  · linarith

/-! ### The search for the fewest digits -/

theorem decimalScaled_value (num den : ℕ) (p : ℤ) :
    ((decimalScaled num den p).1 : ℚ) / (decimalScaled num den p).2 = num / den / 10 ^ p := by
  cases p with
  | ofNat k => simp [decimalScaled, div_div]
  | negSucc k =>
    simp only [decimalScaled, zpow_negSucc, div_inv_eq_mul]
    push_cast
    ring

/-- The neighbour below on a grid of powers of ten. -/
def lowNeighbour (num den : ℕ) (p : ℤ) : ℕ :=
  (decimalScaled num den p).1 / (decimalScaled num den p).2

theorem lowNeighbour_eq_floor (num den : ℕ) (p : ℤ) :
    lowNeighbour num den p = ⌊(num : ℚ) / den / 10 ^ p⌋₊ := by
  rw [lowNeighbour, ← decimalScaled_value, Nat.floor_div_eq_div]

theorem lowNeighbour_bounds (num den : ℕ) (p : ℤ) :
    (lowNeighbour num den p : ℚ) * 10 ^ p ≤ num / den ∧
      (num : ℚ) / den < (lowNeighbour num den p + 1) * 10 ^ p := by
  have hten : (0 : ℚ) < 10 ^ p := by positivity
  rw [lowNeighbour_eq_floor, ← le_div_iff₀ hten, ← div_lt_iff₀ hten]
  exact ⟨Nat.floor_le (by positivity), Nat.lt_floor_add_one _⟩

/-- One round of the search: a neighbour that reads back, or the next finer grid. -/
theorem shortestFrom_succ (m : ℕ) (e : ℤ) (num den : ℕ) (point : ℤ) (tries count : ℕ) :
    (∃ digits, (digits = lowNeighbour num den (point - count) ∨
        digits = lowNeighbour num den (point - count) + 1) ∧
      readsBack m e digits (point - count) = true ∧
      shortestFrom m e num den point (tries + 1) count = (digits, point - count)) ∨
    (readsBack m e (lowNeighbour num den (point - count)) (point - count) = false ∧
      readsBack m e (lowNeighbour num den (point - count) + 1) (point - count) = false ∧
      shortestFrom m e num den point (tries + 1) count =
        shortestFrom m e num den point tries (count + 1)) := by
  simp only [shortestFrom]
  rw [← lowNeighbour]
  generalize lowNeighbour num den (point - count) = low
  cases hlow : readsBack m e low (point - count) with
  | true =>
    left
    simp only [Bool.true_and]
    split
    · exact ⟨low, Or.inl rfl, hlow, rfl⟩
    next h =>
      have hhigh : readsBack m e (low + 1) (point - count) = true := by
        cases hb : readsBack m e (low + 1) (point - count) with
        | true => rfl
        | false => simp [hb] at h
      rw [if_pos hhigh]
      exact ⟨low + 1, Or.inr rfl, hhigh, rfl⟩
  | false =>
    simp only [Bool.false_and, Bool.false_eq_true, if_false]
    cases hhigh : readsBack m e (low + 1) (point - count) with
    | true => exact Or.inl ⟨low + 1, Or.inr rfl, hhigh, by simp⟩
    | false => exact Or.inr (by simp)

section Search

variable {m : ℕ} {e : ℤ}

/-- The point of a double, for the numerator and the denominator of its size. -/
def pointOf (m : ℕ) (e : ℤ) : ℤ := pointPosition (quotient m e).1 (quotient m e).2

/-- The neighbours of a double on the grid of `count` digits. -/
def lowOf (m : ℕ) (e : ℤ) (count : ℕ) : ℕ :=
  lowNeighbour (quotient m e).1 (quotient m e).2 (pointOf m e - count)

theorem pointOf_bounds (hc : IsCanonical m e) :
    (10 : ℚ) ^ (pointOf m e - 1) ≤ m * 2 ^ e ∧ (m : ℚ) * 2 ^ e < 10 ^ pointOf m e := by
  have hnum : 0 < (quotient m e).1 := by
    cases e with
    | ofNat k => exact Nat.mul_pos hc.pos (Nat.two_pow_pos k)
    | negSucc k => exact hc.pos
  rw [← quotient_value]
  exact pointPosition_bounds hnum (quotient_den_pos m e) hc.log2_lt

theorem lowOf_bounds (m : ℕ) (e : ℤ) (count : ℕ) :
    (lowOf m e count : ℚ) * 10 ^ (pointOf m e - count) ≤ m * 2 ^ e ∧
      (m : ℚ) * 2 ^ e < (lowOf m e count + 1) * 10 ^ (pointOf m e - count) := by
  rw [← quotient_value]
  exact lowNeighbour_bounds _ _ _

/-- The step of a grid, as a part of the double. -/
theorem step_le (hc : IsCanonical m e) (count : ℕ) :
    (10 : ℚ) ^ (pointOf m e - (count + 1 : ℕ)) * 10 ^ count ≤ m * 2 ^ e := by
  rw [← zpow_natCast (10 : ℚ) count, ← zpow_add₀ (by norm_num)]
  refine le_trans (zpow_le_zpow_right₀ (by norm_num) ?_) (pointOf_bounds hc).1
  push_cast
  linarith

theorem lowOf_pos (hc : IsCanonical m e) (count : ℕ) : 0 < lowOf m e (count + 1) := by
  have hstep := step_le hc count
  have hten : (0 : ℚ) < 10 ^ (pointOf m e - (count + 1 : ℕ)) := by positivity
  have hone : (1 : ℚ) ≤ 10 ^ count := one_le_pow₀ (by norm_num)
  apply Nat.pos_of_ne_zero
  intro hzero
  have hup := (lowOf_bounds m e (count + 1)).2
  rw [hzero, Nat.cast_zero, zero_add, one_mul] at hup
  have := le_mul_of_one_le_right hten.le hone
  linarith

theorem lowOf_lt (hc : IsCanonical m e) (count : ℕ) : lowOf m e count < 10 ^ count := by
  have hten : (0 : ℚ) < 10 ^ (pointOf m e - count) := by positivity
  have hlt := (lowOf_bounds m e count).1.trans_lt (pointOf_bounds hc).2
  have hsplit : (10 : ℚ) ^ pointOf m e = 10 ^ count * 10 ^ (pointOf m e - count) := by
    rw [← zpow_natCast, ← zpow_add₀ (by norm_num)]
    congr 1
    ring
  rw [hsplit] at hlt
  exact_mod_cast lt_of_mul_lt_mul_right hlt hten.le

/-- A neighbour that reads back spells the double. -/
theorem spells_of_neighbour (hc : IsCanonical m e) {count digits : ℕ} (hcount : count < 17)
    (hd : digits = lowOf m e (count + 1) ∨ digits = lowOf m e (count + 1) + 1)
    (hit : readsBack m e digits (pointOf m e - (count + 1 : ℕ)) = true) :
    Spells m e digits (pointOf m e - (count + 1 : ℕ)) := by
  obtain ⟨hdown, hup⟩ := lowOf_bounds m e (count + 1)
  have hstep := step_le hc count
  have hlt := lowOf_lt hc (count + 1)
  have hpos := lowOf_pos hc count
  have hone : (1 : ℚ) ≤ 10 ^ count := one_le_pow₀ (by norm_num)
  have hmax : 10 ^ (count + 1) ≤ 10 ^ 17 := Nat.pow_le_pow_right (by norm_num) hcount
  generalize lowOf m e (count + 1) = low at *
  have hten : (0 : ℚ) < 10 ^ (pointOf m e - (count + 1 : ℕ)) := by positivity
  generalize hs : (10 : ℚ) ^ (pointOf m e - (count + 1 : ℕ)) = step at *
  have hsmall : step ≤ m * 2 ^ e := (le_mul_of_one_le_right hten.le hone).trans hstep
  have hlow : step ≤ low * step := le_mul_of_one_le_left hten.le (by exact_mod_cast hpos)
  rw [add_mul, one_mul] at hup
  rcases hd with rfl | rfl
  · refine ⟨hit, hpos, hlt.le.trans hmax, ?_, ?_⟩
    · rw [hs]
      linarith
    · rw [hs]
      linarith
  · refine ⟨hit, Nat.succ_pos _, (Nat.succ_le_of_lt hlt).trans hmax, ?_, ?_⟩
    · rw [hs, Nat.cast_add_one]
      linarith
    · rw [hs, Nat.cast_add_one]
      linarith

/-- On the finest grid the nearer neighbour reads back. -/
theorem readsBack_finest (hc : IsCanonical m e) :
    readsBack m e (lowOf m e 17) (pointOf m e - 17) = true ∨
      readsBack m e (lowOf m e 17 + 1) (pointOf m e - 17) = true := by
  obtain ⟨hdown, hup⟩ := lowOf_bounds m e 17
  have hfine := step_le hc 16
  have hlt := lowOf_lt hc 17
  have hpos := lowOf_pos hc 16
  norm_num only [Nat.cast_ofNat] at hdown hup hfine hpos
  rw [add_mul, one_mul] at hup
  by_cases hhalf : (m : ℚ) * 2 ^ e ≤ lowOf m e 17 * 10 ^ (pointOf m e - 17) +
      10 ^ (pointOf m e - 17) / 2
  · left
    have hten : (0 : ℚ) < 10 ^ (pointOf m e - 17) := by positivity
    exact readsBack_of_close hc hpos hlt.le (by linarith) hhalf (by linarith)
  · right
    rw [not_le] at hhalf
    refine readsBack_of_close hc (Nat.succ_pos _) hlt (by linarith) ?_ ?_
    · push_cast
      linarith
    · push_cast
      linarith

theorem shortestFrom_spells (hc : IsCanonical m e) (tries : ℕ) :
    ∀ count, tries + count = 16 → ∃ digits power, Spells m e digits power ∧
      shortestFrom m e (quotient m e).1 (quotient m e).2 (pointOf m e) (tries + 1) (count + 1) =
        (digits, power) := by
  induction tries with
  | zero =>
    intro count hcount
    obtain rfl : count = 16 := by omega
    rcases shortestFrom_succ m e (quotient m e).1 (quotient m e).2 (pointOf m e) 0 (16 + 1) with
      ⟨digits, hd, hit, heq⟩ | ⟨hlow, hhigh, -⟩
    · exact ⟨digits, _, spells_of_neighbour hc (by norm_num) hd hit, heq⟩
    · rcases readsBack_finest hc with hit | hit
      · exact absurd (hit.symm.trans hlow) (by simp)
      · exact absurd (hit.symm.trans hhigh) (by simp)
  | succ tries ih =>
    intro count hcount
    rcases shortestFrom_succ m e (quotient m e).1 (quotient m e).2 (pointOf m e) (tries + 1)
      (count + 1) with ⟨digits, hd, hit, heq⟩ | ⟨-, -, heq⟩
    · exact ⟨digits, _, spells_of_neighbour hc (by omega) hd hit, heq⟩
    · rw [heq]
      exact ih (count + 1) (by omega)

/-- The shortest decimal of a positive double reads back. -/
theorem shortestDigits_spells (hc : IsCanonical m e) :
    Spells m e (shortestDigits m e).1 (shortestDigits m e).2 := by
  obtain ⟨digits, power, hspells, heq⟩ := shortestFrom_spells hc 16 0 rfl
  have hdigits : shortestDigits m e = (digits, power) := heq
  rw [hdigits]
  exact hspells

end Search

end RepoAtlas.Binary64
