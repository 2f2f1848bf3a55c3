import Mathlib.Algebra.Order.Field.Power
import Mathlib.Algebra.Order.Floor.Semifield
import Mathlib.Tactic
import Mathlib.Tactic.Ring
import RepoAtlas.Number.Binary64

/-!
Which dyadic values are doubles, and that each value of a double has one representation. The
size of a double is counted in units of the least positive one. Rounding a quotient to a double
depends on its value alone, and gives a double wherever the value is close enough to it.
-/
namespace RepoAtlas.Binary64

/-! ### Doubles -/

/-- Mantissas have 53 binary digits, fewer only at the least exponent; zero stands alone. -/
def isDouble : Binary64 → Bool
  | .finite _ m e =>
    (m == 0 && e == 0) || (0 < m && m < 2 ^ 53 && -1074 ≤ e && e ≤ 971 && (2 ^ 52 ≤ m || e == -1074))
  | _ => true

/-- Doubles that are numbers, with infinity for those out of range. -/
def isNumber (x : Binary64) : Bool := x.isDouble && x != .nan

/-- A positive double's mantissa and exponent. -/
structure IsCanonical (m : Nat) (e : Int) : Prop where
  pos : 0 < m
  lt : m < 2 ^ 53
  least : -1074 ≤ e
  greatest : e ≤ 971
  normal : 2 ^ 52 ≤ m ∨ e = -1074

theorem isDouble_finite_iff {negative : Bool} {m : Nat} {e : Int} :
    (Binary64.finite negative m e).isDouble = true ↔ (m = 0 ∧ e = 0) ∨ IsCanonical m e := by
  simp only [isDouble, Bool.or_eq_true, Bool.and_eq_true, beq_iff_eq, decide_eq_true_eq]
  constructor
  · rintro (h | ⟨⟨⟨⟨h1, h2⟩, h3⟩, h4⟩, h5⟩)
    · exact Or.inl h
    · exact Or.inr ⟨h1, h2, h3, h4, h5⟩
  · rintro (h | h)
    · exact Or.inl h
    · exact Or.inr ⟨⟨⟨⟨h.pos, h.lt⟩, h.least⟩, h.greatest⟩, h.normal⟩

/-- How many times the least positive double goes into a size. -/
def units (m : Nat) (e : Int) : Nat := m * 2 ^ (e + 1074).toNat

theorem IsCanonical.exponent_le {m n : Nat} {e f : Int} (hm : IsCanonical m e)
    (hn : IsCanonical n f) (h : units m e = units n f) : f ≤ e := by
  by_contra hlt
  have hk : (f + 1074).toNat = (e + 1074).toNat + ((f - e - 1).toNat + 1) := by
    have := hm.least
    omega
  have hn' : 2 ^ 52 ≤ n := by
    have := hm.least
    rcases hn.normal with h | h
    · exact h
    · omega
  have hsize : m = n * 2 ^ (f - e - 1).toNat * 2 := by
    apply Nat.eq_of_mul_eq_mul_right (Nat.two_pow_pos (e + 1074).toNat)
    rw [units, units, hk] at h
    rw [h]
    ring
  have hpos : 1 ≤ 2 ^ (f - e - 1).toNat := Nat.one_le_two_pow
  have hbig : 2 ^ 52 * 1 ≤ n * 2 ^ (f - e - 1).toNat := Nat.mul_le_mul hn' hpos
  have := hm.lt
  omega

/-- Equal sizes have equal mantissas and exponents. -/
theorem IsCanonical.unique {m n : Nat} {e f : Int} (hm : IsCanonical m e)
    (hn : IsCanonical n f) (h : units m e = units n f) : m = n ∧ e = f := by
  obtain rfl : e = f := Int.le_antisymm (hn.exponent_le hm h.symm) (hm.exponent_le hn h)
  exact ⟨Nat.eq_of_mul_eq_mul_right (Nat.two_pow_pos _) h, rfl⟩

theorem eq_zero_of_units_eq_zero {m : Nat} {e : Int} (h : units m e = 0) : m = 0 := by
  rcases Nat.mul_eq_zero.1 h with hm | hp
  · exact hm
  · exact absurd hp (Nat.two_pow_pos _).ne'

theorem units_ofNat (m a : Nat) : units m (Int.ofNat a) = m * 2 ^ a * units 1 0 := by
  have ha : (Int.ofNat a + 1074).toNat = a + (0 + 1074 : Int).toNat := by
    simp only [Int.ofNat_eq_natCast]
    omega
  rw [units, units, ha, Nat.pow_add]
  ring

theorem units_negSucc {m a : Nat} (ha : -1074 ≤ Int.negSucc a) :
    units m (Int.negSucc a) * 2 ^ (a + 1) = m * units 1 0 := by
  have hk : (0 + 1074 : Int).toNat = (Int.negSucc a + 1074).toNat + (a + 1) := by omega
  rw [units, units, hk, Nat.mul_assoc, ← Nat.pow_add, Nat.one_mul]

/-- A whole value tells the size and, unless it is zero, the sign. -/
theorem units_of_toInt? {negative : Bool} {m : Nat} {e i : Int} (he : -1074 ≤ e)
    (h : (Binary64.finite negative m e).toInt? = some i) :
    units m e = i.natAbs * units 1 0 ∧ (i ≠ 0 → negative = decide (i < 0)) := by
  simp only [toInt?] at h
  split at h
  next hdvd =>
    have hnat : i.natAbs = (quotient m e).1 / (quotient m e).2 := by
      simp only [Option.some.injEq] at h
      rw [← h]
      split
      · rw [Int.natAbs_neg]
        exact Int.natAbs_natCast _
      · exact Int.natAbs_natCast _
    constructor
    · rw [hnat]
      cases e with
      | ofNat a =>
        rw [units_ofNat]
        simp [quotient]
      | negSucc a =>
        have hm : m / 2 ^ (a + 1) * 2 ^ (a + 1) = m :=
          Nat.div_mul_cancel (Nat.dvd_of_mod_eq_zero hdvd)
        apply Nat.eq_of_mul_eq_mul_right (Nat.two_pow_pos (a + 1))
        rw [units_negSucc he]
        calc m * units 1 0
            = m / 2 ^ (a + 1) * 2 ^ (a + 1) * units 1 0 := by rw [hm]
          _ = m / 2 ^ (a + 1) * units 1 0 * 2 ^ (a + 1) := by ring
    · intro hi
      simp only [Option.some.injEq] at h
      cases negative <;> simp at h ⊢ <;> omega
  next => simp at h

/-- Doubles with the same whole value are equal, up to the sign of zero. -/
theorem eq_of_toInt?_eq {x y : Binary64} {i : Int} (hx : x.isDouble = true)
    (hy : y.isDouble = true) (hxi : x.toInt? = some i) (hyi : y.toInt? = some i) :
    x = y ∨ (x.isZero = true ∧ y.isZero = true) := by
  match x, y with
  | .nan, _ | .infinite _, _ => simp [toInt?] at hxi
  | _, .nan | _, .infinite _ => simp [toInt?] at hyi
  | .finite s m e, .finite t n f =>
    rw [isDouble_finite_iff] at hx hy
    have he : -1074 ≤ e := by rcases hx with ⟨_, rfl⟩ | hx; omega; exact hx.least
    have hf : -1074 ≤ f := by rcases hy with ⟨_, rfl⟩ | hy; omega; exact hy.least
    obtain ⟨hxu, hxs⟩ := units_of_toInt? he hxi
    obtain ⟨hyu, hys⟩ := units_of_toInt? hf hyi
    by_cases hi : i = 0
    · right
      subst hi
      rw [Int.natAbs_zero, Nat.zero_mul] at hxu hyu
      simp [isZero, eq_zero_of_units_eq_zero hxu, eq_zero_of_units_eq_zero hyu]
    · left
      have hpos : 0 < i.natAbs * units 1 0 :=
        Nat.mul_pos (by omega) (Nat.mul_pos Nat.one_pos (Nat.two_pow_pos _))
      have hx' : IsCanonical m e := by
        rcases hx with ⟨rfl, _⟩ | hx
        · rw [units, Nat.zero_mul] at hxu
          omega
        · exact hx
      have hy' : IsCanonical n f := by
        rcases hy with ⟨rfl, _⟩ | hy
        · rw [units, Nat.zero_mul] at hyu
          omega
        · exact hy
      obtain ⟨rfl, rfl⟩ := hx'.unique hy' (hxu.trans hyu.symm)
      rw [hxs hi, hys hi]

/-! ### Rounding to an integer -/

/-- The natural number nearest to a value; a tie goes to the even one. -/
def nearestNat (q : ℚ) : ℕ :=
  if 2 * (q - ⌊q⌋₊) < 1 then ⌊q⌋₊
  else if 1 < 2 * (q - ⌊q⌋₊) then ⌊q⌋₊ + 1
  else if ⌊q⌋₊ % 2 = 0 then ⌊q⌋₊ else ⌊q⌋₊ + 1

theorem roundQuotient_eq_nearestNat (num : ℕ) {den : ℕ} (hden : 0 < den) :
    roundQuotient num den = nearestNat (num / den) := by
  have hfloor : ⌊(num : ℚ) / den⌋₊ = num / den := Nat.floor_div_eq_div num den
  have hd : (0 : ℚ) < den := by exact_mod_cast hden
  have hrest : 2 * ((num : ℚ) / den - (num / den : ℕ)) = (2 * (num % den) : ℕ) / den := by
    have hsplit : (num : ℚ) = den * (num / den : ℕ) + (num % den : ℕ) := by
      exact_mod_cast (Nat.div_add_mod num den).symm
    rw [eq_div_iff hd.ne']
    push_cast
    field_simp
    linarith
  simp only [roundQuotient, nearestNat, hfloor, hrest, div_lt_one hd, one_lt_div hd, Nat.cast_lt]

/-- A natural number less than one half away is the nearest one. -/
theorem nearestNat_eq {q : ℚ} {k : ℕ} (hq : 0 ≤ q) (hlow : (k : ℚ) - 1 / 2 < q)
    (hhigh : q < k + 1 / 2) : nearestNat q = k := by
  by_cases hk : (k : ℚ) ≤ q
  · have hfloor : ⌊q⌋₊ = k := (Nat.floor_eq_iff hq).2 ⟨hk, by linarith⟩
    rw [nearestNat, hfloor, if_pos (by linarith)]
  · rw [not_le] at hk
    obtain ⟨j, rfl⟩ : ∃ j, k = j + 1 := by
      apply Nat.exists_eq_succ_of_ne_zero
      rintro rfl
      exact absurd hq (not_le.2 (by simpa using hk))
    push_cast at hk hlow
    have hfloor : ⌊q⌋₊ = j := (Nat.floor_eq_iff hq).2 ⟨by linarith, by linarith⟩
    rw [nearestNat, hfloor, if_neg (by linarith), if_pos (by linarith)]

/-! ### The unit in the last place -/

theorem scaled_den_pos (num : ℕ) {den : ℕ} (hden : 0 < den) (e : ℤ) :
    0 < (scaled num den e).2 := by
  cases e with
  | ofNat k => exact Nat.mul_pos hden (Nat.two_pow_pos k)
  | negSucc k => exact hden

/-- Scaling divides the value by a power of two. -/
theorem scaled_div (num den : ℕ) (e : ℤ) :
    ((scaled num den e).1 : ℚ) / (scaled num den e).2 = num / den / 2 ^ e := by
  cases e with
  | ofNat k => simp [scaled, div_div]
  | negSucc k =>
    simp only [scaled, zpow_negSucc, div_inv_eq_mul]
    push_cast
    ring

/-- The exponent counts units of the last place: 53 binary digits before the point, or fewer at
the least exponent. -/
structure IsUnit (q : ℚ) (e : ℤ) : Prop where
  lt : q < 2 ^ 53 * 2 ^ e
  least : -1074 ≤ e
  normal : 2 ^ 52 * 2 ^ e ≤ q ∨ e = -1074

/-- Greater values have no smaller units. -/
theorem IsUnit.mono {q r : ℚ} {e f : ℤ} (hle : q ≤ r) (hq : IsUnit q e) (hr : IsUnit r f) :
    e ≤ f := by
  by_contra hlt
  have hstep : (2 : ℚ) ^ (f + 1) ≤ 2 ^ e := zpow_le_zpow_right₀ (by norm_num) (by omega)
  rw [zpow_add_one₀ (by norm_num)] at hstep
  rcases hq.normal with h | h
  · have := hr.lt
    linarith
  · have := hr.least
    omega

theorem IsUnit.unique {q : ℚ} {e f : ℤ} (he : IsUnit q e) (hf : IsUnit q f) : e = f :=
  le_antisymm (he.mono le_rfl hf) (hf.mono le_rfl he)

theorem two_pow_log2_le {n : ℕ} (hn : 0 < n) : (2 : ℚ) ^ (n.log2 : ℤ) ≤ n := by
  rw [zpow_natCast]
  exact_mod_cast Nat.log2_self_le hn.ne'

theorem lt_two_pow_log2 (n : ℕ) : (n : ℚ) < 2 * 2 ^ (n.log2 : ℤ) := by
  rw [zpow_natCast, ← pow_succ']
  exact_mod_cast Nat.lt_log2_self (n := n)

/-- The logarithms of numerator and denominator tell a quotient up to a factor of two. -/
theorem quotient_bounds {num den : ℕ} (hnum : 0 < num) (hden : 0 < den) :
    (2 : ℚ) ^ ((num.log2 : ℤ) - den.log2) < 2 * (num / den) ∧
      (num : ℚ) / den < 2 * 2 ^ ((num.log2 : ℤ) - den.log2) := by
  have hd : (0 : ℚ) < den := by exact_mod_cast hden
  have hpow : (0 : ℚ) < 2 ^ (den.log2 : ℤ) := by positivity
  rw [zpow_sub₀ (by norm_num)]
  constructor
  · rw [div_lt_iff₀ hpow, mul_comm 2 ((num : ℚ) / den), mul_assoc, div_mul_eq_mul_div,
      lt_div_iff₀ hd]
    calc (2 : ℚ) ^ (num.log2 : ℤ) * den
        ≤ num * den := mul_le_mul_of_nonneg_right (two_pow_log2_le hnum) hd.le
      _ < num * (2 * 2 ^ (den.log2 : ℤ)) :=
        mul_lt_mul_of_pos_left (lt_two_pow_log2 den) (by exact_mod_cast hnum)
  · rw [div_lt_iff₀ hd, mul_div_assoc', div_mul_eq_mul_div, lt_div_iff₀ hpow]
    calc (num : ℚ) * 2 ^ (den.log2 : ℤ)
        < 2 * 2 ^ (num.log2 : ℤ) * 2 ^ (den.log2 : ℤ) :=
        mul_lt_mul_of_pos_right (lt_two_pow_log2 num) hpow
      _ ≤ 2 * 2 ^ (num.log2 : ℤ) * den :=
        mul_le_mul_of_nonneg_left (two_pow_log2_le hden) (by positivity)

theorem unitExponent_isUnit {num den : ℕ} (hnum : 0 < num) (hden : 0 < den) :
    IsUnit (num / den) (unitExponent num den) := by
  obtain ⟨hlow, hhigh⟩ := quotient_bounds hnum hden
  have hguess : (2 : ℚ) ^ ((num.log2 : ℤ) - den.log2) =
      2 ^ 52 * 2 ^ ((num.log2 : ℤ) - den.log2 - 52) := by
    rw [← zpow_natCast, ← zpow_add₀ (by norm_num)]
    congr 1
    push_cast
    ring
  simp only [unitExponent]
  generalize (num.log2 : ℤ) - den.log2 - 52 = guess at *
  have hpow : (0 : ℚ) < 2 ^ guess := by positivity
  have hsmall : (scaled num den guess).1 < (scaled num den guess).2 * 2 ^ 52 ↔
      (num : ℚ) / den < 2 ^ 52 * 2 ^ guess := by
    have hd : (0 : ℚ) < (scaled num den guess).2 := by exact_mod_cast scaled_den_pos num hden guess
    rw [← div_lt_iff₀ hpow, ← scaled_div, div_lt_iff₀ hd, mul_comm ((2 : ℚ) ^ 52)]
    exact_mod_cast Iff.rfl
  have hhalf : (2 : ℚ) ^ guess = 2 * 2 ^ (guess - 1) := by
    rw [← zpow_one_add₀ (by norm_num)]
    congr 1
    ring
  -- one of the two exponents leaves 53 digits
  obtain ⟨exact, hexact, hlt, hge⟩ : ∃ exact : ℤ,
      (if (scaled num den guess).1 < (scaled num den guess).2 * 2 ^ 52 then guess - 1 else guess)
        = exact ∧ (num : ℚ) / den < 2 ^ 53 * 2 ^ exact ∧ 2 ^ 52 * 2 ^ exact ≤ (num : ℚ) / den := by
    split
    next h =>
      rw [hsmall] at h
      exact ⟨guess - 1, rfl, by linarith, by linarith⟩
    next h =>
      rw [hsmall, not_lt] at h
      exact ⟨guess, rfl, by linarith, h⟩
  rw [hexact]
  rcases le_total exact (-1074) with h | h
  · rw [max_eq_right h]
    have hmono : (2 : ℚ) ^ exact ≤ 2 ^ (-1074 : ℤ) := zpow_le_zpow_right₀ (by norm_num) h
    exact ⟨hlt.trans_le (by linarith), le_refl _, Or.inr rfl⟩
  · rw [max_eq_left h]
    exact ⟨hlt, h, Or.inl hge⟩

/-! ### Rounding to a double -/

/-- The double of a rounded mantissa: one digit too many moves into the exponent. -/
def settle (negative : Bool) (m : ℕ) (e : ℤ) : Binary64 :=
  let (m, e) := if m = 2 ^ 53 then (2 ^ 52, e + 1) else (m, e)
  if m = 0 then .finite negative 0 0
  else if 971 < e then .infinite negative
  else .finite negative m e

theorem settle_of_lt (negative : Bool) {m : ℕ} {e : ℤ} (hpos : 0 < m) (hlt : m < 2 ^ 53)
    (he : e ≤ 971) : settle negative m e = .finite negative m e := by
  rw [settle, if_neg hlt.ne]
  dsimp only
  rw [if_neg hpos.ne', if_neg (not_lt.2 he)]

theorem settle_top (negative : Bool) {e : ℤ} (he : e + 1 ≤ 971) :
    settle negative (2 ^ 53) e = .finite negative (2 ^ 52) (e + 1) := by
  rw [settle, if_pos rfl]
  dsimp only
  rw [if_neg (Nat.two_pow_pos 52).ne', if_neg (not_lt.2 he)]

theorem settle_true (m : ℕ) (e : ℤ) : settle true m e = (settle false m e).neg := by
  rw [settle, settle]
  generalize (if m = 2 ^ 53 then (2 ^ 52, e + 1) else (m, e)) = p
  dsimp only
  split
  · rfl
  · split <;> rfl

/-- The parts are variables here so that no unfolding reaches them. -/
theorem ofQuotient_eq_settle (negative : Bool) {num den m : ℕ} {e : ℤ} (hnum : 0 < num)
    (he : unitExponent num den = e)
    (hm : roundQuotient (scaled num den e).1 (scaled num den e).2 = m) :
    ofQuotient negative num den = settle negative m e := by
  unfold ofQuotient
  rw [he]
  dsimp only
  rw [hm, if_neg hnum.ne']
  rfl

theorem ofQuotient_eq_of_round (negative : Bool) {num den m : ℕ} {e : ℤ} (hnum : 0 < num)
    (hden : 0 < den) (he : IsUnit (num / den) e) (hm : nearestNat (num / den / 2 ^ e) = m) :
    ofQuotient negative num den = settle negative m e := by
  apply ofQuotient_eq_settle negative hnum ((unitExponent_isUnit hnum hden).unique he)
  rw [roundQuotient_eq_nearestNat _ (scaled_den_pos num hden e), scaled_div, hm]

theorem ofQuotient_zero (negative : Bool) (den : ℕ) :
    ofQuotient negative 0 den = .finite negative 0 0 := rfl

/-- Equal quotients round to equal doubles. -/
theorem ofQuotient_congr (negative : Bool) {num den num' den' : ℕ} (hden : 0 < den)
    (hden' : 0 < den') (h : (num : ℚ) / den = num' / den') :
    ofQuotient negative num den = ofQuotient negative num' den' := by
  have hd : (den : ℚ) ≠ 0 := by exact_mod_cast hden.ne'
  have hd' : (den' : ℚ) ≠ 0 := by exact_mod_cast hden'.ne'
  rcases Nat.eq_zero_or_pos num with rfl | hnum
  · obtain rfl : num' = 0 := by
      simpa [hd'] using h.symm
    rw [ofQuotient_zero, ofQuotient_zero]
  · have hnum' : 0 < num' := by
      rcases Nat.eq_zero_or_pos num' with rfl | hpos
      · simp [hd, hnum.ne'] at h
      · exact hpos
    have hunit := unitExponent_isUnit hnum hden
    rw [ofQuotient_eq_of_round negative hnum hden hunit rfl,
      ofQuotient_eq_of_round negative hnum' hden' (h ▸ hunit) rfl, h]

/-- The sign goes through to the result. -/
theorem ofQuotient_true (num : ℕ) {den : ℕ} (hden : 0 < den) :
    ofQuotient true num den = (ofQuotient false num den).neg := by
  rcases Nat.eq_zero_or_pos num with rfl | hnum
  · rw [ofQuotient_zero, ofQuotient_zero]
    rfl
  · have hunit := unitExponent_isUnit hnum hden
    rw [ofQuotient_eq_of_round true hnum hden hunit rfl,
      ofQuotient_eq_of_round false hnum hden hunit rfl, settle_true]

/-- A value that is nearer to a double than to its neighbours rounds to it. The neighbour below
the least mantissa is only half a unit away. -/
theorem ofQuotient_of_near (negative : Bool) {num den m : ℕ} {e : ℤ} (hnum : 0 < num)
    (hden : 0 < den) (hc : IsCanonical m e) (hlow : ((m : ℚ) - 1 / 2) * 2 ^ e < num / den)
    (hedge : m = 2 ^ 52 → ((m : ℚ) - 1 / 4) * 2 ^ e < num / den)
    (hhigh : (num : ℚ) / den < (m + 1 / 2) * 2 ^ e) :
    ofQuotient negative num den = .finite negative m e := by
  have hpow : (0 : ℚ) < 2 ^ e := by positivity
  have hq : (0 : ℚ) ≤ num / den := by positivity
  have hm : (m : ℚ) + 1 ≤ 2 ^ 53 := by exact_mod_cast hc.lt
  by_cases hsame : 2 ^ 52 * 2 ^ e ≤ (num : ℚ) / den ∨ e = -1074
  · have hunit : IsUnit ((num : ℚ) / den) e := by
      refine ⟨?_, hc.least, hsame⟩
      exact hhigh.trans_le (mul_le_mul_of_nonneg_right (by linarith) hpow.le)
    have hround : nearestNat (num / den / 2 ^ e) = m := by
      apply nearestNat_eq (by positivity)
      · rwa [lt_div_iff₀ hpow]
      · rwa [div_lt_iff₀ hpow]
    rw [ofQuotient_eq_of_round negative hnum hden hunit hround,
      settle_of_lt negative hc.pos hc.lt hc.greatest]
  · -- just below the least mantissa of the exponent
    rw [not_or, not_le] at hsame
    have hge : 2 ^ 52 ≤ m := hc.normal.resolve_right hsame.2
    have hleast : m = 2 ^ 52 := by
      by_contra hne
      have : (2 : ℚ) ^ 52 + 1 ≤ m := by exact_mod_cast lt_of_le_of_ne hge (Ne.symm hne)
      have : 2 ^ 52 * 2 ^ e ≤ ((m : ℚ) - 1 / 2) * 2 ^ e :=
        mul_le_mul_of_nonneg_right (by linarith) hpow.le
      linarith [hsame.1]
    have hdown := hedge hleast
    have hmq : (m : ℚ) = 2 ^ 52 := by exact_mod_cast hleast
    have hhalf : (2 : ℚ) ^ e = 2 * 2 ^ (e - 1) := by
      rw [← zpow_one_add₀ (by norm_num)]
      congr 1
      ring
    have hpow' : (0 : ℚ) < 2 ^ (e - 1) := by positivity
    have hbelow := hsame.1
    rw [hmq, hhalf] at hdown
    rw [hhalf] at hbelow
    have hunit : IsUnit ((num : ℚ) / den) (e - 1) := by
      refine ⟨by linarith, ?_, Or.inl (by linarith)⟩
      have := hc.least
      omega
    have hround : nearestNat (num / den / 2 ^ (e - 1)) = 2 ^ 53 := by
      apply nearestNat_eq (by positivity)
      · rw [lt_div_iff₀ hpow']
        push_cast
        linarith
      · rw [div_lt_iff₀ hpow']
        push_cast
        linarith
    rw [ofQuotient_eq_of_round negative hnum hden hunit hround,
      settle_top negative (by linarith [hc.greatest]), sub_add_cancel, hleast]

end RepoAtlas.Binary64
