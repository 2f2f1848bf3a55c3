/-!
Double-precision numbers as exact dyadic values, and rational arithmetic rounded to them.
-/
namespace RepoAtlas

/-! ### Doubles

A double is `± mantissa · 2 ^ exponent`. A quotient is rounded to the nearest value, a tie to the
even mantissa; nothing here uses machine floats, so every definition computes in exact integer
arithmetic.
-/

inductive Binary64 where
  | nan
  | infinite (negative : Bool)
  | finite (negative : Bool) (mantissa : Nat) (exponent : Int)
  deriving DecidableEq, Repr, Inhabited

namespace Binary64

-- The power of naturals stays that of the core library, whatever imports this file.
attribute [local instance (high)] instPowNat

/-- The integer nearest to `num / den`; a tie goes to the even neighbour. -/
def roundQuotient (num den : Nat) : Nat :=
  let low := num / den
  let rest := num % den
  if 2 * rest < den then low
  else if den < 2 * rest then low + 1
  else if low % 2 = 0 then low else low + 1

theorem roundQuotient_mul (n : Nat) {den : Nat} (h : 0 < den) :
    roundQuotient (n * den) den = n := by
  simp [roundQuotient, Nat.mul_div_cancel _ h, h]

theorem two_mul_roundQuotient_le (num : Nat) {den : Nat} (h : 0 < den) :
    2 * den * roundQuotient num den ≤ 2 * num + den := by
  have split := Nat.div_add_mod num den
  have small := Nat.mod_lt num h
  simp only [roundQuotient]
  generalize hq : num / den = q at *
  generalize hr : num % den = r at *
  have e1 : 2 * den * q = 2 * (den * q) := by rw [Nat.mul_assoc]
  have e2 : 2 * den * (q + 1) = 2 * (den * q) + 2 * den := by rw [Nat.mul_add, Nat.mul_one, e1]
  split
  · omega
  · split
    · omega
    · split <;> omega

/-- `num / den` times `2 ^ -exponent` as a quotient of naturals. -/
def scaled (num den : Nat) (exponent : Int) : Nat × Nat :=
  match exponent with
  | .ofNat e => (num, den * 2 ^ e)
  | .negSucc e => (num * 2 ^ (e + 1), den)

/-- The exponent that leaves 53 binary digits before the point, or the least exponent. -/
def unitExponent (num den : Nat) : Int :=
  let guess : Int := num.log2 - den.log2 - 52
  let (n, d) := scaled num den guess
  let exact := if n < d * 2 ^ (52 : Nat) then guess - 1 else guess
  max exact (-1074)

/-- The double nearest to `± num / den`. -/
def ofQuotient (negative : Bool) (num den : Nat) : Binary64 :=
  if num = 0 then .finite negative 0 0
  else
    let e := unitExponent num den
    let (n, d) := scaled num den e
    let m := roundQuotient n d
    let (m, e) := if m = 2 ^ (53 : Nat) then (2 ^ (52 : Nat), e + 1) else (m, e)
    if m = 0 then .finite negative 0 0
    else if 971 < e then .infinite negative
    else .finite negative m e

/-- The double nearest to `± digits · 10 ^ exponent`. Sizes far outside the range of doubles
are answered without computing the power. -/
def ofDecimal (negative : Bool) (digits : Nat) (exponent : Int) : Binary64 :=
  if digits = 0 then .finite negative 0 0
  else
    let size : Int := (Nat.log2 digits + 1) * 30103 / 100000 + exponent
    if 330 < size then .infinite negative
    else if size < -350 then .finite negative 0 0
    else match exponent with
      | .ofNat e => ofQuotient negative (digits * 10 ^ e) 1
      | .negSucc e => ofQuotient negative digits (10 ^ (e + 1))

def ofInt (i : Int) : Binary64 :=
  ofQuotient (i < 0) i.natAbs 1

/-- A finite value's size as a quotient of naturals. -/
def quotient (mantissa : Nat) : Int → Nat × Nat
  | .ofNat e => (mantissa * 2 ^ e, 1)
  | .negSucc e => (mantissa, 2 ^ (e + 1))

def isZero : Binary64 → Bool
  | .finite _ m _ => m == 0
  | _ => false

/-- The integer part, for finite values. -/
def truncate? : Binary64 → Option Int
  | .finite negative m e =>
    let (n, d) := quotient m e
    let size : Int := n / d
    some (if negative then -size else size)
  | _ => none

/-- The value, if it is a whole number. -/
def toInt? (x : Binary64) : Option Int :=
  match x with
  | .finite negative m e =>
    let (n, d) := quotient m e
    if n % d = 0 then
      let size : Int := n / d
      some (if negative then -size else size)
    else none
  | _ => none

def neg : Binary64 → Binary64
  | .nan => .nan
  | .infinite s => .infinite !s
  | .finite s m e => .finite (!s) m e

end Binary64

/-! ### Rounded arithmetic

As scores are computed: each quotient, product and sum is replaced by the nearest double, and a
score is rounded half up at the end.
-/

namespace Binary64

/-- The value of a finite double; others count as zero. -/
def toRat : Binary64 → Rat
  | .finite negative m e =>
    let (n, d) := quotient m e
    let size : Rat := (n : Rat) / (d : Rat)
    if negative then -size else size
  | _ => 0

end Binary64

/-- The double nearest to a rational. -/
def nearest (q : Rat) : Rat :=
  (Binary64.ofQuotient (q.num < 0) q.num.natAbs q.den).toRat

/-- The floor of the value plus one half. -/
def roundHalfUp (q : Rat) : Int := (nearest (q + 1 / 2)).floor

end RepoAtlas
