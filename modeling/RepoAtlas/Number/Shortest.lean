import RepoAtlas.Number.Binary64

/-!
The shortest decimal text of a double: the fewest digits that read back as the same value, and
of those the nearest. A `DecimalStyle` then decides how digits and exponent are laid out.
-/
namespace RepoAtlas.Binary64

-- The power of naturals stays that of the core library, whatever imports this file.
attribute [local instance (high)] instPowNat

/-- `digits · 10 ^ exponent` reads back as the given value. -/
def readsBack (mantissa : Nat) (exponent : Int) (digits : Nat) (power : Int) : Bool :=
  ofDecimal false digits power == .finite false mantissa exponent

/-- The number of digits before the point: the least `k` with `value < 10 ^ k`. -/
def pointPosition (num den : Nat) : Int :=
  let guess : Int := ((num.log2 : Int) - den.log2) * 30103 / 100000
  let below (k : Int) : Bool := match k with
    | .ofNat e => num < den * 10 ^ e
    | .negSucc e => num * 10 ^ (e + 1) < den
  if below (guess - 1) then guess - 1
  else if below guess then guess
  else if below (guess + 1) then guess + 1
  else guess + 2

/-- `num / den` divided by `10 ^ power`. -/
def decimalScaled (num den : Nat) : Int → Nat × Nat
  | .ofNat e => (num, den * 10 ^ e)
  | .negSucc e => (num * 10 ^ (e + 1), den)

/-- Tries 17 grids, the coarsest first, and takes the first neighbour that reads back. -/
def shortestFrom (mantissa : Nat) (exponent : Int) (num den : Nat) (point : Int) :
    Nat → Nat → Nat × Int
  | 0, _ => (0, 0)
  | tries + 1, count =>
    let power := point - count
    let (n, d) := decimalScaled num den power
    let low := n / d
    let lowHit := readsBack mantissa exponent low power
    let highHit := readsBack mantissa exponent (low + 1) power
    let rest := n % d
    if lowHit && (!highHit || 2 * rest < d || (2 * rest == d && low % 2 == 0)) then (low, power)
    else if highHit then (low + 1, power)
    else shortestFrom mantissa exponent num den point tries (count + 1)

/-- Digits and decimal exponent of a nonzero value. -/
def shortestDigits (mantissa : Nat) (exponent : Int) : Nat × Int :=
  let (num, den) := quotient mantissa exponent
  shortestFrom mantissa exponent num den (pointPosition num den) 17 1

end RepoAtlas.Binary64

namespace RepoAtlas

/-- Values whose point falls outside `-4 < position ≤ 16` are written with an exponent. -/
structure DecimalStyle where
  exponentDigits : Nat := 2
  wholeMark : String := ".0"
  infinityText : String := "inf"
  nanText : String := "nan"

namespace DecimalStyle

def exponentText (style : DecimalStyle) (e : Int) : String :=
  let digits := toString e.natAbs
  (if e < 0 then "-" else "+") ++
    String.ofList (List.replicate (style.exponentDigits - digits.length) '0') ++ digits

/-- Lays out digits whose point stands after `point` of them. -/
def layout (style : DecimalStyle) (digits : List Char) (point : Int) : String :=
  if point ≤ -4 ∨ 16 < point then
    match digits with
    | [] => "0"
    | [d] => String.ofList [d] ++ "e" ++ style.exponentText (point - 1)
    | d :: rest => String.ofList (d :: '.' :: rest) ++ "e" ++ style.exponentText (point - 1)
  else if point ≤ 0 then
    "0." ++ String.ofList (List.replicate point.natAbs '0' ++ digits)
  else if digits.length ≤ point.toNat then
    String.ofList (digits ++ List.replicate (point.toNat - digits.length) '0') ++ style.wholeMark
  else
    String.ofList (digits.take point.toNat ++ '.' :: digits.drop point.toNat)

def dropZeros (digits : List Char) : List Char :=
  (digits.reverse.dropWhile (· == '0')).reverse

def render (style : DecimalStyle) : Binary64 → String
  | .nan => style.nanText
  | .infinite negative => (if negative then "-" else "") ++ style.infinityText
  | .finite negative m e =>
    let sign := if negative then "-" else ""
    if m = 0 then sign ++ "0" ++ style.wholeMark
    else
      let (digits, power) := Binary64.shortestDigits m e
      let text := (toString digits).toList
      sign ++ style.layout (dropZeros text) (text.length + power)

end DecimalStyle

/-- The text of a double: fewest digits, `.0` after a whole number, two exponent digits. -/
def Binary64.text (x : Binary64) : String :=
  DecimalStyle.render {} x

end RepoAtlas
