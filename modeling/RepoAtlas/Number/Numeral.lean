import RepoAtlas.Fault
import RepoAtlas.Number.Binary64
import RepoAtlas.Text.CharClass
import RepoAtlas.Text.Pieces

/-!
Numbers in free text: blanks around them are ignored, the digits of every script count, and
single underscores may stand between two digits.
-/
namespace RepoAtlas.Numeral

open RepoAtlas.Text

def isNumberBlank (c : Char) : Bool :=
  if c.toNat < 128 then c == ' ' || (9 ≤ c.toNat && c.toNat ≤ 13) else isBlank c

def asciiDigit (c : Char) : Char :=
  match digitValue? c with
  | some d => Char.ofNat (48 + d)
  | none => c

def trimmed (s : List Char) : List Char :=
  (trimWhile isNumberBlank s).map asciiDigit

/-- Drops underscores that stand between two digits; `none` if one stands elsewhere. -/
def ungroup (previous : Char) : List Char → Option (List Char)
  | [] => if previous = '_' then none else some []
  | c :: rest =>
    if c = '_' then
      if isAsciiDigit previous then ungroup c rest else none
    else if previous = '_' && !isAsciiDigit c then none
    else (ungroup c rest).map (c :: ·)

def sign (s : List Char) : Bool × List Char :=
  match s with
  | '-' :: rest => (true, rest)
  | '+' :: rest => (false, rest)
  | _ => (false, s)

def digitsValue (digits : List Char) : Nat :=
  digits.foldl (fun n c => 10 * n + (c.toNat - 48)) 0

def digits? (s : List Char) : Option Nat :=
  if !s.isEmpty && s.all isAsciiDigit then some (digitsValue s) else none

def signed (negative : Bool) (n : Nat) : Int :=
  if negative then -n else n

/-- Longer integers are refused. -/
def maxDigits : Nat := 4300

/-- The text of an integer; the digits of a longer one are not written either. -/
def intText (i : Int) : Result String :=
  if maxDigits < (toString i.natAbs).length then .error .longNumber else .ok (toString i)

/-- The sign and the digits of an integer text, of any length. -/
def integerParts? (s : List Char) : Option (Bool × List Char) := do
  let (negative, body) := sign (← ungroup ' ' (trimmed s))
  if !body.isEmpty && body.all isAsciiDigit then some (negative, body) else none

def readInt? (s : List Char) : Option Int := do
  let (negative, body) ← integerParts? s
  if maxDigits < body.length then none else some (signed negative (digitsValue body))

/-- An unsigned decimal `12.5e-3` as digits and exponent: at least one digit around the point,
and digits in an exponent if there is one. -/
def decimal? (s : List Char) : Option (Nat × Int) := do
  let (whole, rest) := s.span isAsciiDigit
  let (fraction, rest) := match rest with
    | '.' :: tail => tail.span isAsciiDigit
    | _ => ([], rest)
  if whole.isEmpty && fraction.isEmpty then none
  let exponent ← match rest with
    | [] => some 0
    | c :: tail =>
      if c = 'e' ∨ c = 'E' then
        let (negative, body) := sign tail
        (digits? body).map (signed negative)
      else none
  some (digitsValue (whole ++ fraction), exponent - fraction.length)

def readFloat? (s : List Char) : Option Binary64 := do
  let (negative, body) := sign (← ungroup ' ' (trimmed s))
  let word := String.ofList (body.map Char.toLower)
  if word = "inf" ∨ word = "infinity" then some (.infinite negative)
  else if word = "nan" then some .nan
  else
    let (n, e) ← decimal? body
    some (.ofDecimal negative n e)

end RepoAtlas.Numeral
