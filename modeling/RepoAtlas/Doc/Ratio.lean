import RepoAtlas.Doc.Basic
import RepoAtlas.Fault
import RepoAtlas.Number.Binary64

/-!
Quotients of two numbers in documents, rounded half up. Two integers are divided exactly before
the quotient is rounded to a double; a double makes the other number a double first.
-/
namespace RepoAtlas.Doc

/-- The double that stands for an integer, which must not be too large for one. -/
def finite (x : Binary64) : Result Rat :=
  match x with
  | .nan => .error .wholeOfNan
  | .infinite _ => .error .tooLarge
  | x => .ok x.toRat

def operand (exact : Bool) : Doc → Result Rat
  | .float x => finite x
  | d => match d.whole? with
    | some i => if exact then .ok i else finite (.ofInt i)
    | none => .error .wrongKind

def isDouble : Doc → Bool
  | .float _ => true
  | _ => false

def roundedRatio (num den : Doc) : Result Int := do
  let exact := !num.isDouble && !den.isDouble
  let a ← operand exact num
  let b ← operand exact den
  if b = 0 then .error .divisionByZero
  else
    let q ← finite (.ofQuotient (a / b < 0) (a / b).num.natAbs (a / b).den)
    return roundHalfUp q

end RepoAtlas.Doc
