import RepoAtlas.Fault
import RepoAtlas.Text.CharClass

/-!
The first look at a TOML text, character by character: keys are checked up to their equals sign,
comments become blanks, and so do the line ends inside arrays and right behind the quotes that
open a text of several lines. What is left falls into lines that can be read one by one.
-/
namespace RepoAtlas.Toml

open RepoAtlas.Text

/-- How far the key of a line has been read. -/
inductive KeyState where
  | none | within | behind
  deriving DecidableEq, Repr

structure Layout where
  /-- What has been read, last character first. -/
  done : List Char := []
  key : KeyState := .none
  /-- A point has been met in the key. -/
  dotted : Bool := false
  openText : Bool := false
  /-- The quote of the text that is open. -/
  quote : Option Char := .none
  severalLines : Bool := false
  openArrays : Int := 0
  inHeader : Bool := false
  inArrayHeader : Bool := false
  lineStart : Bool := true
  deriving Repr

namespace Layout

def put (l : Layout) (c : Char) : Layout := { l with done := c :: l.done }

/-- Whether an odd number of backslashes stands right before. -/
def oddBackslashes (done : List Char) : Bool :=
  (done.takeWhile (· == '\\')).length % 2 == 1

/-- Whether the same character stands twice right before. -/
def isThird (c : Char) (done : List Char) : Bool :=
  match done with
  | a :: b :: _ => a == c && b == c
  | _ => false

/-- Inside a key or behind it, the next character decides whether a dotted key goes on. -/
def resumes (rest : List Char) : Result Bool :=
  match rest with
  | next :: _ => .ok (!isBlank next && next ≠ '.')
  | [] => .error .noSuchItem

def withKey (l : Layout) (more : Bool) : Layout := if more then { l with key := .within } else l

/-- A character of a key; `none` is the equals sign behind it. -/
def keyStep (l : Layout) (c : Char) (rest : List Char) : Result (Option Layout) := do
  if c = '\n' then
    throw .settingsForm
  if l.openText then
    if some c = l.quote && !oddBackslashes l.done then
      return some { l with key := .behind, openText := false, quote := .none }
    return some l
  if l.key = .within then
    if isBlank c then
      return some { l with key := .behind }
    if c = '.' then
      return some { l with dotted := true }
    if isWordChar c || c = '-' then
      return some l
    if l.dotted && l.done.head? = some '.' && (c = '"' || c = '\'') then
      return some { l with openText := true, quote := some c }
  else
    if isBlank c then
      return some (← if l.dotted then do return l.withKey (← resumes rest) else pure l)
    if c = '.' then
      return some ({ l with dotted := true }.withKey (← resumes rest))
  if c = '=' then
    return none
  throw .settingsForm

/-- A quote opens or closes a text; the third of a row does so for a text of several lines. -/
def quoteStep (l : Layout) (c : Char) : Layout :=
  let other := if c = '"' then '\'' else '"'
  let triple := isThird c l.done
  let escaped := c = '"' &&
    (if triple then oddBackslashes (l.done.drop 2)
     else l.done.head? ≠ some c && oddBackslashes l.done)
  if l.quote = some other then l
  else
    let l :=
      if escaped then l
      else if triple then
        { l with severalLines := !l.severalLines, openText := !l.severalLines }
      else { l with openText := !l.openText }
    { l with quote := if l.openText then some c else .none }

def isFree (l : Layout) : Bool := !l.openText && !l.inHeader && !l.inArrayHeader

def bracketStep (l : Layout) (rest : List Char) : Layout :=
  if !l.isFree then l
  else if !l.lineStart then { l with openArrays := l.openArrays + 1 }
  else if rest.head? = some '[' then { l with inArrayHeader := true }
  else { l with inHeader := true }

def closeStep (l : Layout) : Layout :=
  if l.openText then l
  else if l.inHeader then { l with inHeader := false }
  else if l.inArrayHeader then
    if l.done.head? = some ']' then { l with inArrayHeader := false } else l
  else { l with openArrays := l.openArrays - 1 }

/-- A line end; behind opening quotes it takes their place. -/
def lineEnd (l : Layout) : Result Layout :=
  if l.openText || l.severalLines then
    if !l.severalLines then .error .settingsForm
    else match l.done with
      | a :: b :: c :: before =>
        if (a = '"' || a = '\'') && b = a then
          .ok { l with done := a :: a :: b :: (if c = a then ' ' else c) :: before }
        else .ok (l.put '\n')
      | _ => .ok (l.put '\n')
  else if l.openArrays ≠ 0 then .ok (l.put ' ')
  else .ok { l.put '\n' with lineStart := true }

/-- The first character of a line that is no blank begins a key, unless it begins a header. -/
def startStep (l : Layout) (c : Char) : Result Layout :=
  if l.lineStart && c ≠ ' ' && c ≠ '\t' then
    if l.inHeader || l.inArrayHeader then .ok { l with lineStart := false }
    else if c = '=' then .error .settingsForm
    else .ok { l with lineStart := false, key := .within }
  else .ok l

/-- A character outside keys and comments. -/
def plainStep (l : Layout) (c : Char) (rest : List Char) : Result Layout := do
  if c = '\n' then
    l.lineEnd
  else
    let l :=
      if c = '"' || c = '\'' then l.quoteStep c
      else if c = '[' then l.bracketStep rest
      else if c = ']' then l.closeStep
      else l
    return (← l.startStep c).put c

def run (l : Layout) : List Char → Result Layout
  | [] => .ok l
  | c :: rest => do
    if l.key ≠ .none then
      match ← l.keyStep c rest with
      | some l => run (l.put c) rest
      | none => run { l.put c with key := .none, dotted := false } rest
    else if c = '#' && l.isFree then
      run (l.put ' ') (rest.dropWhile (· ≠ '\n'))
    else
      run (← l.plainStep c rest) rest
termination_by s => s.length
decreasing_by
  · simp
  · simp
  · exact Nat.lt_succ_of_le (List.dropWhile_sublist _).length_le
  · simp

end Layout

/-- The text without comments, ready to be read line by line. -/
def laidOut (s : List Char) : Result (List Char) := do
  let l ← Layout.run {} s
  if l.key ≠ .none || l.openText then throw .settingsForm
  return l.done.reverse

end RepoAtlas.Toml
