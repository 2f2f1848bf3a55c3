import RepoAtlas.Doc.Basic
import RepoAtlas.Fault
import RepoAtlas.Number.Numeral
import RepoAtlas.Text.CodeRanges
import RepoAtlas.Time.Timestamp

/-!
Simple values of TOML: truth values, quoted texts, numbers, and dates and times, which are known
by their texts only.
-/
namespace RepoAtlas.Toml

open RepoAtlas.Text

inductive ValueKind where
  | bool | text | list | table | int | float | date | time
  deriving DecidableEq, Repr

/-- A value with its kind. The items of a list must be of one kind. -/
abbrev Value := Doc × ValueKind

/-! ### Texts -/

def trailingBackslashes (s : List Char) : Nat := (s.reverse.takeWhile (· == '\\')).length

def endsEscaped (s : List Char) : Bool := trailingBackslashes s % 2 == 1

/-- Checks the pieces between the quotes of a text: nothing may follow the closing quotes. -/
def checkClosed (triple : Bool) : Bool → Nat → List (List Char) → Result Unit
  | _, _, [] => .ok ()
  | closed, quotes, [] :: rest =>
    if triple then checkClosed triple closed (quotes + 1) rest
    else checkClosed triple true quotes rest
  | closed, quotes, piece :: rest =>
    if endsEscaped piece then checkClosed triple closed quotes rest
    else if closed then .error .settingsForm
    else if !triple || 1 < quotes then checkClosed triple true quotes rest
    else checkClosed triple closed 0 rest

def checkQuotes (quote : Char) (v : List Char) : Result Unit :=
  match splitAt quote (v.drop 1) with
  | [] :: [] :: pieces => checkClosed true false 0 pieces
  | pieces => checkClosed false false 0 pieces

def namedEscape? (c : Char) : Option Char :=
  if c = '0' then some '\x00'
  else if c = 'b' then some '\x08'
  else if c = 'f' then some '\x0c'
  else if c = 'n' then some '\n'
  else if c = 'r' then some '\r'
  else if c = 't' then some '\t'
  else if c = '"' then some '"'
  else none

/-- Checks what stands behind single backslashes. -/
def checkEscapes : Bool → List (List Char) → Result Unit
  | _, [] => .ok ()
  | escaped, [] :: rest => checkEscapes (!escaped) rest
  | escaped, (c :: _) :: rest =>
    if (namedEscape? c).isSome || c = 'u' || c = 'U' || escaped then checkEscapes false rest
    else .error .settingsForm

/-- The pieces of a text between the places where a two-character mark stands. -/
def piecesBetween (a b : Char) : List Char → List (List Char)
  | [] => [[]]
  | [c] => [[c]]
  | c :: d :: rest =>
    if c = a && d = b then [] :: piecesBetween a b rest
    else match piecesBetween a b (d :: rest) with
      | piece :: pieces => (c :: piece) :: pieces
      | [] => [[c]]

/-- The character of an escape with a number, and what follows it. -/
def numberedChar (digits : Nat) (s : List Char) : Result (List Char) := do
  let hex := (s.take digits).map Char.toLower
  if hex.any (fun c => (hexDigitValue? c).isNone) then
    throw .settingsForm
  match hex with
  | 'd' :: c :: _ => if c < '0' || '7' < c then throw .settingsForm
  | _ => pure ()
  let code := hexValue hex
  if h : code.isValidChar then return Char.ofNatAux code h :: s.drop digits
  else throw .settingsForm

/-- Puts the characters of numbered escapes in place; `skip` tells that the next mark is no
escape, since its backslash is escaped itself. -/
def numberedPieces (mark : Char) (digits : Nat) :
    Bool → List (List Char) → Result (List Char)
  | _, [] => .ok []
  | true, piece :: rest => do
    return '\\' :: mark :: piece ++ (← numberedPieces mark digits (endsEscaped piece) rest)
  | false, piece :: rest => do
    return (← numberedChar digits piece) ++ (← numberedPieces mark digits false rest)

def numberedEscapes (mark : Char) (digits : Nat) (v : List Char) : Result (List Char) := do
  match piecesBetween '\\' mark v with
  | [] => return v
  | first :: pieces => return first ++ (← numberedPieces mark digits (endsEscaped first) pieces)

/-- Replaces the escapes of one character. -/
def unescaped : List Char → Result (List Char)
  | [] => .ok []
  | ['\\'] => .ok ['\\']
  | '\\' :: c :: rest =>
    match namedEscape? c with
    | some d => do return d :: (← unescaped rest)
    | none =>
      if c = '\\' then do return '\\' :: (← unescaped rest)
      else if c = 'u' || c = 'U' then do return '\\' :: c :: (← unescaped rest)
      else .error .settingsForm
  | c :: rest => do return c :: (← unescaped rest)

/-- The text without the quotes around it, one or three on each side. -/
def withoutQuotes (quote : Char) (v : List Char) : List Char :=
  let v := match v with
    | [_, b] => if b = quote then [] else v
    | _ :: b :: c :: rest => if b = quote && c = quote then (c :: rest).dropLast.dropLast else v
    | _ => v
  (v.drop 1).dropLast

def quotedValue (quote : Char) (v : List Char) : Result Value := do
  checkQuotes quote v
  let v ← if quote = '"' then do
      checkEscapes false ((splitAt '\\' v).drop 1)
      unescaped (← numberedEscapes 'U' 8 (← numberedEscapes 'u' 4 v))
    else pure v
  return (.text (String.ofList (withoutQuotes quote v)), .text)

/-! ### Numbers -/

/-- Digits of a base as a number. -/
def digitsIn? (base : Nat) (s : List Char) : Option Nat :=
  if s.isEmpty then none
  else s.foldlM
    (fun n c => (hexDigitValue? c).bind (fun d => if d < base then some (base * n + d) else none)) 0

/-- A number without sign, whose beginning tells its base. -/
def unsigned? (s : List Char) : Option Nat :=
  match s with
  | '0' :: c :: rest =>
    if c = 'x' || c = 'X' then digitsIn? 16 rest
    else if c = 'o' || c = 'O' then digitsIn? 8 rest
    else if c = 'b' || c = 'B' then digitsIn? 2 rest
    else if (c :: rest).all (· == '0') then some 0
    else none
  | s => if Numeral.maxDigits < s.length then none else digitsIn? 10 s

def wholeValue? (s : List Char) : Option Int :=
  let (negative, body) := Numeral.sign (Numeral.trimmed s)
  (unsigned? body).map (Numeral.signed negative)

/-- The difference of zero and a number: zero stays positive. -/
def negated (x : Binary64) : Binary64 := if x.isZero then .finite false 0 0 else x.neg

def isFloatText (s : List Char) : Bool :=
  s.contains '.' || (!s.contains 'x' && (s.contains 'e' || s.contains 'E'))

/-- A fraction has a digit in front and one behind its point. -/
def fractionValue (s : List Char) : Result Binary64 :=
  let behind := (s.dropWhile (· ≠ '.')).drop 1
  let hasFront := (s.head?.map isAsciiDigit).getD false
  if (s.contains '.' && behind.isEmpty) || !hasFront then .error .settingsForm
  else match Numeral.readFloat? s with
    | some x => .ok x
    | none => .error .settingsForm

def numberValue (v : List Char) : Result Value := do
  let (negative, s) := Numeral.sign v
  let s := s.filter (· ≠ '_')
  let word := s.map Char.toLower
  if isFloatText s || word = "inf".toList || word = "nan".toList then
    let x ← if isFloatText s then fractionValue s
      else pure (if word = "nan".toList then .nan else .infinite false)
    return (.float (if negative then negated x else x), .float)
  match wholeValue? s with
  | some i => return (.int (if negative then -i else i), .int)
  | none => throw .settingsForm

/-! ### Dates and times -/

def fieldAt (v : List Char) (start count : Nat) : Option Nat :=
  Numeral.digits? ((v.drop start).take count)

/-- The text of a date, for a text that begins with year, month and day. -/
def dateText? (v : List Char) : Option String := do
  let year ← fieldAt v 0 4
  let month ← fieldAt v 5 2
  let day ← fieldAt v 8 2
  if 1 ≤ year && 1 ≤ month && month ≤ 12 && 1 ≤ day && day ≤ Timestamp.daysInMonth year month then
    some (Timestamp.dateText { year, month, day })
  else none

def clockText? (hour minute second : Nat) : Option String :=
  if hour < 24 && minute < 60 && second < 60 then
    some (Timestamp.pad 2 hour ++ ":" ++ Timestamp.pad 2 minute ++ ":" ++ Timestamp.pad 2 second)
  else none

def microText (micro : Nat) : String :=
  if micro = 0 then "" else "." ++ Timestamp.pad 6 micro

/-- The text of an offset from UTC, and nothing if it is not understood. -/
def zoneText (v : List Char) : String :=
  if v = ['Z'] || v = ['z'] then "Z"
  else match v.head?, fieldAt v 1 2, fieldAt v 4 2 with
    | some sign, some hours, some minutes =>
      if hours = 0 && minutes = 0 then "Z"
      else String.ofList [if sign = '-' then '-' else '+'] ++ Timestamp.pad 2 hours ++ ":" ++
        Timestamp.pad 2 minutes
    | _, _, _ => ""

/-- The text of a date, or of a date with the time of day. -/
def momentText? (v : List Char) : Option String := do
  if !(v.drop 1).contains '-' then none
  let date ← dateText? v
  if v.length = 10 then some date
  else
    let clock ← clockText? (← fieldAt v 11 2) (← fieldAt v 14 2) (← fieldAt v 17 2)
    let rest := v.drop 19
    let (fraction, zone) := match rest with
      | '.' :: tail => tail.span isAsciiDigit
      | _ => ([], rest)
    let micro := Numeral.digitsValue ((fraction ++ List.replicate 6 '0').take 6)
    some (date ++ "T" ++ clock ++ microText micro ++ zoneText zone)

/-- Whether a text begins like a time of day. -/
def isClock (v : List Char) : Bool :=
  (fieldAt v 0 2).isSome && (fieldAt v 3 2).isSome && (fieldAt v 6 2).isSome &&
    v[2]? == some ':' && v[5]? == some ':' && 8 ≤ v.length

def clockValue (v : List Char) : Result Value := do
  let fraction := match v.drop 8 with
    | '.' :: tail => (tail.takeWhile isAsciiDigit).take 6
    | _ => []
  let micro := if 3 ≤ fraction.length then Numeral.digitsValue fraction else 0
  match clockText? ((fieldAt v 0 2).getD 0) ((fieldAt v 3 2).getD 0) ((fieldAt v 6 2).getD 0) with
  | some clock => return (.foreign (clock ++ microText micro), .time)
  | none => throw .settingsForm

/-! ### Any simple value -/

def simpleValue (v : List Char) : Result Value :=
  if v = "true".toList then .ok (.bool true, .bool)
  else if v = "false".toList then .ok (.bool false, .bool)
  else match v with
    | [] => .error .settingsForm
    | c :: _ =>
      if c = '"' || c = '\'' then quotedValue c v
      else if isClock v then clockValue v
      else match momentText? v with
        | some s => .ok (.foreign s, .date)
        | none => numberValue v

end RepoAtlas.Toml
