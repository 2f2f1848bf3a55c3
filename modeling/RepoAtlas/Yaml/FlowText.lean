import RepoAtlas.Text.CodeRanges
import RepoAtlas.Yaml.Cursor

/-!
Texts in one line or folded: plain ones and those in quotes.
-/
namespace RepoAtlas.Yaml

/-! ### Plain texts

They end at a mark of structure, at a comment, or where the indentation
ends; line breaks inside them fold.
-/

/-- Marks that may not begin a text without quotes. -/
def isIndicator (c : Char) : Bool :=
  "-?:,[]\x7b\x7d#&*!|>'\"%@".toList.contains c || c == '\x60'

def isFlowMark (c : Char) : Bool := ",?[]\x7b\x7d".toList.contains c

def beginsPlain (inFlow : Bool) (c : Cursor) : Bool :=
  match c.peek with
  | none => false
  | some x =>
    (!isIndicator x && !endsWord x) ||
      (!endsWord (c.peekAt 1) && (x == '-' || (!inFlow && (x == '?' || x == ':'))))

/-- Whether a colon before this character ends the text. -/
def endsKey (inFlow : Bool) (next : Option Char) : Bool :=
  endsWord next || (inFlow && (next.map (",[]\x7b\x7d".toList.contains ·)).getD false)

/-- The length of the word in front. -/
def plainWordLength (inFlow : Bool) : List Char → Nat
  | [] => 0
  | x :: rest =>
    if endsWord x || (x == ':' && endsKey inFlow rest.head?) || (inFlow && isFlowMark x) then 0
    else plainWordLength inFlow rest + 1

/-- The breaks at the beginnings of lines; the flag tells that a document marker follows. -/
def plainBreaks : Nat → Cursor → List Char × Cursor × Bool
  | 0, c => ([], c, false)
  | fuel + 1, c =>
    let c := c.skipBlanks
    match c.break? with
    | none => ([], c, false)
    | some (b, c) =>
      if c.atAnyMarker then ([b], c, true)
      else
        let (more, c, marked) := plainBreaks fuel c
        (b :: more, c, marked)

/-- White space after a word: what it stands for, and whether it holds a break. -/
def plainSpaces (c : Cursor) : List Char × Cursor × Bool :=
  let (blanks, c) := c.span (· == ' ')
  match c.break? with
  | none => (blanks, c, false)
  | some (first, c) =>
    if c.atAnyMarker then ([], c, true)
    else
      let (more, c, marked) := plainBreaks (c.rest.length + 1) c
      (if marked then [] else folded first more, c, true)

structure PlainText where
  text : List Char
  cursor : Cursor
  /-- The text ends behind a line break. -/
  atLineStart : Bool

/-- Goes on behind the words read so far. `indent` is the least column of further lines. -/
def plainFrom (inFlow : Bool) (indent : Int) : Nat → PlainText → List Char → PlainText
  | 0, found, _ => found
  | fuel + 1, found, spaces =>
    let c := found.cursor
    let length := plainWordLength inFlow c.rest
    if c.peek == some '#' || length == 0 then found
    else
      let word := c.rest.take length
      let (spaces', c, broke) := plainSpaces (c.skip length)
      let found := ⟨found.text ++ spaces ++ word, c, broke⟩
      if spaces'.isEmpty || c.peek == some '#' || (!inFlow && (c.column : Int) < indent) then found
      else plainFrom inFlow indent fuel found spaces'

def plainText (inFlow : Bool) (indent : Int) (c : Cursor) : PlainText :=
  plainFrom inFlow indent (c.rest.length + 1) ⟨[], c, false⟩ []

/-! ### Texts in quotes

In single quotes a quote is written twice; in double quotes a backslash begins
an escape. Line breaks inside fold.
-/

def shortEscapes : List (Char × Char) :=
  [('0', '\x00'), ('a', '\x07'), ('b', '\x08'), ('t', '\t'), ('\t', '\t'), ('n', '\n'),
   ('v', '\x0b'), ('f', '\x0c'), ('r', '\r'), ('e', '\x1b'), (' ', ' '), ('"', '"'),
   ('\\', '\\'), ('/', '/'), ('N', '\x85'), ('_', '\xa0'), ('L', '\u2028'), ('P', '\u2029')]

/-- How many hexadecimal digits follow the letter of an escape by number. -/
def escapeDigits? (c : Char) : Option Nat :=
  if c = 'x' then some 2 else if c = 'u' then some 4 else if c = 'U' then some 8 else none

/-- Skips blanks and breaks and gives the breaks. A document marker may not stand in a text. -/
def quotedBreaks : Nat → Cursor → Result (List Char × Cursor)
  | 0, c => .ok ([], c)
  | fuel + 1, c =>
    if c.atAnyMarker then .error .manifestForm
    else
      let c := c.skipWhile (fun x => x == ' ' || x == '\t')
      match c.break? with
      | none => .ok ([], c)
      | some (b, c) => do
        let (more, c) ← quotedBreaks fuel c
        return (b :: more, c)

/-- White space inside a text. -/
def quotedSpaces (c : Cursor) : Result (List Char × Cursor) := do
  let (blanks, c) := c.span (fun x => x == ' ' || x == '\t')
  match c.peek, c.break? with
  | none, _ => .error .manifestForm
  | _, none => return (blanks, c)
  | _, some (first, c) =>
    let (more, c) ← quotedBreaks (c.rest.length + 1) c
    return (folded first more, c)

/-- Reads what stands behind a backslash. -/
def escape (c : Cursor) : Result (List Char × Cursor) :=
  match c.peek with
  | none => .error .manifestForm
  | some x =>
    match shortEscapes.lookup x, escapeDigits? x with
    | some meaning, _ => .ok ([meaning], c.next)
    | _, some count =>
      let digits := c.next.rest.take count
      if digits.length = count && digits.all (fun d => (Text.hexDigitValue? d).isSome) then
        let code := digits.foldl (fun n d => 16 * n + (Text.hexDigitValue? d).getD 0) 0
        if 0x80000000 ≤ code then .error .tooLarge
        else if 0x110000 ≤ code then .error .notACharacter
        else .ok ([if 0xd800 ≤ code ∧ code < 0xe000 then '\ufffd' else Char.ofNat code],
          c.skip (count + 1))
      else .error .manifestForm
    | none, none =>
      match c.break? with
      | some (_, c) => quotedBreaks (c.rest.length + 1) c
      | none => .error .manifestForm

def isQuotedPlain (c : Char) : Bool :=
  !(c == '\'' || c == '"' || c == '\\' || endsWord c)

/-- Reads up to the closing quote. -/
def quotedFrom (double : Bool) : Nat → List Char → Cursor → Result (List Char × Cursor)
  | 0, _, _ => .error .manifestForm
  | fuel + 1, done, c =>
    let (run, c) := c.span isQuotedPlain
    let done := done ++ run
    match c.peek with
    | none => .error .manifestForm
    | some x =>
      if endsWord x then do
        let (spaces, c) ← quotedSpaces c
        quotedFrom double fuel (done ++ spaces) c
      else if !double && x == '\'' && c.peekAt 1 == some '\'' then
        quotedFrom double fuel (done ++ ['\'']) (c.skip 2)
      else if x == (if double then '"' else '\'') then .ok (done, c.next)
      else if double && x == '\\' then do
        let (meaning, c) ← escape c.next
        quotedFrom double fuel (done ++ meaning) c
      else quotedFrom double fuel (done ++ [x]) c.next

/-- Reads a text from its opening quote on. -/
def quotedText (double : Bool) (c : Cursor) : Result (List Char × Cursor) :=
  quotedFrom double (c.rest.length + 1) [] c.next

end RepoAtlas.Yaml
