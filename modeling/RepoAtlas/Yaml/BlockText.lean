import RepoAtlas.Yaml.Cursor

/-!
Texts of indented lines, kept line by line or folded. A header says what becomes of the breaks
at the end, and perhaps how far the lines are indented.
-/
namespace RepoAtlas.Yaml

/-- What becomes of the last break and of the empty lines behind it. -/
inductive Chomping where
  | strip | clip | keep
  deriving DecidableEq, Repr

structure BlockHeader where
  chomping : Chomping := .clip
  indent : Option Nat := none

def chomping? (c : Cursor) : Option Chomping :=
  if c.peek == some '+' then some .keep
  else if c.peek == some '-' then some .strip
  else none

/-- The digit in front, which may not be zero. -/
def indentDigit (c : Cursor) : Result (Option Nat × Cursor) :=
  match c.peek with
  | some x =>
    if '0' ≤ x ∧ x ≤ '9' then
      if x = '0' then .error .manifestForm else .ok (some (x.toNat - 48), c.next)
    else .ok (none, c)
  | none => .ok (none, c)

/-- The two parts of the header may come in any order. -/
def blockHeader (c : Cursor) : Result (BlockHeader × Cursor) := do
  let (header, c) ← match chomping? c with
    | some chomping => do
      let (indent, c) ← indentDigit c.next
      pure (⟨chomping, indent⟩, c)
    | none => do
      let (indent, c) ← indentDigit c
      match indent, chomping? c with
      | some _, some chomping => pure (⟨chomping, indent⟩, c.next)
      | _, _ => pure (⟨.clip, indent⟩, c)
  if endsItem c.peek then return (header, ← c.endLine) else .error .manifestForm

/-- Leading empty lines, and the widest indentation among them and the line after. -/
def leadingBreaks : Nat → Nat → Cursor → List Char × Nat × Cursor
  | 0, widest, c => ([], widest, c)
  | fuel + 1, widest, c =>
    let c' := c.skipBlanks
    let widest := if c'.index = c.index then widest else max widest c'.column
    match c'.break? with
    | none => ([], widest, c')
    | some (b, c) =>
      let (more, widest, c) := leadingBreaks fuel widest c
      (b :: more, widest, c)

/-- Skips up to `indent` blanks on each line, and empty lines, and gives their breaks. -/
def blockBreaks (indent : Nat) : Nat → Cursor → List Char × Cursor
  | 0, c => ([], c)
  | fuel + 1, c =>
    let c := c.skipBlanksUpTo (indent - c.column)
    match c.break? with
    | none => ([], c)
    | some (b, c) =>
      let (more, c) := blockBreaks indent fuel c
      (b :: more, c)

/-- What has been read of a block: its text, the break behind the last line and the breaks of
the empty lines after it. -/
structure BlockLines where
  text : List Char := []
  last : List Char := []
  breaks : List Char
  cursor : Cursor

/-- What stands between two lines. Only neighbouring lines fold, and none that is indented
further. -/
def lineGap (fold : Bool) (first next : Option Char) (last breaks : List Char) : List Char :=
  let isSpaced (c : Option Char) := c == some ' ' || c == some '\t'
  if fold && last == ['\n'] && !isSpaced first && !isSpaced next then
    (if breaks.isEmpty then [' '] else [])
  else last

/-- Reads lines as long as they stand at the indentation. `gap` goes before the next one. -/
def blockLines (fold : Bool) (indent : Nat) : Nat → List Char → BlockLines → BlockLines
  | 0, _, found => found
  | fuel + 1, gap, found =>
    let c := found.cursor
    if c.column = indent && c.peek.isSome then
      let (line, after) := c.span (!isBreak ·)
      let (last, after) := match after.break? with
        | some (b, after) => ([b], after)
        | none => ([], after)
      let (breaks, after) := blockBreaks indent (after.rest.length + 1) after
      let read : BlockLines := ⟨found.text ++ gap ++ found.breaks ++ line, last, breaks, after⟩
      blockLines fold indent fuel (lineGap fold c.peek after.peek last breaks) read
    else found

/-- Reads a block from its mark on. `outer` is the indentation of what it belongs to. -/
def blockText (fold : Bool) (outer : Int) (c : Cursor) : Result (List Char × Cursor) := do
  let (header, c) ← blockHeader c.next
  let least := max 1 (outer + 1).toNat
  let (breaks, indent, c) := match header.indent with
    | none =>
      let (breaks, widest, c) := leadingBreaks (c.rest.length + 1) 0 c
      (breaks, max least widest, c)
    | some n =>
      let indent := least + n - 1
      let (breaks, c) := blockBreaks indent (c.rest.length + 1) c
      (breaks, indent, c)
  let found := blockLines fold indent (c.rest.length + 1) [] { breaks, cursor := c }
  let tail := match header.chomping with
    | .strip => []
    | .clip => found.last
    | .keep => found.last ++ found.breaks
  return (found.text ++ tail, found.cursor)

end RepoAtlas.Yaml
