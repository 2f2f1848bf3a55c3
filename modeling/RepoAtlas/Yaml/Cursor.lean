import RepoAtlas.Fault

/-!
A place in a YAML text: what follows it, and where it stands. Lines end at any of five breaks,
and a byte order mark takes no column.
-/
namespace RepoAtlas.Yaml

def isBreak (c : Char) : Bool :=
  c == '\n' || c == '\r' || c == '\x85' || c == '\u2028' || c == '\u2029'

/-- The characters a YAML text may hold. -/
def isAllowed (c : Char) : Bool :=
  let n := c.toNat
  n == 9 || n == 10 || n == 13 || (0x20 ≤ n && n ≤ 0x7e) || n == 0x85 ||
    (0xa0 ≤ n && n ≤ 0xfffd) || 0x10000 ≤ n

/-- A break or the end of the text. -/
def endsLine (c : Option Char) : Bool :=
  match c with
  | none => true
  | some c => isBreak c

def endsItem (c : Option Char) : Bool := c == some ' ' || endsLine c

def endsWord (c : Option Char) : Bool := c == some '\t' || endsItem c

structure Cursor where
  rest : List Char
  index : Nat := 0
  line : Nat := 0
  column : Nat := 0
  deriving Inhabited

namespace Cursor

def peek (c : Cursor) : Option Char := c.rest.head?

def peekAt (c : Cursor) (n : Nat) : Option Char := c.rest[n]?

def next (c : Cursor) : Cursor :=
  match c.rest with
  | [] => c
  | x :: rest =>
    if isBreak x && !(x == '\r' && rest.head? == some '\n') then
      ⟨rest, c.index + 1, c.line + 1, 0⟩
    else ⟨rest, c.index + 1, c.line, if x = '\ufeff' then c.column else c.column + 1⟩

def skip : Nat → Cursor → Cursor
  | 0, c => c
  | n + 1, c => skip n c.next

/-- The characters in front that satisfy `p`, and the place behind them. -/
def span (p : Char → Bool) (c : Cursor) : List Char × Cursor :=
  let found := c.rest.takeWhile p
  (found, c.skip found.length)

def skipWhile (p : Char → Bool) (c : Cursor) : Cursor := (c.span p).2

def skipBlanks : Cursor → Cursor := skipWhile (· == ' ')

/-- At most so many blanks. -/
def skipBlanksUpTo (limit : Nat) (c : Cursor) : Cursor :=
  c.skip (min limit (c.rest.takeWhile (· == ' ')).length)

def startsWith (c : Cursor) (text : String) : Bool := text.toList.isPrefixOf c.rest

/-- A document marker stands here, as a word of its own at the beginning of a line. -/
def atMarker (c : Cursor) (mark : String) : Bool :=
  c.column == 0 && c.startsWith mark && endsWord (c.peekAt 3)

def atAnyMarker (c : Cursor) : Bool := c.atMarker "---" || c.atMarker "..."

/-- Reads a line break. The breaks of ASCII and the next-line control count as line feeds. -/
def break? (c : Cursor) : Option (Char × Cursor) :=
  match c.peek with
  | none => none
  | some x =>
    if x = '\r' && c.peekAt 1 == some '\n' then some ('\n', c.skip 2)
    else if x = '\u2028' ∨ x = '\u2029' then some (x, c.next)
    else if isBreak x then some ('\n', c.next)
    else none

/-- Skips a comment, up to the end of the line. -/
def skipComment (c : Cursor) : Cursor :=
  if c.peek == some '#' then c.skipWhile (!isBreak ·) else c

/-- Skips blanks and a comment, then the line's break; nothing else may stand there. -/
def endLine (c : Cursor) : Result Cursor :=
  let c := c.skipBlanks.skipComment
  if endsLine c.peek then .ok ((c.break?.map (·.2)).getD c) else .error .manifestForm

end Cursor

/-- A single line feed within a text folds to a blank; further breaks stay as they are. -/
def folded (first : Char) (more : List Char) : List Char :=
  (if first ≠ '\n' then [first] else if more.isEmpty then [' '] else []) ++ more

end RepoAtlas.Yaml
