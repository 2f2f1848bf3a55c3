import RepoAtlas.Text.CellWidth
import RepoAtlas.Text.CharClass

/-!
Filling lines. Words go into a line as long as they fit; a word that is wider than a line begins
one of its own and is folded or cut there. Blanks after a word stay in its line.
-/
namespace RepoAtlas.Report

open RepoAtlas.Text

/-- What happens to a word that is wider than a line. -/
inductive Overflow where
  | fold
  | ellipsis
  deriving DecidableEq, Repr

/-- Where a text stands in its line; a loose line is as long as its text. -/
inductive Align where
  | loose
  | left
  | center
  | right
  deriving DecidableEq, Repr

/-- Blanks up to the next multiple of eight take the place of a tab stop. -/
def tabStop : Nat := 8

def expandTabs (used : Nat) : List Char → List Char
  | [] => []
  | c :: rest =>
    if c = '\t' then
      let next := (used / tabStop + 1) * tabStop
      List.replicate (next - used) ' ' ++ expandTabs next rest
    else c :: expandTabs (used + charCells c) rest

/-- The first word of a text with the blanks around it, and the rest; none in blanks. -/
def firstWord? (s : List Char) : Option (List Char × List Char) :=
  let (before, rest) := s.span isBlank
  let (word, rest) := rest.span (fun c => !isBlank c)
  let (after, rest) := rest.span isBlank
  if word.isEmpty then none else some (before ++ word ++ after, rest)

/-- The words of a text; `fuel` bounds their number. -/
def wordsWithin : Nat → List Char → List (List Char)
  | 0, _ => []
  | fuel + 1, s =>
    match firstWord? s with
    | some (word, rest) => word :: wordsWithin fuel rest
    | none => []

def words (s : List Char) : List (List Char) := wordsWithin s.length s

/-- Lines under way, the latest first, and how many cells of the latest are taken. -/
structure Filling where
  lines : List (List Char) := []
  used : Nat := 0

def Filling.begin (f : Filling) (piece : List Char) : Filling :=
  { lines := piece :: f.lines, used := cells piece }

def Filling.extend (f : Filling) (piece : List Char) : Filling :=
  match f.lines with
  | [] => f.begin piece
  | line :: earlier => { lines := (line ++ piece) :: earlier, used := f.used + cells piece }

/-- Pieces of a word that fill a line each. -/
def chop (width : Nat) (line : List Char) : List Char → List (List Char)
  | [] => [line]
  | c :: rest =>
    if width < cells line + charCells c then line :: chop width [c] rest
    else chop width (line ++ [c]) rest

theorem flatten_chop (width : Nat) (line s : List Char) :
    (chop width line s).flatten = line ++ s := by
  induction s generalizing line with
  | nil => simp [chop]
  | cons c rest ih =>
    simp only [chop]
    split <;> simp [ih]

def Filling.add (width : Nat) (overflow : Overflow) (f : Filling) (word : List Char) : Filling :=
  let size := cells (dropEndWhile isBlank word)
  if f.used + size ≤ width then f.extend word
  else if size ≤ width then f.begin word
  else match overflow with
    | .fold => (chop width [] word).foldl Filling.begin f
    | .ellipsis => f.begin word

/-- A line of text as lines that its words fill. -/
def fill (width : Nat) (overflow : Overflow) (s : List Char) : List (List Char) :=
  match words s with
  | [] => [s]
  | found => (found.foldl (Filling.add width overflow) {}).lines.reverse

/-- Drops blanks at the end as far as the line is too long. -/
def cropEnd (width : Nat) (line : List Char) : List Char :=
  let blanks := line.length - (dropEndWhile isBlank line).length
  line.take (line.length - min blanks (line.length - width))

def cut (width : Nat) (overflow : Overflow) (line : List Char) : List Char :=
  if cells line ≤ width then line
  else match overflow with
    | .fold => toCells width line
    | .ellipsis => toCells (width - 1) line ++ ['…']

def blanks (count : Nat) : List Char := List.replicate count ' '

def Align.place (align : Align) (width : Nat) (overflow : Overflow) (line : List Char) :
    List Char :=
  let whole := cut width overflow line
  let bare := cut width overflow (dropEndWhile isBlank line)
  let room := width - cells bare
  match align with
  | .loose => whole
  | .left => whole ++ blanks (width - cells whole)
  | .center => blanks (room / 2) ++ bare ++ blanks (room - room / 2)
  | .right => blanks room ++ bare

/-- The lines of a text at a width. -/
def wrap (width : Nat) (overflow : Overflow) (align : Align) (text : String) :
    List (List Char) :=
  (splitAt '\n' text.toList).flatMap (fun line =>
    (fill width overflow (expandTabs 0 line)).map (fun l =>
      align.place width overflow (cropEnd width l)))

end RepoAtlas.Report
