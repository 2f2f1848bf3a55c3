/-!
Glob patterns: a star stands for any text, a question mark for any character, and brackets for
a character of a set, which may hold ranges and be negated. A bracket that is never closed
stands for itself.
-/
namespace RepoAtlas.Text

inductive GlobPart where
  | anyText
  | anyChar
  | char (c : Char)
  | set (negated : Bool) (chars : List Char) (ranges : List (Char × Char))
  deriving DecidableEq, Repr

namespace GlobPart

/-- Whether the part stands for the single character. -/
def accepts (c : Char) : GlobPart → Bool
  | .anyText => false
  | .anyChar => true
  | .char x => x == c
  | .set negated chars ranges =>
    negated != (chars.contains c || ranges.any (fun r => r.1 ≤ c && c ≤ r.2))

/-- Cuts the inside of a set off, behind its opening bracket. A closing bracket in front counts
as a member. -/
def setBody? (s : List Char) : Option (List Char × List Char) :=
  let (mark, rest) := match s with
    | '!' :: rest => (['!'], rest)
    | _ => ([], s)
  let (first, rest) := match rest with
    | ']' :: rest => ([']'], rest)
    | _ => ([], rest)
  match rest.span (· ≠ ']') with
  | (inside, ']' :: rest) => some (mark ++ first ++ inside, rest)
  | _ => none

/-- The pieces between the hyphens that make ranges. `kept` characters in front of each piece
cannot be such a hyphen. -/
def rangePieces : Nat → Nat → List Char → List (List Char)
  | 0, _, s => [s]
  | fuel + 1, kept, s =>
    match (s.drop kept).span (· ≠ '-') with
    | (more, '-' :: rest) => (s.take kept ++ more) :: rangePieces fuel 2 rest
    | _ => [s]

/-- A hyphen at the end makes no range. -/
def closePieces : List (List Char) → List (List Char)
  | [p, []] => [p ++ ['-']]
  | p :: rest => p :: closePieces rest
  | [] => []

/-- Takes out ranges that run backwards, with their ends. -/
def dropEmptyRanges : List (List Char) → List (List Char)
  | [] => []
  | p :: rest =>
    match dropEmptyRanges rest with
    | [] => [p]
    | q :: more =>
      match p.getLast?, q.head? with
      | some a, some b =>
        if b < a then (p.dropLast ++ q.drop 1) :: more else p :: q :: more
      | _, _ => p :: q :: more

/-- The ranges between neighbouring pieces. -/
def rangesOf : List (List Char) → List (Char × Char)
  | p :: q :: rest =>
    match p.getLast?, q.head? with
    | some a, some b => (a, b) :: rangesOf (q :: rest)
    | _, _ => ('-', '-') :: rangesOf (q :: rest)
  | _ => []

def ofSetBody (body : List Char) : GlobPart :=
  let kept := if body.head? = some '!' then 2 else 1
  match dropEmptyRanges (closePieces (rangePieces body.length kept body)) with
  | ('!' :: p) :: rest => .set true (p ++ rest.flatten) (rangesOf (p :: rest))
  | pieces => .set false pieces.flatten (rangesOf pieces)

/-- The parts of a pattern. -/
def partsFrom : Nat → List Char → List GlobPart
  | 0, _ => []
  | _ + 1, [] => []
  | fuel + 1, c :: rest =>
    if c = '*' then .anyText :: partsFrom fuel rest
    else if c = '?' then .anyChar :: partsFrom fuel rest
    else if c = '[' then
      match setBody? rest with
      | some (body, rest) => ofSetBody body :: partsFrom fuel rest
      | none => .char c :: partsFrom fuel rest
    else .char c :: partsFrom fuel rest

def parts (pattern : List Char) : List GlobPart := partsFrom (pattern.length + 1) pattern

end GlobPart

/-- Whether some end of the text, from all of it to nothing, has the property. -/
def anySuffix (p : List Char → Bool) : List Char → Bool
  | [] => p []
  | c :: s => p (c :: s) || anySuffix p s

/-- Whether the parts stand for the whole text. -/
def globParts : List GlobPart → List Char → Bool
  | [], s => s.isEmpty
  | .anyText :: rest, s => anySuffix (globParts rest) s
  | p :: rest, s =>
    match s with
    | [] => false
    | c :: s => p.accepts c && globParts rest s

def globMatches (pattern s : String) : Bool :=
  globParts (GlobPart.parts pattern.toList) s.toList

/-- Whether a text holds a mark of a pattern. -/
def isGlob (s : String) : Bool := s.toList.any (fun c => c == '*' || c == '?' || c == '[')

end RepoAtlas.Text
