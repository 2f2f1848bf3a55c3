import RepoAtlas.Source.Token

/-!
Source text as tokens. Blank lines and comments vanish, a line break inside brackets is a mere
blank, and the margins of logical lines become indents and dedents. Margins are measured twice,
with tabs to the next multiple of eight and with tabs as one column; both must agree.
-/
namespace RepoAtlas.Source

open RepoAtlas.Text

/-- Each line ends in a single line feed. -/
def unifyLines : List Char → List Char
  | '\r' :: '\n' :: rest => '\n' :: unifyLines rest
  | '\r' :: rest => '\n' :: unifyLines rest
  | c :: rest => c :: unifyLines rest
  | [] => []

structure Margin where
  column : Nat := 0
  plain : Nat := 0
  /-- The column before the first line that a backslash joins to the next. -/
  joined : Nat := 0
  lines : Nat := 0

/-- Reads the margin of a line; backslashes may join further lines to it. -/
def margin (m : Margin) : List Char → Option (Margin × List Char)
  | ' ' :: rest => margin { m with column := m.column + 1, plain := m.plain + 1 } rest
  | '\t' :: rest => margin { m with column := (m.column / 8 + 1) * 8, plain := m.plain + 1 } rest
  | '\x0c' :: rest => margin { m with column := 0, plain := 0 } rest
  | '\\' :: '\n' :: c :: rest =>
    let joined := if m.joined = 0 then m.column else m.joined
    margin { m with joined, lines := m.lines + 1 } (c :: rest)
  | '\\' :: _ => none
  | rest => some (m, rest)

structure Layout where
  line : Nat := 1
  /-- The margins of the open blocks, innermost first. -/
  margins : List (Nat × Nat) := [(0, 0)]
  /-- The open brackets, innermost first. -/
  brackets : List Char := []
  /-- The tokens read so far, last one first. -/
  tokens : List Token := []

def maxMargins : Nat := 100
def maxBrackets : Nat := 200

namespace Layout

def push (l : Layout) (lexeme : Lexeme) : Layout :=
  { l with tokens := ⟨lexeme, l.line⟩ :: l.tokens }

/-- Closes the blocks that lie deeper than the margin. -/
def closeTo (column : Nat) : List (Nat × Nat) → Layout → Layout
  | top :: rest, l =>
    if column < top.1 then closeTo column rest { l.push .dedent with margins := rest }
    else { l with margins := top :: rest }
  | [], l => l

/-- Takes up the margin of a new logical line. -/
def indentTo? (l : Layout) (m : Margin) : Option Layout :=
  let column := if m.joined = 0 then m.column else m.joined
  let plain := if m.joined = 0 then m.plain else m.joined
  match l.margins with
  | [] => none
  | top :: rest =>
    if column = top.1 then if plain = top.2 then some l else none
    else if top.1 < column then
      if maxMargins ≤ l.margins.length || plain ≤ top.2 then none
      else some { l.push .indent with margins := (column, plain) :: top :: rest }
    else
      let closed := closeTo column l.margins l
      match closed.margins with
      | (c, p) :: _ => if c = column && p = plain then some closed else none
      | [] => none

def closing (c : Char) : Char :=
  if c = '(' then ')' else if c = '[' then ']' else '\x7d'

/-- Follows the brackets through a mark. -/
def bracket? (l : Layout) (mark : String) : Option Layout :=
  match mark.toList with
  | [c] =>
    if c = '(' ∨ c = '[' ∨ c = '\x7b' then
      if maxBrackets ≤ l.brackets.length then none else some { l with brackets := c :: l.brackets }
    else if c = ')' ∨ c = ']' ∨ c = '\x7d' then
      match l.brackets with
      | top :: rest => if closing top = c then some { l with brackets := rest } else none
      | [] => none
    else some l
  | _ => some l

/-- Takes a lexeme up, with the lines that its text spans. -/
def take? (l : Layout) (lexeme : Lexeme) : Option Layout :=
  let next := l.push lexeme
  match lexeme with
  | .mark m => next.bracket? m
  | .string _ body => some { next with line := l.line + body.toList.count '\n' }
  | _ => some next

/-- Reads the rest of a text; `fresh` at the beginning of a logical line. The fuel bounds the
characters and lines still to be read. -/
def run : Nat → Bool → List Char → Layout → Option (List Token)
  | 0, _, _, _ => none
  | fuel + 1, true, s, l =>
    match margin {} s with
    | none => none
    | some (m, '#' :: rest) =>
      match rest.dropWhile (· ≠ '\n') with
      | _ :: after => run fuel true after { l with line := l.line + m.lines + 1 }
      | [] => run fuel false [] l
    | some (m, '\n' :: rest) => run fuel true rest { l with line := l.line + m.lines + 1 }
    | some (m, rest) =>
      match indentTo? { l with line := l.line + m.lines } m with
      | some l => run fuel false rest l
      | none => none
  | fuel + 1, false, s, l =>
    match s with
    | [] => if l.brackets.isEmpty then some l.tokens.reverse else none
    | c :: rest =>
      if c = ' ' ∨ c = '\t' ∨ c = '\x0c' then run fuel false rest l
      else if c = '#' then run fuel false (rest.dropWhile (· ≠ '\n')) l
      else if c = '\n' then
        if l.brackets.isEmpty then
          run fuel true rest { l.push .newline with line := l.line + 1 }
        else run fuel false rest { l with line := l.line + 1 }
      else if c = '\\' then
        match rest with
        | '\n' :: d :: after => run fuel false (d :: after) { l with line := l.line + 1 }
        | _ => none
      else
        match Lexeme.read? s with
        | some (lexeme, after) =>
          match l.take? lexeme with
          | some l => run fuel false after l
          | none => none
        | none => none

end Layout

/-- The tokens of a text whose first line has the given number. -/
def tokensFrom? (line : Nat) (s : List Char) : Option (List Token) :=
  Layout.run (2 * s.length + 2) true s { line }

/-- A module's text ends in a line feed. -/
def closedText (s : List Char) : List Char :=
  if s.getLast? = some '\n' then s else s ++ ['\n']

end RepoAtlas.Source
