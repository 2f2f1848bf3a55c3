import RepoAtlas.Text.CharClass
import RepoAtlas.Text.LowerCase
import RepoAtlas.Text.Pieces

/-!
Marked-up text. A tag stands in square brackets and begins with a small letter, `#`, `/` or `@`;
`[/red]` closes the last open `[red]`, and `[/]` the last open tag of all. A backslash before a
bracket takes its meaning away. On plain paper the tags leave no trace.
-/
namespace RepoAtlas.Report.Markup

open RepoAtlas.Text

def beginsTag (c : Char) : Bool := ('a' ≤ c && c ≤ 'z') || c == '#' || c == '/' || c == '@'

/-- The text up to the closing bracket, and what follows it. -/
def closed? : List Char → Option (List Char × List Char)
  | [] => none
  | c :: rest =>
    if c = ']' then some ([], rest)
    else if c = '[' then none
    else (closed? rest).map (fun (inside, after) => (c :: inside, after))

/-- The inside of a tag at the beginning of a text, and what follows it. -/
def tag? : List Char → Option (List Char × List Char)
  | '[' :: c :: rest =>
    if beginsTag c then (closed? rest).map (fun (inside, after) => (c :: inside, after)) else none
  | _ => none

inductive Piece where
  | text (s : List Char)
  | tag (inside : List Char)
  deriving DecidableEq, Repr

/-- A tag with the backslashes before it: two of them stand for one, and a single one that is
left makes the tag a text. -/
def escapedPieces (slashes : Nat) (inside : List Char) : List Piece :=
  [.text (List.replicate (slashes / 2) '\\'),
    if slashes % 2 = 1 then .text ('[' :: inside ++ [']']) else .tag inside]

/-- The pieces of a text; `fuel` bounds the characters still to read. -/
def piecesWithin : Nat → List Char → List Piece
  | 0, _ => []
  | _ + 1, [] => []
  | fuel + 1, c :: rest =>
    let (slashes, following) := (c :: rest).span (· = '\\')
    match tag? following, c, rest with
    | some (inside, after), _, _ => escapedPieces slashes.length inside ++ piecesWithin fuel after
    | none, '\\', '[' :: after => .text ['['] :: piecesWithin fuel after
    | none, c, rest => .text [c] :: piecesWithin fuel rest

def shortNames : List (String × String) :=
  [("b", "bold"), ("d", "dim"), ("i", "italic"), ("u", "underline"), ("r", "reverse"),
   ("c", "conceal"), ("s", "strike"), ("uu", "underline2"), ("o", "overline")]

/-- The full name of a style in small letters. -/
def styleName (name : List Char) : String :=
  let word := String.ofList (lower (trimWhile isBlank name))
  ((shortNames.find? (·.1 == word)).map (·.2)).getD word

/-- The tags left open after a tag, the latest first; none if it closes nothing. -/
def afterTag (opened : List String) (inside : List Char) : Option (List String) :=
  match inside.takeWhile (· ≠ '='), opened with
  | '/' :: name, _ =>
    if (trimWhile isBlank name).isEmpty then opened.tail?
    else if opened.contains (styleName name) then some (opened.erase (styleName name))
    else none
  | name, _ => some (styleName name :: opened)

def withoutTags (opened : List String) : List Piece → Option (List Char)
  | [] => some []
  | .text s :: rest => (withoutTags opened rest).map (s ++ ·)
  | .tag inside :: rest => do withoutTags (← afterTag opened inside) rest

/-- Controls that no terminal line can hold. -/
def isDropped (c : Char) : Bool :=
  let n := c.toNat
  n == 7 || n == 8 || (11 ≤ n && n ≤ 13)

/-- The text on plain paper; none if a tag closes nothing. -/
def plain? (s : String) : Option String := do
  let shown ← withoutTags [] (piecesWithin s.length s.toList)
  some (String.ofList (shown.filter (fun c => !isDropped c)))

end RepoAtlas.Report.Markup
