import RepoAtlas.Toml.Scalar

/-!
Entries of tables: a key, which may name inner tables, an equals sign and a value. A text of
several lines is left open at the end of its first line.
-/
namespace RepoAtlas.Toml

open RepoAtlas.Text

/-- A text whose closing quotes have not been met. -/
structure OpenText where
  key : String
  text : List Char
  /-- The next line follows without a line feed. -/
  joined : Bool := false
  deriving Repr

/-! ### Keys -/

/-- The pieces of a line between its quotes, plain and quoted ones in turn. -/
def quotePieces (line : List Char) : List (List Char) :=
  let pieces := splitAt '"' line
  match pieces with
  | first :: second :: rest =>
    if first.contains '\'' then
      let (single, double) := singleFirst (pieces.length) (splitAt '\'' first) (second :: rest)
      single ++ behindFirst double
    else behindFirst pieces
  | pieces => behindFirst pieces
where
  /-- Single quotes that are open take double quotes in. -/
  singleFirst : Nat → List (List Char) → List (List Char) → List (List Char) × List (List Char)
    | fuel + 1, single, next :: double =>
      if single.length % 2 = 0 then
        let last := single.getLast?.getD [] ++ '"' :: next
        singleFirst fuel (single.dropLast ++ splitAt '\'' last) double
      else (single, next :: double)
    | _, single, double => (single, double)
  behindFirst : List (List Char) → List (List Char)
    | [] => []
    | first :: rest => splitAt '\'' first ++ rest

/-- The number of marks that stand inside quotes before the first one that does not, and one
more for that. -/
def firstPlain (holds : List Char → Bool) (count : List Char → Nat) :
    Bool → List (List Char) → Nat
  | _, [] => 1
  | quoted, piece :: rest =>
    if !quoted && holds piece then 1
    else count piece + firstPlain holds count (!quoted) rest

def countChar (c : Char) (s : List Char) : Nat := s.count c

/-- A line cut at its `n`-th equals sign, or at the last one if it has fewer. -/
def cutAtEquals : Nat → List Char → List Char × List Char
  | 0, s => ([], s)
  | n + 1, s =>
    let front := s.takeWhile (· ≠ '=')
    let rest := s.drop (front.length + 1)
    if n = 0 || !rest.contains '=' then (front, rest)
    else
      let (more, value) := cutAtEquals n rest
      (front ++ '=' :: more, value)

/-- Whether a value may begin in this way; a number, date or time must be one as a whole. -/
def beginsValue (v : List Char) : Bool :=
  match v with
  | [] => true
  | c :: _ =>
    c = ' ' || c = '\t' || c = '\'' || c = '"' || c = '[' || c = '\x7b' ||
      trimWhile isBlank v = "true".toList || trimWhile isBlank v = "false".toList ||
      (Numeral.readFloat? v).isSome || (momentText? v).isSome || isClock v

/-- Moves the equals sign on until a value follows it. -/
def settleEquals (line : List Char) : Nat → Nat → List Char × List Char →
    Result (List Char × List Char)
  | 0, _, _ => .error .settingsForm
  | fuel + 1, n, pair =>
    if beginsValue pair.2 then .ok pair
    else
      let next := cutAtEquals (n + 1) line
      if next.2 = pair.2 then .error .settingsForm else settleEquals line fuel (n + 1) next

/-- The key and the value of a line. -/
def keyAndValue (line : List Char) : Result (List Char × List Char) := do
  let n := firstPlain (·.contains '=') (countChar '=') false (quotePieces line)
  let (key, value) := cutAtEquals n line
  let digitFirst := (value.head?.map isAsciiDigit).getD false
  let value := if digitFirst then value.filter (· ≠ '_') else value
  let (key, value) ← settleEquals line (line.length + 2) n (key, value)
  return (trimWhile isBlank key, trimWhile isBlank value)

def dottedParts : Bool → List (List Char) → List (List Char)
  | _, [] => []
  | true, piece :: rest => piece :: dottedParts false rest
  | false, piece :: rest => (splitAt '.' piece).map (trimWhile isBlank) ++ dottedParts true rest

/-- The names of the inner tables that a key leads through, and its last name. -/
def keyPath (key : List Char) : Result (List String × String) := do
  if key.contains '.' then
    let levels :=
      if key.contains '"' || key.contains '\'' then dottedParts false (quotePieces key)
      else splitAt '.' key
    let levels := (levels.reverse.dropWhile (·.isEmpty)).reverse
    match levels.getLast? with
    | none => throw .noSuchItem
    | some last =>
      return ((levels.dropLast.filter (!·.isEmpty)).map String.ofList,
        String.ofList (trimWhile isBlank last))
  match key.head? with
  | none => throw .noSuchItem
  | some c =>
    if (c = '"' || c = '\'') && key.getLast? = some c then
      return ([], String.ofList (← unescaped ((key.drop 1).dropLast)))
    return ([], String.ofList key)

/-! ### Tables -/

/-- The member of a table that lies below inner tables, changed; missing tables are made. -/
def changeBelow (f : Doc → Result Doc) : List String → Doc → Result Doc
  | [], d => f d
  | name :: rest, .object ms => do
    let inner := (OrderedMap.lookup name ms).getD (.object [])
    return .object ((OrderedMap.mk ms).insert name (← changeBelow f rest inner)).entries
  | _ :: _, _ => .error .wrongKind

/-- A table with one more entry; a key cannot be given twice. -/
def addEntry (key : String) (v : Doc) : Doc → Result Doc
  | .object ms =>
    if (OrderedMap.lookup key ms).isSome then .error .settingsForm
    else .ok (.object (ms ++ [(key, v)]))
  | _ => .error .settingsForm

/-- Sets the value of a key, whether it is given or not. -/
def setEntry (key : String) (v : Doc) : Doc → Result Doc
  | .object ms => .ok (.object ((OrderedMap.mk ms).insert key v).entries)
  | _ => .error .wrongKind

/-- Checks that a key is new, and makes the tables that it leads through. -/
def reserve (key : String) : Doc → Result Doc
  | .object ms =>
    if (OrderedMap.lookup key ms).isSome then .error .settingsForm else .ok (.object ms)
  | _ => .error .settingsForm

/-! ### Lists -/

/-- Whether the quotes of an item are closed. -/
def isBounded (s : List Char) : Bool :=
  s.isEmpty || (s.head? == s.getLast? && (s.length < 3 || !endsEscaped (s.drop 1).dropLast))

def isCompleteText (piece : List Char) : Bool :=
  let s := trimWhile isBlank piece
  let openTriple := match s with
    | a :: b :: c :: _ =>
      a = b && b = c && (s.reverse[1]? ≠ some a) && (s.reverse[2]? ≠ some a)
    | _ => false
  isBounded s && !openTriple

/-- Joins the pieces of texts that hold commas. -/
def joinTexts : List (List Char) → Result (List (List Char))
  | [] => .ok []
  | [x] => .ok [x]
  | x :: y :: rest =>
    if isCompleteText x then do return x :: (← joinTexts (y :: rest))
    else
      let z := x ++ ',' :: y
      if isCompleteText z then do return z :: (← joinTexts rest)
      else if rest.isEmpty then .error .noSuchItem
      else joinTexts (z :: rest)
termination_by pieces => pieces.length

/-- Pieces between the commas that stand in no inner list. -/
def splitOutside : Int → List Char → List Char → List (List Char)
  | _, piece, [] => [piece.reverse]
  | depth, piece, c :: rest =>
    if c = ',' && depth = 0 then piece.reverse :: splitOutside depth [] rest
    else
      let depth := if c = '[' then depth + 1 else if c = ']' then depth - 1 else depth
      splitOutside depth (c :: piece) rest

structure GroupScan where
  groups : List (List Char) := []
  group : List Char := []
  depth : Nat := 0
  inText : Bool := false
  waiting : Bool := false

/-- One character of a list of inline tables; a group ends with the brace that closes it. -/
def GroupScan.step (g : GroupScan) (c : Char) : GroupScan :=
  if g.waiting && c ≠ '\x7b' then g
  else if g.waiting then { g with waiting := false, group := [c] }
  else
    let isQuote := c = '"' || c = '\''
    let escaped := g.inText && endsEscaped g.group.reverse
    let inText := if isQuote && !escaped then !g.inText else g.inText
    let g := { g with group := c :: g.group, inText }
    if inText then g
    else if c = '\x7b' then { g with depth := g.depth + 1 }
    else if c ≠ '\x7d' then g
    else if 1 < g.depth then { g with depth := g.depth - 1 }
    else { g with groups := g.groups ++ [g.group.reverse], group := [], waiting := true }

/-- The inline tables of a list. -/
def inlineGroups (inner : List Char) : List (List Char) :=
  (inner.foldl GroupScan.step {}).groups

/-- The items of a list, by the text between its brackets. -/
def itemTexts (inner : List Char) : Result (List (List Char)) :=
  let trimmed := trimWhile isBlank inner
  let beforeInner := inner.takeWhile (· ≠ '[')
  if inner.contains '[' && (trimWhile isBlank beforeInner).isEmpty then
    .ok (splitOutside 0 [] inner)
  else if trimmed.head? = some '\x7b' then .ok (inlineGroups inner)
  else if trimmed.head? = some '"' || trimmed.head? = some '\'' then
    joinTexts (splitAt ',' inner)
  else .ok (splitAt ',' inner)

/-! ### Inline tables -/

/-- Whether the value of an entry in braces is complete. -/
def isCompleteValue (v : List Char) : Bool :=
  match v.head?, v.getLast? with
  | some a, some b =>
    (a = b && (a = '"' || a = '\'')) || a = '-' || isAsciiDigit a || v = "true".toList ||
      v = "false".toList || (a = '[' && b = ']') || (a = '\x7b' && b = '\x7d')
  | _, _ => false

/-- The entries between braces; pieces whose value is not complete take the next one in. -/
def inlineEntries : List (List Char) → Result (List (List Char))
  | [] => .ok []
  | piece :: rest =>
    let value := trimWhile isBlank ((piece.dropWhile (· ≠ '=')).drop 1)
    if !piece.contains '=' then .error .settingsForm
    else if value.isEmpty then .error .noSuchItem
    else if isCompleteValue value then do return piece :: (← inlineEntries rest)
    else match rest with
      | next :: rest => inlineEntries ((piece ++ ',' :: next) :: rest)
      | [] => .error .settingsForm
termination_by pieces => pieces.length

def inlinePieces (v : List Char) : List (List Char) :=
  let pieces := splitAt ',' (v.drop 1).dropLast
  match pieces with
  | [only] => if (trimWhile isBlank only).isEmpty then [] else [only]
  | pieces => pieces

/-! ### Entries -/

/-- Whether a value opens a text of several lines and does not close it. -/
def opensText (v : List Char) : Bool :=
  match v with
  | a :: b :: c :: _ =>
    (a = '"' || a = '\'') && b = a && c = a &&
      !(5 < v.length && (v.reverse.take 3).all (· == a))
  | _ => false

/-- The value of an open text without the backslash that joins the next line. -/
def OpenText.afterLine (key : String) (text : List Char) : OpenText :=
  if endsEscaped text then ⟨key, text.dropLast, true⟩ else ⟨key, text ++ ['\n'], false⟩

mutual

/-- The value of a text, which is as long as `fuel` at most. -/
def valueOf : Nat → List Char → Result Value
  | 0, _ => .error .settingsForm
  | fuel + 1, v =>
    match v with
    | '[' :: rest => do
      let items ← itemsOf fuel none
        (((← itemTexts rest.dropLast).map (trimWhile isBlank)).filter (!·.isEmpty))
      return (.list items, .list)
    | '\x7b' :: _ => do
      return (← inlineTable fuel (← inlineEntries (inlinePieces v)) (.object []), .table)
    | v => simpleValue v

/-- Values that must all be of one kind. -/
def itemsOf : Nat → Option ValueKind → List (List Char) → Result (List Doc)
  | 0, _, _ => .error .settingsForm
  | _ + 1, _, [] => .ok []
  | fuel + 1, kind, item :: rest => do
    let (d, k) ← valueOf fuel item
    if kind.any (· ≠ k) then throw .settingsForm
    return d :: (← itemsOf fuel (some k) rest)

/-- Adds the entries of an inline table, up to one that is left open. -/
def inlineTable : Nat → List (List Char) → Doc → Result Doc
  | 0, _, _ => .error .settingsForm
  | _ + 1, [], table => .ok table
  | fuel + 1, entry :: rest, table => do
    match ← entryOf fuel entry table with
    | (table, none) => inlineTable fuel rest table
    | (table, some _) => return table

/-- Adds the entry of a line to a table, or tells which text it leaves open. -/
def entryOf : Nat → List Char → Doc → Result (Doc × Option OpenText)
  | 0, _, _ => .error .settingsForm
  | fuel + 1, line, table => do
    let (keyText, value) ← keyAndValue line
    let (levels, key) ← keyPath keyText
    if opensText value then
      return (← changeBelow (reserve key) levels table, some (OpenText.afterLine key value))
    let (d, _) ← valueOf fuel value
    return (← changeBelow (addEntry key d) levels table, none)

end

end RepoAtlas.Toml
