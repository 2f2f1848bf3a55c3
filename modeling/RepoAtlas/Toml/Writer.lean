import RepoAtlas.Doc.Basic
import RepoAtlas.Fault
import RepoAtlas.Toml.Scalar

/-!
Writing tables as a TOML text: the plain values of a table first, then its lists of tables, then
its inner tables under headers of their own, level by level and a blank line apart.
-/
namespace RepoAtlas.Toml

open RepoAtlas.Text

/-! ### Texts -/

/-- One backslash for each pair of them. -/
def halved : List Char → List Char
  | '\\' :: '\\' :: rest => '\\' :: halved rest
  | c :: rest => c :: halved rest
  | [] => []

/-- What stands for the mark `\x` behind a piece: an escape with four digits if an even number
of its backslashes, of which the very first character does not count, stands at its end, and
else only the letter. -/
def joiner (piece : List Char) : List Char :=
  let n := trailingBackslashes piece
  if n ≠ 0 && min n (piece.length - 1) % 2 = 0 then "u00".toList else ['x']

/-- Puts the pieces between marks `\x` together, left to right. -/
def joinMarks : List Char → List (List Char) → Result (List Char)
  | piece, [] => .ok piece
  | [], [_] => .error .noSuchItem
  | [], next :: more :: rest =>
    let head := halved next
    joinMarks (head ++ joiner head ++ more) rest
  | piece, next :: rest =>
    let head := halved piece
    joinMarks (head ++ joiner head ++ next) rest

/-- A text in double quotes. -/
def quotedBody (s : List Char) : Result (List Char) := do
  let body := ((quoted s).drop 1).dropLast
  let body := if delimiterFor s = '\'' then
      replaceAll ['"'] ['\\', '"'] (replaceAll ['\\', '\''] ['\''] body)
    else body
  match piecesBetween '\\' 'x' body with
  | [] => return body
  | first :: pieces => joinMarks first pieces

def textLiteral (s : String) : Result String := do
  return String.ofList ('"' :: (← quotedBody s.toList) ++ ['"'])

/-! ### Values -/

/-- Exponents are written without leading zeros. -/
def numberText (x : Binary64) : String :=
  String.ofList (replaceAll "e-0".toList "e-".toList
    (replaceAll "e+0".toList "e+".toList x.text.toList))

mutual

/-- The text of a value behind its key, or of an item. -/
def valueText : Doc → Result String
  | .null => .ok "\"None\""
  | .bool b => .ok (if b then "true" else "false")
  | .int i => .ok (toString i)
  | .float x => .ok (numberText x)
  | .text s => textLiteral s
  | .foreign shown => .ok shown
  | .list items => do return "[" ++ String.join (← itemsText items) ++ "]"
  | .object ms => do return "[" ++ String.join (← namesText ms) ++ "]"

def itemsText : List Doc → Result (List String)
  | [] => .ok []
  | d :: rest => do
    let head ← valueText d
    return (" " ++ head ++ ",") :: (← itemsText rest)

def namesText : List (String × Doc) → Result (List String)
  | [] => .ok []
  | (name, _) :: rest => do
    let head ← textLiteral name
    return (" " ++ head ++ ",") :: (← namesText rest)

end

/-! ### Tables -/

def isBareKey (s : String) : Bool :=
  let body := match s.toList.getLast? with
    | some '\n' => s.toList.dropLast
    | _ => s.toList
  !body.isEmpty && body.all (fun c => c.isAlphanum || c == '_' || c == '-')

def keyText (s : String) : Result String := if isBareKey s then .ok s else textLiteral s

/-- Inner tables by the rest of their header. -/
abbrev Inner := List (String × List (String × Doc))

/-- What a table is written as: its own lines, and its inner tables. -/
structure Written where
  lines : String := ""
  lists : String := ""
  inner : Inner := []
  deriving Repr

def Written.own (w : Written) : String := w.lines ++ w.lists

def isTableList (items : List Doc) : Bool := items.any Doc.isObject

/-- The members of an item of a list of tables. -/
def tableMembers : Doc → Result (List (String × Doc))
  | .object ms => .ok ms
  | .text "" => .ok []
  | .list [] => .ok []
  | _ => .error .wrongKind

mutual

/-- How deep tables and lists lie inside a value. -/
def depth : Doc → Nat
  | .list items => depthItems items + 1
  | .object ms => depthMembers ms + 1
  | _ => 0

def depthItems : List Doc → Nat
  | [] => 0
  | d :: rest => max (depth d) (depthItems rest)

def depthMembers : List (String × Doc) → Nat
  | [] => 0
  | (_, d) :: rest => max (depth d) (depthMembers rest)

end

mutual

/-- A table of which the header is known. Tables lie no deeper than `fuel`. -/
def writtenTable : Nat → String → List (String × Doc) → Result Written
  | 0, _, _ => .ok {}
  | fuel + 1, header, ms =>
    let path := if header.isEmpty then "" else header ++ "."
    ms.foldlM (fun w (name, d) => writtenMember fuel path w name d) {}

def writtenMember : Nat → String → Written → String → Doc → Result Written
  | fuel, path, w, name, d => do
    let key ← keyText name
    match d with
    | .null => return w
    | .object ms =>
      return { w with inner := ((OrderedMap.mk w.inner).insert key ms).entries }
    | .list items =>
      if isTableList items then
        let lists ← items.foldlM (fun text item => do
          return text ++ (← writtenItem fuel (path ++ key) item)) ""
        return { w with lists := w.lists ++ lists }
      else
        return { w with lines := w.lines ++ key ++ " = " ++ (← valueText d) ++ "\n" }
    | d => return { w with lines := w.lines ++ key ++ " = " ++ (← valueText d) ++ "\n" }

/-- One table of a list, with its inner tables. -/
def writtenItem : Nat → String → Doc → Result String
  | 0, _, _ => .ok ""
  | fuel + 1, header, d => do
    let w ← writtenTable fuel header (← tableMembers d)
    let own := w.own
    let below ← innerTables fuel header w.inner
    let first := "[[" ++ header ++ "]]\n"
    return if own.toList.head? = some '[' then first ++ "\n" ++ own ++ below
      else first ++ own ++ "\n" ++ below

/-- Inner tables of a table of a list, level by level. -/
def innerTables : Nat → String → Inner → Result String
  | 0, _, _ => .ok ""
  | fuel + 1, header, inner => do
    let (text, deeper) ← inner.foldlM (fun (found : String × Inner) (name, ms) => do
      let w ← writtenTable fuel (header ++ "." ++ name) ms
      let own := if w.own.isEmpty then "" else "[" ++ header ++ "." ++ name ++ "]\n" ++ w.own
      return (found.1 ++ own, found.2 ++ w.inner.map (fun (s, ms) => (name ++ "." ++ s, ms))))
      ("", [])
    if deeper.isEmpty then return text
    else return text ++ (← innerTables fuel header deeper)

end

/-- One more table under its header, a blank line behind what is written so far. Its inner tables
are left for later. -/
def writtenSection (found : String × Inner) (e : String × List (String × Doc)) :
    Result (String × Inner) := do
  let w ← writtenTable (4 * depthMembers e.2 + 8) e.1 e.2
  let gap := if found.1.isEmpty || "\n\n".toList.isSuffixOf found.1.toList then "" else "\n"
  let own := if w.own.isEmpty && !w.inner.isEmpty then "" else gap ++ "[" ++ e.1 ++ "]\n" ++ w.own
  return (found.1 ++ own, found.2 ++ w.inner.map (fun inner => (e.1 ++ "." ++ inner.1, inner.2)))

/-- Tables under their headers, level by level, behind what is written so far. -/
def writtenSections : Nat → String → Inner → Result String
  | 0, text, _ => .ok text
  | fuel + 1, text, sections => do
    if sections.isEmpty then return text
    let (text, deeper) ← sections.foldlM writtenSection (text, [])
    writtenSections fuel text deeper

/-- The TOML text of a table. -/
def encode (ms : List (String × Doc)) : Result String := do
  let fuel := 4 * depthMembers ms + 8
  let w ← writtenTable fuel "" ms
  writtenSections fuel w.own w.inner

end RepoAtlas.Toml
