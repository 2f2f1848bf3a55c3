import RepoAtlas.Toml.Entry
import RepoAtlas.Toml.Layout

/-!
Reading a TOML text line by line. A header tells which table the entries below it belong to; a
table can be opened once, unless it has come about as a part of a longer header.
-/
namespace RepoAtlas.Toml

open RepoAtlas.Text

/-- One step from a table or a list to what it holds. -/
inductive Step where
  | member (name : String)
  | last
  deriving DecidableEq, Repr

/-- The value at a place. -/
def valueAt : List Step → Doc → Result Doc
  | [], d => .ok d
  | .member name :: rest, .object ms =>
    match OrderedMap.lookup name ms with
    | some d => valueAt rest d
    | none => .error .wrongKind
  | .last :: rest, .list items =>
    match items.getLast? with
    | some d => valueAt rest d
    | none => .error .noSuchItem
  | _ :: _, _ => .error .wrongKind

/-- The document with the value at a place changed. -/
def changeAt (f : Doc → Result Doc) : List Step → Doc → Result Doc
  | [], d => f d
  | .member name :: rest, .object ms =>
    match OrderedMap.lookup name ms with
    | some d => do
      return .object ((OrderedMap.mk ms).insert name (← changeAt f rest d)).entries
    | none => .error .wrongKind
  | .last :: rest, .list items =>
    match items.getLast? with
    | some d => do return .list (items.dropLast ++ [← changeAt f rest d])
    | none => .error .noSuchItem
  | _ :: _, _ => .error .wrongKind

structure Reader where
  root : Doc := .object []
  /-- The table that entries go to. -/
  place : List Step := []
  /-- Tables that are only parts of longer headers. -/
  implied : List String := []
  openText : Option OpenText := none
  deriving Repr

namespace Reader

/-! ### Headers -/

def isBareName (s : List Char) : Bool :=
  !s.isEmpty && s.all (fun c => c.isAlphanum || c == '_' || c == '-')

def isClosedName (s : List Char) : Bool := 1 < s.length && s.head? == s.getLast?

/-- A quoted name, put together from the pieces between points. -/
def quotedName : List Char → List (List Char) → Result (List Char × List (List Char))
  | name, rest =>
    if isClosedName name then .ok ((name.drop 1).dropLast, rest)
    else match rest with
      | piece :: rest => quotedName (trimWhile isBlank (name ++ '.' :: piece)) rest
      | [] => .error .settingsForm
termination_by _ rest => rest.length

theorem length_quotedName {name body : List Char} {rest left : List (List Char)}
    (h : quotedName name rest = .ok (body, left)) : left.length ≤ rest.length := by
  induction rest generalizing name with
  | nil =>
    rw [quotedName] at h
    split at h
    · cases h; simp
    · cases h
  | cons piece rest ih =>
    rw [quotedName] at h
    split at h
    · cases h; simp
    · exact Nat.le_succ_of_le (ih h)

/-- The names of a header from its pieces between points. -/
def headerNames : List (List Char) → Result (List String)
  | [] => .ok []
  | piece :: rest =>
    let name := trimWhile isBlank piece
    if name.head? = some '"' || name.head? = some '\'' then
      match _h : quotedName name rest with
      | .ok (body, rest) => do return String.ofList body :: (← headerNames rest)
      | .error f => .error f
    else if isBareName name then do return String.ofList name :: (← headerNames rest)
    else .error .settingsForm
termination_by pieces => pieces.length
decreasing_by
  · simpa using Nat.lt_succ_of_le (length_quotedName _h)
  · simp

/-- The text before the `n`-th closing bracket or pair of brackets, and the text behind it. -/
def cutAtClose (close : List Char) : Nat → List Char → Option (List Char × List Char)
  | _, [] => none
  | n, c :: rest =>
    if close.isPrefixOf (c :: rest) then
      match n with
      | 0 | 1 => some ([], (c :: rest).drop close.length)
      | n + 2 =>
        if close.length = 2 then
          match rest with
          | d :: rest => (cutAtClose close (n + 1) rest).map (fun r => (c :: d :: r.1, r.2))
          | [] => none
        else (cutAtClose close (n + 1) rest).map (fun r => (c :: r.1, r.2))
    else (cutAtClose close n rest).map (fun r => (c :: r.1, r.2))

def countRuns (close s : List Char) : Nat :=
  match close with
  | [a, b] => (piecesBetween a b s).length - 1
  | [a] => s.count a
  | _ => 0

/-- The names between the brackets of a header, which must fill its line. -/
def namesOf (close line : List Char) : Result (List String) := do
  let n := firstPlain (occursIn close) (countRuns close) false (quotePieces line)
  match cutAtClose close n line with
  | none => throw .settingsForm
  | some (inside, behind) =>
    if !(trimWhile isBlank behind).isEmpty then throw .settingsForm
    headerNames (splitAt '.' inside)

/-- What a header makes that is not there yet. -/
def emptyFor (inList : Bool) : Doc := if inList then .list [.object []] else .object []

/-- Goes from a table to one of its members; `isLast` and `inList` tell whether the header ends
here and whether it asks for one more table of a list. -/
def enterMember (name : String) (isLast inList : Bool) (r : Reader) (ms : List (String × Doc)) :
    Result Reader := do
  let next := { r with place := r.place ++ [.member name] }
  match OrderedMap.lookup name ms with
  | none =>
    let root ← changeAt (setEntry name (emptyFor (isLast && inList))) r.place r.root
    return { next with root, implied := if isLast then r.implied else r.implied ++ [name] }
  | some found =>
    if !isLast then return next
    else if r.implied.contains name then
      if inList then throw .settingsForm
      else return { next with implied := r.implied.erase name }
    else if inList then
      match found with
      | .list items =>
        return { next with
          root := ← changeAt (setEntry name (.list (items ++ [.object []]))) r.place r.root }
      | _ => throw .wrongKind
    else throw .settingsForm

/-- Goes from a list to a member of its last table. -/
def enterLast (name : String) (isLast inList : Bool) (r : Reader) (items : List Doc) :
    Result Reader := do
  match items.getLast? with
  | none => throw .noSuchItem
  | some (.object ms) =>
    let place := r.place ++ [.last]
    if (OrderedMap.lookup name ms).isSome then
      return { r with place := place ++ [.member name] }
    let root ← changeAt (setEntry name (emptyFor (isLast && inList))) place r.root
    return { r with root, place := place ++ [.member name] }
  | some _ => throw .wrongKind

/-- Goes on to the last item of a list. -/
def intoList (r : Reader) : Result Reader := do
  match ← valueAt r.place r.root with
  | .list [] => throw .noSuchItem
  | .list _ => return { r with place := r.place ++ [.last] }
  | .object _ => return r
  | _ => throw .wrongKind

def enterName (name : String) (isLast inList : Bool) (r : Reader) : Result Reader := do
  if name.isEmpty then throw .settingsForm
  let r ← match ← valueAt r.place r.root with
    | .object ms => enterMember name isLast inList r ms
    | .list items => enterLast name isLast inList r items
    | _ => throw .wrongKind
  if inList then r.intoList else return r

def enter (inList : Bool) : List String → Reader → Result Reader
  | [], r => .ok r
  | name :: rest, r => do enter inList rest (← enterName name rest.isEmpty inList r)

def header (r : Reader) (line : List Char) : Result Reader := do
  match line with
  | [] => throw .settingsForm
  | '[' :: inside => enter true (← namesOf [']', ']'] inside) { r with place := [] }
  | inside => enter false (← namesOf [']'] inside) { r with place := [] }

/-! ### Lines -/

/-- Enough for all values within a line. -/
def fuelFor (line : List Char) : Nat := 4 * line.length + 16

def entry (r : Reader) (line : List Char) : Result Reader := do
  let (table, openText) ← entryOf (fuelFor line) line (← valueAt r.place r.root)
  return { r with root := ← changeAt (fun _ => .ok table) r.place r.root, openText }

/-- The entries of braces that stand on a line of their own. -/
def bareTable (r : Reader) (line : List Char) : Result Reader := do
  if line.getLast? ≠ some '\x7d' then throw .settingsForm
  let table ← inlineTable (fuelFor line) (← inlineEntries (inlinePieces line))
    (← valueAt r.place r.root)
  return { r with root := ← changeAt (fun _ => .ok table) r.place r.root }

def closes (text line : List Char) : Bool :=
  2 < line.length && (line.reverse.take 3).all (fun c => text.head? == some c)

/-- Goes on with a text of several lines. -/
def goOn (r : Reader) (o : OpenText) (line : List Char) : Result Reader := do
  let text := o.text ++ line
  if closes text line then
    let (d, _) ← valueOf (fuelFor text) text
    return { r with root := ← changeAt (setEntry o.key d) r.place r.root, openText := none }
  return { r with openText := some (OpenText.afterLine o.key text) }

def readLine (r : Reader) (line : List Char) : Result Reader := do
  let keepsBlanks := r.openText.any (fun o => !o.joined && o.text.contains '\n')
  let line := if keepsBlanks then line else trimWhile isBlank line
  match r.openText with
  | some o => if line.isEmpty && o.joined then return r else r.goOn o line
  | none =>
    match line with
    | [] => return r
    | '[' :: rest => r.header rest
    | '\x7b' :: _ => r.bareTable line
    | line => if line.contains '=' then r.entry line else return r

end Reader

/-- The tables of a TOML text. -/
def decode (text : String) : Result (List (String × Doc)) := do
  let lines := splitAt '\n' (← laidOut text.toList)
  let r ← lines.foldlM Reader.readLine {}
  match r.root with
  | .object ms => return ms
  | _ => throw .settingsForm

end RepoAtlas.Toml
