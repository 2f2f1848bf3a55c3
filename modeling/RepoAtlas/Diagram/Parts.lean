import RepoAtlas.OrderedMap
import RepoAtlas.Text.CharClass
import RepoAtlas.Text.Pieces

/-!
What diagrams are made of: names made safe, identifiers that are unique, and the lines of
flowcharts.
-/
namespace RepoAtlas.Diagram

/-! ### Names

An identifier must be a bare token; a label only has to survive
inside double quotes.
-/

open RepoAtlas.Text

def isIdChar (c : Char) : Bool := c.isAlphanum || c == '_'

def isLeadingJunk (c : Char) : Bool := isAsciiDigit c || c == '_'
where
  isAsciiDigit (c : Char) : Bool := '0' ≤ c && c ≤ '9'

/-- Letters, digits and underscores only, beginning with a letter. -/
def identifierChars (s : List Char) : List Char :=
  let cleaned := (s.map (fun c => if isIdChar c then c else '_')).dropWhile isLeadingJunk
  if cleaned.isEmpty then ['n', 'o', 'd', 'e'] else cleaned

def identifier (s : String) : String := String.ofList (identifierChars s.toList)

/-- The first `n` items, or all but the last `-n` if `n` is negative. -/
def takeInt {α : Type} (n : Int) (xs : List α) : List α :=
  if 0 ≤ n then xs.take n.toNat else xs.take (xs.length - n.natAbs)

@[simp] theorem takeInt_natCast {α : Type} (n : Nat) (xs : List α) :
    takeInt (n : Int) xs = xs.take n := by
  simp [takeInt]

def maxLabelLength : Int := 100

def labelChars (maxLength : Int) (s : List Char) : List Char :=
  let quoteless := s.filterMap (fun c =>
    if c = '"' then some '\'' else if c = '<' ∨ c = '>' then none else some c)
  takeInt maxLength (trimWhile isBlank (collapseBlanks quoteless))

def labelWithin (maxLength : Int) (s : String) : String :=
  String.ofList (labelChars maxLength s.toList)

def label (s : String) : String := labelWithin maxLabelLength s

/-! ### Identifiers

A name keeps its plain identifier if that is free when the name is
first seen; otherwise it gets the first free suffix `_1`, `_2`, ... .
-/

/-- The `n`-th identifier tried for a base. -/
def candidate (base : String) (n : Nat) : String :=
  if n = 0 then base else base ++ "_" ++ toString n

/-- Of one more candidates than there are taken identifiers, one is free. -/
def firstFree (taken : List String) (base : String) : String :=
  (((List.range (taken.length + 1)).map (candidate base)).find? (fun c => !taken.contains c)).getD
    base

structure Assignment where
  ids : OrderedMap String String := {}
  taken : List String := []

def Assignment.add (a : Assignment) (name : String) : Assignment :=
  if a.ids.contains name then a
  else
    let id := firstFree a.taken (identifier name)
    ⟨a.ids.insert name id, id :: a.taken⟩

/-- Identifiers in first-seen order of the names; `reserved` ones are never handed out. -/
def uniqueIds (names : List String) (reserved : List String := []) : OrderedMap String String :=
  (names.foldl Assignment.add ⟨{}, reserved⟩).ids

/-- The identifier of a name, for names that have one. -/
def idOf (ids : OrderedMap String String) (name : String) : String :=
  (ids.get? name).getD ""

/-! ### Lines

Nodes and boxes with their titles, and arrows between nodes.
-/

/-- A node or a box with its title. -/
def titled (id title : String) : String := id ++ "[\"" ++ title ++ "\"]"

/-- An arrow between two nodes, with its label if it has one. -/
def linked (source arrow : String) (label : Option String) (target : String) : String :=
  let text := match label with
    | some l => "|\"" ++ l ++ "\"|"
    | none => ""
  source ++ " " ++ arrow ++ text ++ " " ++ target

end RepoAtlas.Diagram
