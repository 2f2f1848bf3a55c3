import RepoAtlas.Number.Shortest
import RepoAtlas.OrderedMap
import RepoAtlas.Text.Quoted

/-!
Documents: the dynamic values of JSON, with members in order, and scalars from other formats
that JSON cannot hold. Payloads whose shape nobody promises travel as documents.
-/
namespace RepoAtlas

inductive Doc where
  | null
  | bool (b : Bool)
  | int (i : Int)
  | float (x : Binary64)
  | text (s : String)
  | list (items : List Doc)
  | object (members : List (String × Doc))
  /-- A date, time, byte string or set, known by its text only, or a collection inside itself,
  which has no text. -/
  | foreign (shown : String)
  deriving Inhabited, Repr

namespace Doc

/-- A collection inside itself. -/
def cycle : Doc := .foreign ""

mutual

/-- Whether a collection stands inside itself. A copy of the value would have no end. -/
def isEndless : Doc → Bool
  | .foreign shown => shown.isEmpty
  | .list items => areEndless items
  | .object ms => haveEndless ms
  | _ => false

def areEndless : List Doc → Bool
  | [] => false
  | d :: rest => isEndless d || areEndless rest

def haveEndless : List (String × Doc) → Bool
  | [] => false
  | (_, d) :: rest => isEndless d || haveEndless rest

end

def members? : Doc → Option (List (String × Doc))
  | .object ms => some ms
  | _ => none

def isObject : Doc → Bool
  | .object _ => true
  | _ => false

def isNull : Doc → Bool
  | .null => true
  | _ => false

/-- The member of an object; other values have none. -/
def get? : Doc → String → Option Doc
  | .object ms, key => OrderedMap.lookup key ms
  | _, _ => none

/-- An object from members in order: a repeated name keeps its first place and its last value. -/
def ofMembers (pairs : List (String × Doc)) : Doc :=
  .object (OrderedMap.ofList pairs).entries

def ofTexts (texts : List String) : Doc := .list (texts.map .text)

def ofOption (text : Option String) : Doc :=
  match text with
  | some s => .text s
  | none => .null

/-- Whether a value counts as given: null, false, zero and empty values do not. -/
def isTruthy : Doc → Bool
  | .null => false
  | .bool b => b
  | .int i => i != 0
  | .float x => !x.isZero
  | .text s => !s.isEmpty
  | .list items => !items.isEmpty
  | .object ms => !ms.isEmpty
  | .foreign _ => true

mutual

/-- The text of a value inside a list or an object: texts are quoted there. -/
def inner : Doc → String
  | .null => "None"
  | .bool b => if b then "True" else "False"
  | .int i => toString i
  | .float x => x.text
  | .text s => Text.quotedText s
  | .list items => "[" ++ String.intercalate ", " (innerList items) ++ "]"
  | .object ms => "\x7b" ++ String.intercalate ", " (innerMembers ms) ++ "\x7d"
  | .foreign shown => shown

def innerList : List Doc → List String
  | [] => []
  | d :: rest => inner d :: innerList rest

def innerMembers : List (String × Doc) → List String
  | [] => []
  | (k, v) :: rest => (Text.quotedText k ++ ": " ++ inner v) :: innerMembers rest

end

/-- The text of a value on its own: a text is itself. -/
def shown : Doc → String
  | .text s => s
  | d => inner d

/-- The whole number that a number or a truth value stands for. -/
def whole? : Doc → Option Int
  | .int i => some i
  | .bool b => some (if b then 1 else 0)
  | .float x => x.toInt?
  | _ => none

mutual

/-- Equality of values, where truth values and numbers are compared as numbers. -/
def same : Doc → Doc → Bool
  | .null, .null => true
  | .text a, .text b => a == b
  | .foreign a, .foreign b => a == b
  | .float x, .float y => x != .nan && (x == y || (x.isZero && y.isZero))
  | .list xs, .list ys => sameList xs ys
  | .object xs, .object ys => xs.length == ys.length && sameMembers xs ys
  | a, b => match a.whole?, b.whole? with
    | some i, some j => i == j
    | _, _ => false

def sameList : List Doc → List Doc → Bool
  | [], [] => true
  | x :: xs, y :: ys => same x y && sameList xs ys
  | _, _ => false

def sameMembers : List (String × Doc) → List (String × Doc) → Bool
  | [], _ => true
  | (k, x) :: xs, ys =>
    (match OrderedMap.lookup k ys with
      | some y => same x y
      | none => false) && sameMembers xs ys

end

end Doc

end RepoAtlas
