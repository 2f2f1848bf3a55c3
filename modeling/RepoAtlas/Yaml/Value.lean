import RepoAtlas.Doc.Json
import RepoAtlas.Yaml.Moment

/-!
What YAML documents hold: scalars, lists, and maps from scalars to values in order.
-/
namespace RepoAtlas.Yaml

inductive Value where
  | null
  | bool (b : Bool)
  | int (i : Int)
  | float (x : Binary64)
  | text (s : String)
  | bytes (bs : List UInt8)
  | moment (m : Moment)
  | list (items : List Value)
  /-- A key with its value, as an item of an ordered list. -/
  | pair (key value : Value)
  | map (entries : List (Value × Value))
  | set (members : List Value)
  /-- A collection inside itself. -/
  | cycle (isMap : Bool)
  deriving Inhabited, Repr

namespace Value

/-- The number that a truth value or a whole number stands for. -/
def whole? : Value → Option Int
  | .int i => some i
  | .bool b => some (if b then 1 else 0)
  | .float x => x.toInt?
  | _ => none

/-- Whether two keys are the same key; truth values and numbers are compared as numbers. -/
def sameKey (a b : Value) : Bool :=
  match a, b with
  | .null, .null => true
  | .text s, .text t => s == t
  | .bytes s, .bytes t => s == t
  | .moment s, .moment t => s == t
  | .float x, .float y => x == y || (x.isZero && y.isZero)
  | a, b => match a.whole?, b.whole? with
    | some i, some j => i == j
    | _, _ => false

def isKey : Value → Bool
  | .list _ | .map _ | .set _ | .cycle _ => false
  | _ => true

def lookup (key : Value) : List (Value × Value) → Option Value
  | [] => none
  | (k, v) :: rest => if k.sameKey key then some v else lookup key rest

/-- Writes an entry: a known key keeps its place and its spelling. -/
def put (key value : Value) : List (Value × Value) → List (Value × Value)
  | [] => [(key, value)]
  | (k, v) :: rest => if k.sameKey key then (k, value) :: rest else (k, v) :: put key value rest

def ofEntries (entries : List (Value × Value)) : Value :=
  .map (entries.foldl (fun found e => put e.1 e.2 found) [])

def isMap : Value → Bool
  | .map _ => true
  | .cycle isMap => isMap
  | _ => false

/-- Whether a value counts as given: null, false, zero and empty values do not. -/
def isTruthy : Value → Bool
  | .null => false
  | .bool b => b
  | .int i => i != 0
  | .float x => !x.isZero
  | .text s => !s.isEmpty
  | .bytes bs => !bs.isEmpty
  | .list items => !items.isEmpty
  | .map entries => !entries.isEmpty
  | .set members => !members.isEmpty
  | _ => true

mutual

/-- The text of a value inside another one: texts are quoted there. -/
def inner : Value → String
  | .null => "None"
  | .bool b => if b then "True" else "False"
  | .int i => toString i
  | .float x => x.text
  | .text s => Text.quotedText s
  | .bytes bs => Text.quotedBytes bs
  | .moment m => m.inner
  | .list items => "[" ++ String.intercalate ", " (innerAll items) ++ "]"
  | .pair k v => "(" ++ inner k ++ ", " ++ inner v ++ ")"
  | .map entries => "\x7b" ++ String.intercalate ", " (innerEntries entries) ++ "\x7d"
  | .set [] => "set()"
  | .set members => "\x7b" ++ String.intercalate ", " (innerAll members) ++ "\x7d"
  | .cycle isMap => if isMap then "\x7b...\x7d" else "[...]"

def innerAll : List Value → List String
  | [] => []
  | v :: rest => inner v :: innerAll rest

def innerEntries : List (Value × Value) → List String
  | [] => []
  | (k, v) :: rest => (inner k ++ ": " ++ inner v) :: innerEntries rest

end

/-- The text of a value on its own. -/
def shown : Value → String
  | .text s => s
  | .moment m => m.shown
  | v => v.inner

/-- Whether a key can name a member of an object. -/
def namesMember : Value → Bool
  | .null | .bool _ | .int _ | .float _ | .text _ => true
  | _ => false

/-- The name that a key has as the member of an object. -/
def memberName : Value → String
  | .null => "null"
  | .bool b => if b then "true" else "false"
  | .float x => Json.numberStyle.render x
  | v => v.shown

mutual

/-- Whether JSON has a form for the value, be it of another kind: keys become texts, and a key
with its value becomes a list. -/
def fitsJson : Value → Bool
  | .null | .bool _ | .int _ | .float _ | .text _ => true
  | .list items => allFitJson items
  | .pair k v => fitsJson k && fitsJson v
  | .map entries => entriesFitJson entries
  | _ => false

def allFitJson : List Value → Bool
  | [] => true
  | v :: rest => fitsJson v && allFitJson rest

def entriesFitJson : List (Value × Value) → Bool
  | [] => true
  | (k, v) :: rest => k.namesMember && fitsJson v && entriesFitJson rest

end

mutual

/-- A value as a document. A map is one whole scalar if a key of it can name no member, or if the
names are not distinct and it has no JSON form either. -/
def toDoc : Value → Doc
  | .null => .null
  | .bool b => .bool b
  | .int i => .int i
  | .float x => .float x
  | .text s => .text s
  | .list items => .list (toDocs items)
  | .pair k v => .list [toDoc k, toDoc v]
  | .map entries =>
    let members := toMembers entries
    if entriesFitJson entries ||
        (entries.all (·.1.namesMember) && decide (members.map (·.1)).Nodup) then
      Doc.ofMembers members
    else if Doc.haveEndless members then .cycle
    else .foreign (inner (.map entries))
  | .cycle _ => .cycle
  | v => .foreign v.shown

def toDocs : List Value → List Doc
  | [] => []
  | v :: rest => toDoc v :: toDocs rest

def toMembers : List (Value × Value) → List (String × Doc)
  | [] => []
  | (k, v) :: rest => (k.memberName, toDoc v) :: toMembers rest

end

/-! ### Parts of values of any kind -/

/-- The value under a key, which only maps have. -/
def get (v : Value) (key : String) (default : Value := .null) : Result Value :=
  match v with
  | .map entries => .ok ((lookup (.text key) entries).getD default)
  | _ => .error .notARecord

/-- The value under a key that must be there. -/
def need (v : Value) (key : String) : Result Value :=
  match v with
  | .map entries => match lookup (.text key) entries with
    | some found => .ok found
    | none => .error (.missingMember key)
  | _ => .error .wrongKind

def has (v : Value) (key : String) : Bool :=
  match v with
  | .map entries => (lookup (.text key) entries).isSome
  | _ => false

/-- What a walk over a value meets. -/
def items : Value → Result (List Value)
  | .list items | .set items => .ok items
  | .pair k v => .ok [k, v]
  | .map entries => .ok (entries.map (·.1))
  | .text s => .ok (s.toList.map (fun c => .text (String.singleton c)))
  | .bytes bs => .ok (bs.map (fun b => .int b.toNat))
  | .cycle isMap => .ok [.cycle isMap]
  | _ => .error .wrongKind

def orEmptyMap (v : Value) : Value := if v.isTruthy then v else .map []

def orEmptyList (v : Value) : Value := if v.isTruthy then v else .list []

end Value

end RepoAtlas.Yaml
