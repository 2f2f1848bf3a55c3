import RepoAtlas.Number.Binary64
import RepoAtlas.Number.Numeral
import RepoAtlas.Record.Schema
import RepoAtlas.Text.LowerCase
import RepoAtlas.Yaml.Node
import RepoAtlas.Yaml.Value

/-!
The values that nodes stand for, and the documents of a text. Maps that are merged into another
one come before its own entries, which win.
-/
namespace RepoAtlas.Yaml

/-! ### Numbers and bytes -/

def ungrouped (s : String) : List Char := s.toList.filter (· ≠ '_')

/-- The letter that may follow a zero in front of digits of the base. -/
def baseLetters : List (Nat × Char) := [(2, 'b'), (8, 'o'), (16, 'x')]

def dropBaseLetter (base : Nat) : List Char → List Char
  | '0' :: c :: rest => if baseLetters.contains (base, c.toLower) then rest else '0' :: c :: rest
  | s => s

/-- Digits of a base below ten, or of base sixteen, as a number. Blanks, a sign and the mark of
the base may stand around them. -/
def digitsIn (base : Nat) (s : List Char) : Result Int :=
  let value? (c : Char) : Option Nat := (Text.hexDigitValue? c).filter (· < base)
  let (negative, body) := Numeral.sign (Numeral.trimmed s)
  let ds := dropBaseLetter base body
  if ds.isEmpty || ds.any (fun c => (value? c).isNone) then
    .error (.notAnInteger base (String.ofList s))
  else .ok (Numeral.signed negative (ds.foldl (fun n c => base * n + (value? c).getD 0) 0))

def decimal (s : List Char) : Result Int := (Doc.text (String.ofList s)).toWhole

def integerValue (s : String) : Result Int := do
  let (negative, body) := Numeral.sign (ungrouped s)
  let size ← match body with
    | [] => .error .emptyNumber
    | ['0'] => pure 0
    | '0' :: 'b' :: ds => digitsIn 2 ds
    | '0' :: 'x' :: ds => digitsIn 16 ds
    | '0' :: ds => digitsIn 8 ('0' :: ds)
    | ds =>
      if ds.contains ':' then
        (Text.splitAt ':' ds).foldlM (fun n part => do return 60 * n + (← decimal part)) 0
      else decimal ds
  return if negative then -size else size

def floatText (s : List Char) : Result Binary64 :=
  match Numeral.readFloat? s with
  | some x => .ok x
  | none => .error (.notANumber (String.ofList s))

def nearestDouble (q : Rat) : Binary64 := .ofQuotient (q < 0) q.num.natAbs q.den

/-- The sum of groups of base sixty, least one first, rounded after each step. -/
def sexagesimal (groups : List Binary64) : Binary64 :=
  groups.zipIdx.foldl
    (fun sum (x, i) => nearestDouble (sum.toRat + (nearestDouble (x.toRat * 60 ^ i)).toRat)) (nearestDouble 0)

def floatValue (s : String) : Result Binary64 := do
  let text := Text.lower (ungrouped s)
  let (negative, body) := Numeral.sign text
  let size ←
    if text.isEmpty then .error .emptyNumber
    else if body = ".inf".toList then pure (.infinite false)
    else if body = ".nan".toList then pure .nan
    else if body.contains ':' then do
      pure (sexagesimal (← (Text.splitAt ':' body).mapM floatText).reverse)
    else floatText body
  return if negative then size.neg else size

def base64Value? (c : Char) : Option Nat :=
  if 'A' ≤ c ∧ c ≤ 'Z' then some (c.toNat - 65)
  else if 'a' ≤ c ∧ c ≤ 'z' then some (c.toNat - 71)
  else if '0' ≤ c ∧ c ≤ '9' then some (c.toNat + 4)
  else if c = '+' then some 62
  else if c = '/' then some 63
  else none

/-- Reads groups of four digits for three bytes; other characters are skipped. `digits` are
those of the group so far, last one first, and `pads` counts the padding behind them. -/
def base64From (digits : List Nat) (pads : Nat) : List Char → Option (List UInt8)
  | [] => if digits.isEmpty then some [] else none
  | c :: rest =>
    if c = '=' then
      if 2 ≤ digits.length && 4 ≤ digits.length + pads + 1 then some []
      else base64From digits (if 2 ≤ digits.length then pads + 1 else pads) rest
    else match base64Value? c, digits with
      | none, _ => base64From digits pads rest
      | some v, [] => base64From [v] 0 rest
      | some v, d :: before =>
        let byte : Nat := match before.length with
          | 0 => d * 4 + v / 16
          | 1 => d % 16 * 16 + v / 4
          | _ => d % 4 * 64 + v
        let digits := if before.length = 2 then [] else v :: d :: before
        (base64From digits 0 rest).map (UInt8.ofNat byte :: ·)

def bytesValue (s : String) : Result (List UInt8) :=
  match if s.toList.all (·.toNat < 128) then base64From [] 0 s.toList else none with
  | some bs => .ok bs
  | none => .error .manifestForm

def truthValue (s : String) : Result Bool :=
  let word := Text.lowerText s
  if trueWords.contains word then .ok true
  else if falseWords.contains word then .ok false
  else .error (.missingMember word)

/-- The value of a text under a tag. -/
def scalarValue (tag : Tag) (s : String) : Result Value :=
  match tag with
  | .null => .ok .null
  | .bool => .bool <$> truthValue s
  | .int => .int <$> integerValue s
  | .float => .float <$> floatValue s
  | .binary => .bytes <$> bytesValue s
  | .moment => .moment <$> Moment.ofText s
  | .text => .ok (.text s)
  | _ => .error .manifestForm

/-! ### Nodes -/

/-- A map as merged entries and its own. -/
structure Entries where
  merged : List (Value × Value) := []
  own : List (Value × Value) := []

def Entries.all (e : Entries) : List (Value × Value) := e.merged ++ e.own

/-- Entries of a sequence of maps to merge: those of the first map come last. -/
def lastFirst (parts : List (List (Value × Value))) : List (Value × Value) := parts.reverse.flatten

mutual

def Node.value : Node → Result Value
  | .scalar tag s => scalarValue tag s
  | .cycle isMap => .ok (.cycle isMap)
  | .sequence tag items =>
    match tag with
    | .list => do return .list (← Node.values items)
    | .orderedMap | .pairs => do return .list (← Node.pairValues items)
    | _ => .error .manifestForm
  | .mapping tag entries =>
    match tag with
    | .map => do return .ofEntries (← Node.entryValues entries).all
    | .set => do
      match Value.ofEntries (← Node.entryValues entries).all with
      | .map found => return .set (found.map (·.1))
      | v => return v
    | .null | .bool | .int | .float | .binary | .text => do
      scalarValue tag (← Node.mainText entries)
    | _ => .error .manifestForm

def Node.values : List Node → Result (List Value)
  | [] => .ok []
  | n :: rest => do
    let v ← n.value
    return v :: (← Node.values rest)

/-- The entries of maps that hold one each. -/
def Node.pairValues : List Node → Result (List Value)
  | [] => .ok []
  | .mapping _ [(k, v)] :: rest => do
    let key ← k.value
    let value ← v.value
    return .pair key value :: (← Node.pairValues rest)
  | _ :: _ => .error .manifestForm

def Node.entryValues : List (Node × Node) → Result Entries
  | [] => .ok {}
  | (.scalar .merge _, v) :: rest => do
    let merged ← v.mergedEntries
    let more ← Node.entryValues rest
    return { more with merged := merged ++ more.merged }
  | (k, v) :: rest => do
    let key ← match k with
      | .scalar .mainValue s => pure (.text s)
      | k => k.value
    if !key.isKey then .error .manifestForm
    let value ← v.value
    let more ← Node.entryValues rest
    return { more with own := (key, value) :: more.own }

/-- The entries that a merged node brings: a map's own, or those of several maps. -/
def Node.mergedEntries : Node → Result (List (Value × Value))
  | .mapping _ entries => do return (← Node.entryValues entries).all
  | .sequence _ items => do return lastFirst (← Node.mergedParts items)
  | _ => .error .manifestForm

def Node.mergedParts : List Node → Result (List (List (Value × Value)))
  | [] => .ok []
  | .mapping _ entries :: rest => do
    let head ← Node.entryValues entries
    return head.all :: (← Node.mergedParts rest)
  | _ :: _ => .error .manifestForm

/-- The text under the main key of a map that is tagged as a scalar. -/
def Node.mainText : List (Node × Node) → Result String
  | [] => .error .manifestForm
  | (.scalar .mainValue _, .scalar _ s) :: _ => .ok s
  | (.scalar .mainValue _, .mapping _ entries) :: _ => Node.mainText entries
  | (.scalar .mainValue _, _) :: _ => .error .manifestForm
  | _ :: rest => Node.mainText rest

end

/-! ### Documents -/

/-- The documents of a text in order. A fault is the last item. -/
def documents (text : String) : List (Result Value) :=
  let ts := tokens text.toList
  (documentNodes (ts.length + 1) true ts).map (fun node => do (← node).value)

/-- The only document of a text, null if it has none. -/
def singleDocument (text : String) : Result Value := do
  let ts := tokens text.toList
  match documentNodes (ts.length + 1) true ts with
  | [] => return .null
  | [node] => (← node).value
  | _ :: .error why :: _ => throw why
  | _ => throw .manifestForm

end RepoAtlas.Yaml
