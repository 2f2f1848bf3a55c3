import RepoAtlas.Yaml.Moment
import RepoAtlas.Yaml.Token

/-!
Trees of tagged nodes, read from tokens. A plain text without a tag gets one from its form; an
alias is replaced by the node that it names.
-/
namespace RepoAtlas.Yaml

/-- What kind of value a node stands for. -/
inductive Tag where
  | null | bool | int | float | binary | moment | text
  | list | map | set | orderedMap | pairs
  /-- A key whose value is merged into the map around it. -/
  | merge
  /-- The key `=` of a map's main value. -/
  | mainValue
  | unknown
  deriving DecidableEq, Repr, Inhabited

def standardTags : List (String × Tag) :=
  [("null", .null), ("bool", .bool), ("int", .int), ("float", .float), ("binary", .binary),
   ("timestamp", .moment), ("str", .text), ("seq", .list), ("map", .map), ("set", .set),
   ("omap", .orderedMap), ("pairs", .pairs), ("merge", .merge), ("value", .mainValue)]

def standardStart : String := "tag:yaml.org,2002:"

def Tag.ofName (name : String) : Tag :=
  ((standardTags.find? (fun t => standardStart ++ t.1 == name)).map (·.2)).getD .unknown

inductive Node where
  | scalar (tag : Tag) (text : String)
  | sequence (tag : Tag) (items : List Node)
  | mapping (tag : Tag) (entries : List (Node × Node))
  /-- An alias to a collection around it. -/
  | cycle (isMap : Bool)
  deriving Inhabited, Repr

/-! ### Tags from the form of a text -/

def trueWords : List String := ["yes", "Yes", "YES", "true", "True", "TRUE", "on", "On", "ON"]
def falseWords : List String := ["no", "No", "NO", "false", "False", "FALSE", "off", "Off", "OFF"]
def nullWords : List String := ["", "~", "null", "Null", "NULL"]

def dropSign : List Char → List Char
  | '-' :: rest | '+' :: rest => rest
  | s => s

def isGrouped (p : Char → Bool) (s : List Char) : Bool := s.all (fun c => p c || c == '_')

/-- Digits and underscores, with a digit in front. -/
def isDigitRun : List Char → Bool
  | [] => false
  | c :: rest => Text.isAsciiDigit c && isGrouped Text.isAsciiDigit rest

/-- A number below sixty in one or two digits. -/
def isSixtieth : List Char → Bool
  | [c] => Text.isAsciiDigit c
  | [c, d] => '0' ≤ c && c ≤ '5' && Text.isAsciiDigit d
  | _ => false

/-- Groups of base sixty behind a first number: `190:20:30`. -/
def isSexagesimal (s : List Char) : Bool :=
  match Text.splitAt ':' s with
  | first :: more => isDigitRun first && !more.isEmpty && more.all isSixtieth
  | [] => false

def isInteger (s : List Char) : Bool :=
  match dropSign s with
  | ['0'] => true
  | '0' :: 'b' :: ds => !ds.isEmpty && isGrouped (fun c => c == '0' || c == '1') ds
  | '0' :: 'x' :: ds => !ds.isEmpty && isGrouped (fun c => (Text.hexDigitValue? c).isSome) ds
  | '0' :: ds => isGrouped (fun c => '0' ≤ c && c ≤ '7') ds
  | ds => isDigitRun ds || isSexagesimal ds

/-- Nothing, or an exponent with its sign. -/
def isExponent : List Char → Bool
  | [] => true
  | e :: sign :: ds =>
    (e == 'e' || e == 'E') && (sign == '-' || sign == '+') && !ds.isEmpty &&
      ds.all Text.isAsciiDigit
  | _ => false

/-- Digits behind a point, and an exponent if one may follow. -/
def isFraction (exponent : Bool) (s : List Char) : Bool :=
  let rest := s.dropWhile (fun c => Text.isAsciiDigit c || c == '_')
  if exponent then isExponent rest else rest.isEmpty

def infinityWords : List String := [".inf", ".Inf", ".INF"]
def nanWords : List String := [".nan", ".NaN", ".NAN"]

def isFloating (s : List Char) : Bool :=
  let body := dropSign s
  let whole := body.takeWhile (· ≠ '.')
  match s, body.drop whole.length with
  | '.' :: d :: rest, _ =>
    (Text.isAsciiDigit d && isFraction true rest) ||
      infinityWords.contains (String.ofList s) || nanWords.contains (String.ofList s)
  | _, '.' :: rest =>
    (isDigitRun whole && isFraction true rest) || (isSexagesimal whole && isFraction false rest) ||
      infinityWords.contains (String.ofList body)
  | _, _ => false

def plainTag (s : String) : Tag :=
  if (trueWords ++ falseWords).contains s then .bool
  else if isFloating s.toList then .float
  else if isInteger s.toList then .int
  else if s = "<<" then .merge
  else if nullWords.contains s then .null
  else if Moment.isMoment s.toList then .moment
  else if s = "=" then .mainValue
  else if s = "!" ∨ s = "&" ∨ s = "*" then .unknown
  else .text

/-! ### Trees from tokens -/

structure Reading where
  tokens : List Token
  /-- What the handles of tags stand for. -/
  handles : List (String × String) := []
  anchors : List (String × Node) := []

abbrev Parse := StateT Reading Result

namespace Parse

def peek : Parse (Option Token) := do return (← get).tokens.head?

def drop : Parse Unit := modify (fun r => { r with tokens := r.tokens.drop 1 })

/-- Whether one of the tokens comes next. -/
def sees (ts : List Token) : Parse Bool := do
  return match ← peek with
    | some t => ts.contains t
    | none => false

/-- Takes the token if it comes next. -/
def take? (t : Token) : Parse Bool := do
  if ← sees [t] then drop; return true else return false

/-- Nothing that may stand here comes next. -/
def refuse {α : Type} : Parse α := do
  match ← peek with
  | some (.broken why) => throw why
  | _ => throw .manifestForm

def expect (t : Token) : Parse Unit := do
  if ← take? t then return else refuse

end Parse

open Parse

def defaultHandles : List (String × String) := [("!", "!"), ("!!", standardStart)]

/-- The full name of a tag; its handle must be known. -/
def fullName (name : TagName) : Parse String := do
  match name.handle with
  | none => return name.suffix
  | some handle =>
    match (← get).handles.lookup handle with
    | some start => return start ++ name.suffix
    | none => throw .manifestForm

structure Properties where
  anchor : Option String := none
  tag : Option String := none

/-- An anchor and a tag, in any order. -/
def properties : Parse Properties := do
  match ← peek with
  | some (.anchor a) =>
    drop
    match ← peek with
    | some (.tag t) => drop; return { anchor := some a, tag := some (← fullName t) }
    | _ => return { anchor := some a }
  | some (.tag t) =>
    drop
    match ← peek with
    | some (.anchor a) => drop; return { anchor := some a, tag := some (← fullName t) }
    | _ => return { tag := some (← fullName t) }
  | _ => return {}

namespace Properties

variable (p : Properties)

/-- Whether the form decides on the tag of a plain text. -/
def isOpen : Bool := p.tag = none || p.tag = some "!"

def tagOr (default : Tag) : Tag :=
  match p.tag with
  | none | some "!" => default
  | some name => .ofName name

/-- The tag of a text. A lone `!` makes a quoted text count as plain. -/
def textTag (s : String) (plain : Bool) : Tag :=
  p.tagOr (if plain || p.tag = some "!" then plainTag s else .text)

end Properties

def bind (anchor : Option String) (node : Node) : Parse Unit :=
  match anchor with
  | some a => modify (fun r => { r with anchors := (a, node) :: r.anchors })
  | none => pure ()

/-- An anchor may be given only once in a document. -/
def checkNew (anchor : Option String) : Parse Unit := do
  match anchor with
  | some a => if ((← get).anchors.lookup a).isSome then throw .manifestForm else return
  | none => return

def emptyNode : Node := .scalar .null ""

/-- Reads a collection's content between its anchor's two meanings: inside it, the alias is a
cycle. -/
def collection (p : Properties) (isMap : Bool) (content : Parse Node) : Parse Node := do
  checkNew p.anchor
  bind p.anchor (.cycle isMap)
  let node ← content
  bind p.anchor node
  return node

/-- A node, or an empty one if one of the tokens comes next. -/
def orEmpty (ends : List Token) (node : Parse Node) : Parse Node := do
  if ← sees ends then return emptyNode else node

mutual

/-- Reads a node. Collections in block form are allowed if `block`; if `loose`, also items
without an opening of their own. -/
def nodeAt (fuel : Nat) (block loose : Bool) : Parse Node := do
  match fuel with
  | 0 => refuse
  | fuel + 1 =>
    if let some (.alias name) ← peek then
      drop
      match (← get).anchors.lookup name with
      | some node => return node
      | none => throw .manifestForm
    let p ← properties
    let sequence (items : Parse (List Node)) : Parse Node :=
      collection p false (do return .sequence (p.tagOr .list) (← items))
    let mapping (entries : Parse (List (Node × Node))) : Parse Node :=
      collection p true (do return .mapping (p.tagOr .map) (← entries))
    let scalar (s : String) (plain : Bool) : Parse Node := do
      checkNew p.anchor
      let node := Node.scalar (p.textTag s plain) s
      bind p.anchor node
      return node
    match ← peek with
    | some (.text s plain) => drop; scalar s plain
    | some .sequenceOpen => drop; sequence (flowItems fuel true)
    | some .mappingOpen => drop; mapping (flowEntries fuel true)
    | t =>
      if loose && t == some .item then sequence (looseItems fuel)
      else if block && t == some .blockSequence then drop; sequence (blockItems fuel)
      else if block && t == some .blockMapping then drop; mapping (blockEntries fuel)
      else if p.anchor.isSome || p.tag.isSome then scalar "" true
      else refuse

def blockItems (fuel : Nat) : Parse (List Node) := do
  match fuel with
  | 0 => refuse
  | fuel + 1 =>
    if ← take? .item then
      let node ← orEmpty [.item, .blockEnd] (nodeAt fuel true false)
      return node :: (← blockItems fuel)
    else
      expect .blockEnd
      return []

def looseItems (fuel : Nat) : Parse (List Node) := do
  match fuel with
  | 0 => refuse
  | fuel + 1 =>
    if ← take? .item then
      let node ← orEmpty [.item, .key, .value, .blockEnd] (nodeAt fuel true false)
      return node :: (← looseItems fuel)
    else return []

def blockEntries (fuel : Nat) : Parse (List (Node × Node)) := do
  match fuel with
  | 0 => refuse
  | fuel + 1 =>
    let ends := [Token.key, .value, .blockEnd]
    if ← take? .key then
      let key ← orEmpty ends (nodeAt fuel true true)
      let value ← if ← take? .value then orEmpty ends (nodeAt fuel true true)
        else pure emptyNode
      return (key, value) :: (← blockEntries fuel)
    else
      expect .blockEnd
      return []

def flowItems (fuel : Nat) (first : Bool) : Parse (List Node) := do
  match fuel with
  | 0 => refuse
  | fuel + 1 =>
    if ← take? .sequenceClose then return []
    if !first then expect .comma
    if ← take? .sequenceClose then return []
    if ← take? .key then
      let key ← orEmpty [.value, .comma, .sequenceClose] (nodeAt fuel false false)
      let value ← if ← take? .value then
          orEmpty [.comma, .sequenceClose] (nodeAt fuel false false)
        else pure emptyNode
      return .mapping .map [(key, value)] :: (← flowItems fuel false)
    else
      let node ← nodeAt fuel false false
      return node :: (← flowItems fuel false)

def flowEntries (fuel : Nat) (first : Bool) : Parse (List (Node × Node)) := do
  match fuel with
  | 0 => refuse
  | fuel + 1 =>
    if ← take? .mappingClose then return []
    if !first then expect .comma
    if ← take? .mappingClose then return []
    if ← take? .key then
      let key ← orEmpty [.value, .comma, .mappingClose] (nodeAt fuel false false)
      let value ← if ← take? .value then
          orEmpty [.comma, .mappingClose] (nodeAt fuel false false)
        else pure emptyNode
      return (key, value) :: (← flowEntries fuel false)
    else
      let key ← nodeAt fuel false false
      return (key, emptyNode) :: (← flowEntries fuel false)

end

/-- The handles that the directives in front of a document declare. -/
def declaredHandles : Nat → Bool → List (String × String) → Parse (List (String × String))
  | 0, _, _ => refuse
  | fuel + 1, versioned, handles => do
    match ← peek with
    | some (.directive d) =>
      drop
      match d with
      | .version major =>
        if versioned || major != 1 then throw .manifestForm
        else declaredHandles fuel true handles
      | .tagHandle handle start =>
        if (handles.lookup handle).isSome then throw .manifestForm
        else declaredHandles fuel versioned ((handle, start) :: handles)
      | .other => declaredHandles fuel versioned handles
    | _ => return handles

/-- Reads a document's node and the mark at its end, if it has one. -/
def document (handles : List (String × String)) (content : Parse Node) :
    Parse Node := do
  modify (fun r => { r with handles := handles ++ defaultHandles, anchors := [] })
  let node ← content
  match ← peek with
  | some (.broken _) => refuse
  | _ => let _ ← take? .documentEnd; return node

/-- A document that begins with directives and its mark. -/
def markedDocument (fuel : Nat) : Parse Node := do
  let handles ← declaredHandles fuel false []
  expect .documentStart
  let apart : Option Token → Bool
    | some (.directive _) | some .documentStart | some .documentEnd | some .streamEnd => true
    | _ => false
  document handles
    (do if apart (← peek) then return emptyNode else nodeAt fuel true false)

def startsPlainly : List Token → Bool
  | .directive _ :: _ | .documentStart :: _ | .streamEnd :: _ => false
  | _ => true

/-- The documents of a stream in order, up to the first fault. Only the first one may begin
without its mark. -/
def documentNodes : Nat → Bool → List Token → List (Result Node)
  | 0, _, _ => []
  | fuel + 1, first, ts =>
    let plain := first && startsPlainly ts
    let ts := if plain then ts else ts.dropWhile (· == .documentEnd)
    match ts with
    | .streamEnd :: _ => []
    | ts =>
      let size := 3 * ts.length + 3
      let one := if plain then document [] (nodeAt size true false) else markedDocument size
      match one.run { tokens := ts } with
      | .ok (node, r) => .ok node :: documentNodes fuel false r.tokens
      | .error why => [.error why]

end RepoAtlas.Yaml
