import RepoAtlas.Yaml.BlockText
import RepoAtlas.Yaml.FlowText
import RepoAtlas.Yaml.Tag

/-!
The tokens of a YAML text. Indentation becomes brackets: a collection in block form opens where
an entry stands further right than the lines around it and closes where a line falls back. A key
is known as one only at its colon, so the places where one may have begun are kept; its mark is
then put in front of what has been read since.
-/
namespace RepoAtlas.Yaml

inductive Token where
  | directive (d : Directive)
  | documentStart
  | documentEnd
  | streamEnd
  | blockSequence
  | blockMapping
  | blockEnd
  | sequenceOpen
  | sequenceClose
  | mappingOpen
  | mappingClose
  | comma
  | item
  | key
  | value
  | alias (name : String)
  | anchor (name : String)
  | tag (name : TagName)
  | text (s : String) (plain : Bool)
  /-- The text cannot be read from here on. -/
  | broken (why : Fault)
  deriving DecidableEq, Repr, Inhabited

/-- A place where a key may have begun. -/
structure Pending where
  /-- How many tokens come before it. -/
  place : Nat
  /-- A colon must follow. -/
  required : Bool
  index : Nat
  line : Nat
  column : Nat

structure Scanning where
  cursor : Cursor
  indent : Int := -1
  /-- The indentations around the present one, innermost first. -/
  outer : List Int := []
  /-- A possible key for each open bracket, innermost first, and for the block outside. -/
  keys : List (Option Pending) := [none]
  keyAllowed : Bool := true
  /-- The tokens read, last one first, and their number. -/
  tokens : List Token := []
  count : Nat := 0

/-- A key is written on one line and is not longer. -/
def maxKeyLength : Nat := 1024

namespace Scanning

variable (s : Scanning)

def inFlow : Bool := 1 < s.keys.length

def emit (t : Token) : Scanning := { s with tokens := t :: s.tokens, count := s.count + 1 }

/-- Puts a token behind the first `place` tokens. -/
def emitAt (place : Nat) (t : Token) : Scanning :=
  let later := s.count - place
  { s with tokens := s.tokens.take later ++ t :: s.tokens.drop later, count := s.count + 1 }

def advance (n : Nat) : Scanning := { s with cursor := s.cursor.skip n }

/-- Whether a possible key can no longer be one. -/
def isStale (p : Pending) : Bool :=
  p.line != s.cursor.line || maxKeyLength < s.cursor.index - p.index

def dropStale : Result Scanning := do
  let keys ← s.keys.mapM (fun key => match key with
    | some p =>
      if s.isStale p then (if p.required then .error .manifestForm else .ok none)
      else .ok (some p)
    | none => .ok none)
  return { s with keys }

/-- Gives up the possible key of the innermost level. -/
def dropKey : Result Scanning :=
  match s.keys with
  | some p :: keys => if p.required then .error .manifestForm else .ok { s with keys := none :: keys }
  | _ => .ok s

/-- Notes that a key may begin here. -/
def noteKey : Result Scanning :=
  if s.keyAllowed then do
    let s ← s.dropKey
    let c := s.cursor
    let p : Pending :=
      { place := s.count, required := !s.inFlow && s.indent == c.column, index := c.index,
        line := c.line, column := c.column }
    return { s with keys := some p :: s.keys.drop 1 }
  else .ok s

/-- Closes the block collections that stand further right than the column. -/
def unwindTo (column : Int) : List Int → Scanning → Scanning
  | [], s => s
  | around :: outer, s =>
    if column < s.indent then
      unwindTo column outer { s.emit .blockEnd with indent := around, outer }
    else s

def unwind (column : Int) : Scanning :=
  if s.inFlow then s else unwindTo column s.outer s

/-- Opens a block collection if the column is further right than the one around. -/
def open? (column : Nat) (place : Nat) (t : Token) : Scanning :=
  if s.indent < column then
    { s.emitAt place t with indent := column, outer := s.indent :: s.outer }
  else s

/-- Skips blanks, comments and empty lines. Behind a break a key may begin. -/
def skipGaps : Nat → Scanning → Scanning
  | 0, s => s
  | fuel + 1, s =>
    let c := s.cursor.skipBlanks.skipComment
    match c.break? with
    | none => { s with cursor := c }
    | some (_, c) =>
      skipGaps fuel { s with cursor := c, keyAllowed := s.keyAllowed || !s.inFlow }

/-- A token that ends every block: a directive or a document marker. -/
def apart (t : Token) (after : Cursor) : Result Scanning := do
  let s ← (s.unwind (-1)).dropKey
  return { s.emit t with keyAllowed := false, cursor := after }

def openFlow (t : Token) : Result Scanning := do
  let s ← s.noteKey
  return { (s.emit t).advance 1 with keys := none :: s.keys, keyAllowed := true }

def closeFlow (t : Token) : Result Scanning := do
  let s ← s.dropKey
  return { (s.emit t).advance 1 with keys := s.keys.drop 1, keyAllowed := false }

def comma : Result Scanning := do
  let s ← s.dropKey
  return { (s.emit .comma).advance 1 with keyAllowed := true }

/-- An entry in block form may begin only where a key may. -/
def blockEntry (collection entry : Token) (keyNext : Bool) : Result Scanning := do
  if !s.inFlow && !s.keyAllowed then .error .manifestForm
  let opened := if s.inFlow then s else s.open? s.cursor.column s.count collection
  let s ← opened.dropKey
  return { (s.emit entry).advance 1 with keyAllowed := keyNext }

/-- A colon: the possible key of the level is one after all, or else the key is empty. -/
def colon : Result Scanning :=
  match s.keys with
  | some p :: keys =>
    let s := { s with keys := none :: keys }.emitAt p.place .key
    let s := if s.inFlow then s else s.open? p.column p.place .blockMapping
    .ok { (s.emit .value).advance 1 with keyAllowed := false }
  | _ => s.blockEntry .blockMapping .value (!s.inFlow)

/-- A token that may begin a key. -/
def content (found : Result (Token × Cursor)) : Result Scanning := do
  let s ← s.noteKey
  let (t, c) ← found
  return { s.emit t with keyAllowed := false, cursor := c }

def block (fold : Bool) : Result Scanning := do
  let s ← s.dropKey
  let (text, c) ← blockText fold s.indent s.cursor
  return { s.emit (.text (String.ofList text) false) with keyAllowed := true, cursor := c }

def quoted (double : Bool) : Result Scanning :=
  s.content do
    let (text, c) ← quotedText double s.cursor
    return (.text (String.ofList text) false, c)

def plain : Result Scanning := do
  let s ← s.noteKey
  let found := plainText s.inFlow (s.indent + 1) s.cursor
  return { s.emit (.text (String.ofList found.text) true) with
    keyAllowed := found.atLineStart, cursor := found.cursor }

def named (kind : String → Token) : Result Scanning :=
  s.content do
    let (name, c) ← anchorName s.cursor
    return (kind name, c)

def tagged : Result Scanning :=
  s.content do
    let (name, c) ← tagName s.cursor
    return (.tag name, c)

/-- Reads the next token; the flag tells that it is the last one. A closing bracket that has no
opening one is the last, since no document holds it. -/
def step : Result (Scanning × Bool) := do
  let s ← (skipGaps (s.cursor.rest.length + 1) s).dropStale
  let s := s.unwind s.cursor.column
  let c := s.cursor
  let on (s : Result Scanning) : Result (Scanning × Bool) := do return (← s, false)
  let ends := endsWord (c.peekAt 1)
  match c.peek with
  | none => do
    let s ← (s.unwind (-1)).dropKey
    return (s.emit .streamEnd, true)
  | some x =>
    if x = '%' && c.column == 0 then do
      let s ← (s.unwind (-1)).dropKey
      let (d, after) ← directive c
      return ({ s.emit (.directive d) with keyAllowed := false, cursor := after }, false)
    else if c.atMarker "---" then on (s.apart .documentStart (c.skip 3))
    else if c.atMarker "..." then on (s.apart .documentEnd (c.skip 3))
    else if x = '[' then on (s.openFlow .sequenceOpen)
    else if x = '{' then on (s.openFlow .mappingOpen)
    else if x = ']' then do return (← s.closeFlow .sequenceClose, !s.inFlow)
    else if x = '}' then do return (← s.closeFlow .mappingClose, !s.inFlow)
    else if x = ',' then on s.comma
    else if x = '-' && ends then on (s.blockEntry .blockSequence .item true)
    else if x = '?' && (s.inFlow || ends) then on (s.blockEntry .blockMapping .key (!s.inFlow))
    else if x = ':' && (s.inFlow || ends) then on s.colon
    else if x = '*' then on (s.named .alias)
    else if x = '&' then on (s.named .anchor)
    else if x = '!' then on s.tagged
    else if x = '|' && !s.inFlow then on (s.block false)
    else if x = '>' && !s.inFlow then on (s.block true)
    else if x = '\'' then on (s.quoted false)
    else if x = '"' then on (s.quoted true)
    else if beginsPlain s.inFlow c then on s.plain
    else .error .manifestForm

def run : Nat → Scanning → List Token
  | 0, s => s.tokens.reverse
  | fuel + 1, s =>
    match s.step with
    | .error why => (.broken why :: s.tokens).reverse
    | .ok (s, true) => s.tokens.reverse
    | .ok (s, false) => run fuel s

end Scanning

/-- The tokens of a text. Reading stops at the first fault. -/
def tokens (text : List Char) : List Token :=
  if text.all isAllowed then
    let text := if text.head? = some '\ufeff' then text.drop 1 else text
    Scanning.run (text.length + 2) { cursor := ⟨text, 0, 0, 0⟩ }
  else [.broken .manifestForm]

end RepoAtlas.Yaml
