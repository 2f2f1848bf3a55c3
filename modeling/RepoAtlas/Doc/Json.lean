import RepoAtlas.Doc.Basic
import RepoAtlas.Number.Numeral
import RepoAtlas.Text.CodeRanges

/-!
JSON text of documents. Written text is pure ASCII, with two blanks per level; reading keeps the
order of members, and a repeated name keeps its first place and its last value.
-/
namespace RepoAtlas.Json

open RepoAtlas.Text

/-- The escape of a code unit of UTF-16. -/
def unitEscape (unit : Nat) : List Char := '\\' :: 'u' :: hexDigits 4 unit

def escapeChar (c : Char) : List Char :=
  if c = '"' then ['\\', '"']
  else if c = '\\' then ['\\', '\\']
  else if c = '\n' then ['\\', 'n']
  else if c = '\r' then ['\\', 'r']
  else if c = '\t' then ['\\', 't']
  else if c = '\x08' then ['\\', 'b']
  else if c = '\x0c' then ['\\', 'f']
  else if 32 ≤ c.toNat ∧ c.toNat < 127 then [c]
  else if c.toNat < 0x10000 then unitEscape c.toNat
  else
    let n := c.toNat - 0x10000
    unitEscape (0xd800 + n / 0x400) ++ unitEscape (0xdc00 + n % 0x400)

def encodeText (s : String) : String :=
  String.ofList ('"' :: s.toList.flatMap escapeChar ++ ['"'])

def numberStyle : DecimalStyle := { infinityText := "Infinity", nanText := "NaN" }

def newline (depth : Nat) : String :=
  String.ofList ('\n' :: List.replicate (2 * depth) ' ')

mutual

/-- Indented text. `spell` writes the scalars that JSON cannot hold, or refuses them. -/
def encodeAt (spell : String → Option String) (depth : Nat) : Doc → Option String
  | .null => some "null"
  | .bool b => some (if b then "true" else "false")
  | .int i => some (toString i)
  | .float x => some (numberStyle.render x)
  | .text s => some (encodeText s)
  | .foreign shown => (spell shown).map encodeText
  | .list [] => some "[]"
  | .list items => do
    let parts ← encodeItems spell (depth + 1) items
    let gap := newline (depth + 1)
    some ("[" ++ gap ++ String.intercalate ("," ++ gap) parts ++ newline depth ++ "]")
  | .object [] => some "\x7b\x7d"
  | .object ms => do
    let parts ← encodeMembers spell (depth + 1) ms
    let gap := newline (depth + 1)
    some ("\x7b" ++ gap ++ String.intercalate ("," ++ gap) parts ++ newline depth ++ "\x7d")

def encodeItems (spell : String → Option String) (depth : Nat) :
    List Doc → Option (List String)
  | [] => some []
  | d :: rest => do
    let head ← encodeAt spell depth d
    some (head :: (← encodeItems spell depth rest))

def encodeMembers (spell : String → Option String) (depth : Nat) :
    List (String × Doc) → Option (List String)
  | [] => some []
  | (k, v) :: rest => do
    let head ← encodeAt spell depth v
    some ((encodeText k ++ ": " ++ head) :: (← encodeMembers spell depth rest))

end

/-- The text of a document; `none` if it holds a scalar without a JSON form. -/
def encode? (d : Doc) : Option String := encodeAt (fun _ => none) 0 d

/-- The text of a document, with scalars that JSON cannot hold written as their texts. -/
def encode (d : Doc) : String := (encodeAt some 0 d).getD ""

def isJsonBlank (c : Char) : Bool := c == ' ' || c == '\t' || c == '\n' || c == '\r'

def skipBlanks (s : List Char) : List Char := s.dropWhile isJsonBlank

def unit? (a b c d : Char) : Option Nat := do
  let w ← hexDigitValue? a
  let x ← hexDigitValue? b
  let y ← hexDigitValue? c
  let z ← hexDigitValue? d
  some (((w * 16 + x) * 16 + y) * 16 + z)

/-- The character of a pair of code units, if they are a pair. -/
def charOfPair? (high low : Nat) : Option Char :=
  if 0xd800 ≤ high ∧ high < 0xdc00 ∧ 0xdc00 ≤ low ∧ low < 0xe000 then
    some (Char.ofNat (0x10000 + (high - 0xd800) * 0x400 + (low - 0xdc00)))
  else none

/-- The character of a single code unit; half a pair stands for no character. -/
def charOfUnit (unit : Nat) : Char :=
  if 0xd800 ≤ unit ∧ unit < 0xe000 then '\ufffd' else Char.ofNat unit

def unescape? (c : Char) : Option Char :=
  if c = '"' ∨ c = '\\' ∨ c = '/' then some c
  else if c = 'n' then some '\n'
  else if c = 'r' then some '\r'
  else if c = 't' then some '\t'
  else if c = 'b' then some '\x08'
  else if c = 'f' then some '\x0c'
  else none

/-- Reads up to the closing quote; `done` holds the characters read, last one first. -/
def stringBody (done : List Char) : List Char → Option (List Char × List Char)
  | [] => none
  | '"' :: rest => some (done.reverse, rest)
  | '\\' :: 'u' :: a :: b :: c :: d :: '\\' :: 'u' :: e :: f :: g :: h :: rest =>
    match unit? a b c d, unit? e f g h with
    | some high, some low =>
      match charOfPair? high low with
      | some pair => stringBody (pair :: done) rest
      | none => stringBody (charOfUnit high :: done) ('\\' :: 'u' :: e :: f :: g :: h :: rest)
    | _, _ => none
  | '\\' :: 'u' :: a :: b :: c :: d :: rest =>
    match unit? a b c d with
    | some unit => stringBody (charOfUnit unit :: done) rest
    | none => none
  | '\\' :: e :: rest =>
    match unescape? e with
    | some c => stringBody (c :: done) rest
    | none => none
  | c :: rest => if c.toNat < 32 ∨ c = '\\' then none else stringBody (c :: done) rest

def string? (s : List Char) : Option (String × List Char) :=
  (stringBody [] s).map (fun (body, rest) => (String.ofList body, rest))

/-- Cuts a number off the front: sign, digits without leading zero, fraction, exponent. -/
def number? (s : List Char) : Option (Doc × List Char) := do
  let (negative, body) := match s with
    | '-' :: rest => (true, rest)
    | _ => (false, s)
  let (whole, rest) ← match body with
    | '0' :: rest => some (['0'], rest)
    | _ =>
      let (digits, rest) := body.span isAsciiDigit
      if digits.isEmpty then none else some (digits, rest)
  let (fraction, rest) := match rest with
    | '.' :: tail =>
      let (digits, after) := tail.span isAsciiDigit
      if digits.isEmpty then ([], rest) else (digits, after)
    | _ => ([], rest)
  let (exponent, rest) : Option Int × List Char := match rest with
    | e :: tail =>
      if e = 'e' ∨ e = 'E' then
        let (minus, digits) := Numeral.sign tail
        let (digits, after) := digits.span isAsciiDigit
        if digits.isEmpty then (none, rest)
        else (some (Numeral.signed minus (Numeral.digitsValue digits)), after)
      else (none, rest)
    | [] => (none, rest)
  if fraction.isEmpty && exponent.isNone then
    some (.int (Numeral.signed negative (Numeral.digitsValue whole)), rest)
  else
    some (.float (.ofDecimal negative (Numeral.digitsValue (whole ++ fraction))
      (exponent.getD 0 - fraction.length)), rest)

def word? (s : List Char) (word : String) : Option (List Char) :=
  if word.toList.isPrefixOf s then some (s.drop word.length) else none

mutual

/-- Reads one value; `fuel` bounds the values still to be read. -/
def value? : Nat → List Char → Option (Doc × List Char)
  | 0, _ => none
  | fuel + 1, s =>
    match s with
    | '"' :: rest => (string? rest).map (fun (t, rest) => (.text t, rest))
    | '[' :: rest =>
      match skipBlanks rest with
      | ']' :: rest => some (.list [], rest)
      | rest => (items? fuel rest).map (fun (ds, rest) => (.list ds, rest))
    | '{' :: rest =>
      match skipBlanks rest with
      | '}' :: rest => some (.object [], rest)
      | rest => (members? fuel rest).map (fun (ms, rest) => (Doc.ofMembers ms, rest))
    | _ =>
      match word? s "null", word? s "true", word? s "false", word? s "NaN",
        word? s "Infinity", word? s "-Infinity" with
      | some rest, _, _, _, _, _ => some (.null, rest)
      | _, some rest, _, _, _, _ => some (.bool true, rest)
      | _, _, some rest, _, _, _ => some (.bool false, rest)
      | _, _, _, some rest, _, _ => some (.float .nan, rest)
      | _, _, _, _, some rest, _ => some (.float (.infinite false), rest)
      | _, _, _, _, _, some rest => some (.float (.infinite true), rest)
      | _, _, _, _, _, _ => number? s

def items? : Nat → List Char → Option (List Doc × List Char)
  | 0, _ => none
  | fuel + 1, s => do
    let (head, rest) ← value? fuel (skipBlanks s)
    match skipBlanks rest with
    | ',' :: rest =>
      let (tail, rest) ← items? fuel rest
      some (head :: tail, rest)
    | ']' :: rest => some ([head], rest)
    | _ => none

def members? : Nat → List Char → Option (List (String × Doc) × List Char)
  | 0, _ => none
  | fuel + 1, s => do
    let rest ← match skipBlanks s with
      | '"' :: rest => some rest
      | _ => none
    let (name, rest) ← string? rest
    let rest ← match skipBlanks rest with
      | ':' :: rest => some rest
      | _ => none
    let (head, rest) ← value? fuel (skipBlanks rest)
    match skipBlanks rest with
    | ',' :: rest =>
      let (tail, rest) ← members? fuel rest
      some ((name, head) :: tail, rest)
    | '}' :: rest => some ([(name, head)], rest)
    | _ => none

end

/-- The document of a whole text, with blanks around it. -/
def decode? (text : String) : Option Doc :=
  let s := text.toList
  match value? (s.length + 1) (skipBlanks s) with
  | some (d, rest) => if (skipBlanks rest).isEmpty then some d else none
  | none => none

end RepoAtlas.Json
