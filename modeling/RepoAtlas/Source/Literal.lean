import RepoAtlas.Number.Numeral
import RepoAtlas.Source.Tree
import RepoAtlas.Text.CharacterName

/-!
The values of number and string literals, and the division of templates (string literals with
holes) into texts and holes.
-/
namespace RepoAtlas.Source.Literal

open RepoAtlas.Text

def radixValue (radix : Nat) (digits : List Char) : Nat :=
  digits.foldl (fun n c => radix * n + (hexDigitValue? c).getD 0) 0

/-- The value of a number literal; very long decimal integers have none. -/
def number? (text : String) : Option Constant :=
  match text.toList with
  | '0' :: 'x' :: digits => some (.int (radixValue 16 digits))
  | '0' :: 'o' :: digits => some (.int (radixValue 8 digits))
  | '0' :: 'b' :: digits => some (.int (radixValue 2 digits))
  | s =>
    if s.all isAsciiDigit then
      if Numeral.maxDigits < s.length then none else some (.int (Numeral.digitsValue s))
    else
      let double (s : List Char) : Option Binary64 :=
        (Numeral.decimal? s).map (fun (n, e) => .ofDecimal false n e)
      if s.getLast? = some 'j' then (double s.dropLast).map .imaginary
      else (double s).map .float

/-- A fixed number of hexadecimal digits. -/
def hexDigits? (count : Nat) (s : List Char) : Option (Nat × List Char) :=
  let digits := s.take count
  if digits.length = count && digits.all (fun c => (hexDigitValue? c).isSome) then
    some (hexValue digits, s.drop count)
  else none

def isOctal (c : Char) : Bool := '0' ≤ c && c ≤ '7'

/-- Up to three octal digits. -/
def octal (s : List Char) : Nat × List Char :=
  let digits := (s.take 3).takeWhile isOctal
  (radixValue 8 digits, s.drop digits.length)

/-- The character of a code; code points that are no characters get a replacement. -/
def charOf? (code : Nat) : Option Char :=
  if 0x10ffff < code then none
  else if 0xd800 ≤ code && code < 0xe000 then some '\ufffd'
  else some (Char.ofNat code)

def simpleEscape? (c : Char) : Option Char :=
  if c = '\\' ∨ c = '\'' ∨ c = '"' then some c
  else if c = 'a' then some '\x07'
  else if c = 'b' then some '\x08'
  else if c = 'f' then some '\x0c'
  else if c = 'n' then some '\n'
  else if c = 'r' then some '\r'
  else if c = 't' then some '\t'
  else if c = 'v' then some '\x0b'
  else none

/-- What an escape stands for, read behind its backslash. In bytes the letters for code points
and for names mean nothing. -/
def escape? (inBytes : Bool) (s : List Char) : Option (List Char × List Char) :=
  match s with
  | [] => some (['\\'], [])
  | c :: rest =>
    let coded (digits : Nat) : Option (List Char × List Char) := do
      let (code, rest) ← hexDigits? digits rest
      some ([← charOf? code], rest)
    if c = '\n' then some ([], rest)
    else if isOctal c then
      let (code, rest) := octal s
      some ([Char.ofNat (if inBytes then code % 256 else code)], rest)
    else if c = 'x' then coded 2
    else if c = 'u' && !inBytes then coded 4
    else if c = 'U' && !inBytes then coded 8
    else if c = 'N' && !inBytes then
      match rest with
      | '{' :: name =>
        let (letters, after) := name.span (· ≠ '\x7d')
        if after.isEmpty then none
        else (charOfName? letters).map (fun c => ([c], after.drop 1))
      | _ => none
    else match simpleEscape? c with
      | some d => some ([d], rest)
      | none => some (['\\', c], rest)

/-- Replaces escapes; the fuel bounds the characters still to be read. -/
def unescape? (inBytes : Bool) : Nat → List Char → List Char → Option (List Char)
  | _, done, [] => some done.reverse
  | 0, _, _ :: _ => none
  | fuel + 1, done, c :: rest =>
    if c = '\\' then
      match escape? inBytes rest with
      | some (cs, after) => unescape? inBytes fuel (cs.reverse ++ done) after
      | none => none
    else unescape? inBytes fuel (c :: done) rest

def decode? (raw inBytes : Bool) (s : List Char) : Option (List Char) :=
  if raw then some s else unescape? inBytes (s.length + 1) [] s

def bytes? (raw : Bool) (s : List Char) : Option (List UInt8) :=
  if s.all (·.toNat < 128) then
    (decode? raw true s).map (List.map (fun c => UInt8.ofNat c.toNat))
  else none

/-- The letters before a literal's quotes. -/
structure Lead where
  isBytes : Bool
  isRaw : Bool
  isTemplate : Bool
  isMarked : Bool
  deriving DecidableEq, Repr

def Lead.ofText (lead : String) : Lead :=
  let s := lead.toList.map Char.toLower
  ⟨s.contains 'b', s.contains 'r', s.contains 'f', lead.toList.head? = some 'u'⟩

/-- A piece of a template. A hole has the text of its expression, the lines before it, its
conversion and the pieces of its format. -/
inductive Piece where
  | text (s : List Char)
  | hole (source : List Char) (lines : Nat) (conversion : Option Char)
      (format : Option (List Piece))
  deriving Repr, Inhabited

/-- Where a text piece ends: at the end of the template or at a hole, or behind a doubled brace
with more text to come. -/
structure TextRun where
  text : List Char
  rest : List Char
  more : Bool

/-- Reads text up to a brace. At the top of a template a doubled brace stands for itself and a
lone closing one is refused. `done` holds what was read, last character first. -/
def textRun? (raw top : Bool) (done : List Char) : List Char → Option TextRun
  | [] => some ⟨done.reverse, [], false⟩
  | '\\' :: c :: rest =>
    if raw || c = '{' || c = '\x7d' then textRun? raw top ('\\' :: done) (c :: rest)
    else if c = 'N' then
      match rest with
      | '{' :: name =>
        let (letters, after) := name.span (· ≠ '\x7d')
        some ⟨done.reverse ++ '\\' :: 'N' :: '{' :: letters ++ after.take 1, after.drop 1, true⟩
      | _ => none
    else textRun? raw top (c :: '\\' :: done) rest
  | c :: rest =>
    if c = '{' ∨ c = '\x7d' then
      if top then
        if rest.head? = some c then some ⟨(c :: done).reverse, rest.drop 1, true⟩
        else if c = '\x7d' then none
        else some ⟨done.reverse, c :: rest, false⟩
      else some ⟨done.reverse, c :: rest, false⟩
    else textRun? raw top (c :: done) rest

def closer (c : Char) : Char :=
  if c = '(' then ')' else if c = '[' then ']' else '\x7d'

/-- Where a scan of a hole stands: in a string with the given quote, which is long or not, and
below the open brackets. The next `skip` characters belong to a mark that was seen already. -/
structure HoleScan where
  quote : Option (Char × Bool) := none
  brackets : List Char := []
  skip : Nat := 0

/-- Two more of the same character follow. -/
def isTripled (c : Char) (rest : List Char) : Bool := [c, c].isPrefixOf rest

/-- What a character of a hole does to the scan: `none` if it is not allowed there. -/
def HoleScan.step? (scan : HoleScan) (c : Char) (rest : List Char) : Option HoleScan :=
  match scan.quote with
  | some (q, long) =>
    if c ≠ q then some scan
    else if long then
      if isTripled c rest then some { scan with quote := none, skip := 2 } else some scan
    else some { scan with quote := none }
  | none =>
    if c = '\'' ∨ c = '"' then
      if isTripled c rest then some { scan with quote := some (c, true), skip := 2 }
      else some { scan with quote := some (c, false) }
    else if c = '(' ∨ c = '[' ∨ c = '{' then some { scan with brackets := c :: scan.brackets }
    else if c = '#' then none
    else if c = ')' ∨ c = ']' ∨ c = '\x7d' then
      match scan.brackets with
      | top :: below => if closer top = c then some { scan with brackets := below } else none
      | [] => none
    else if rest.head? = some '=' && (c == '!' || c == '=' || c == '<' || c == '>') &&
        scan.brackets.isEmpty then
      some { scan with skip := 1 }
    else some scan

/-- A mark that ends the expression of a hole: one of `! : = }` outside brackets and strings
that does not begin a comparison. -/
def HoleScan.isEnd (scan : HoleScan) (c : Char) (rest : List Char) : Bool :=
  scan.quote.isNone && scan.brackets.isEmpty &&
    (c == ':' || c == '\x7d' || ((c == '!' || c == '=') && rest.head? ≠ some '='))

/-- Reads the expression of a hole up to the mark that ends it. `done` holds what was read, last
character first. -/
def holeSource? (scan : HoleScan) (done : List Char) :
    List Char → Option (List Char × List Char)
  | [] => none
  | c :: rest =>
    if c = '\\' then none
    else match scan.skip with
      | n + 1 => holeSource? { scan with skip := n } (c :: done) rest
      | 0 =>
        if scan.isEnd c rest then some (done.reverse, c :: rest)
        else match scan.step? c rest with
          | some scan => holeSource? scan (c :: done) rest
          | none => none

def isHoleBlank (c : Char) : Bool := c == ' ' || c == '\t' || c == '\n' || c == '\x0c'

def isSpace (c : Char) : Bool := c == ' ' || (9 ≤ c.toNat && c.toNat ≤ 13)

/-- A conversion letter behind an exclamation mark. -/
def conversion? (s : List Char) : Option (Option Char × List Char) :=
  match s with
  | '!' :: c :: rest => if c = 's' ∨ c = 'r' ∨ c = 'a' then some (some c, rest) else none
  | ['!'] => none
  | _ => some (none, s)

/-- The line breaks in the part of `s` before its suffix `rest`. -/
def linesBefore (s rest : List Char) : Nat := (s.take (s.length - rest.length)).count '\n'

/-- Divides a template. `levels` is how deep holes may still nest, `lines` the lines before the
text; the fuel bounds the pieces still to be read. Within a format the closing brace of its hole
ends it. -/
def pieces? (raw top : Bool) : Nat → Nat → Nat → List Char → Option (List Piece × List Char)
  | _, 0, _, _ => none
  | levels, fuel + 1, lines, s => do
    let run ← textRun? raw top [] s
    let text ← decode? raw false run.text
    let lines := lines + linesBefore s run.rest
    if run.more then
      let (tail, rest) ← pieces? raw top levels fuel lines run.rest
      some (.text text :: tail, rest)
    else
      match run.rest with
      | '{' :: body =>
        match levels with
        | 0 => none
        | inner + 1 =>
          let (source, after) ← holeSource? {} [] body
          if source.all isHoleBlank then none
          let (shown, after) := match after with
            | '=' :: more => (source ++ '=' :: more.takeWhile isSpace, more.dropWhile isSpace)
            | _ => ([], after)
          let (conversion, after) ← conversion? after
          let (format, after) ← match after with
            | ':' :: spec =>
              (pieces? raw false inner fuel (lines + linesBefore body spec) spec).map
                (fun (ps, rest) => (some ps, rest))
            | _ => some (none, after)
          let conversion :=
            if !shown.isEmpty && format.isNone && conversion.isNone then some 'r' else conversion
          match after with
          | '\x7d' :: after =>
            let (tail, rest) ←
              pieces? raw top (inner + 1) fuel (lines + linesBefore body after) after
            some (.text text :: .text shown :: .hole source lines conversion format :: tail, rest)
          | _ => none
      | rest => if top && !rest.isEmpty then none else some ([.text text], rest)

/-- The pieces of a template's body. -/
def template? (raw : Bool) (s : List Char) : Option (List Piece) :=
  (pieces? raw true 2 (2 * s.length + 2) 0 s).map (·.1)

end RepoAtlas.Source.Literal
