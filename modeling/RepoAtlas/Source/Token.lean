import RepoAtlas.Text.CharClass
import RepoAtlas.Text.Identifier

/-!
Lexemes of source text: words, numbers, string literals and marks. Each reader takes one lexeme
off the front of the text and fails where none can stand.
-/
namespace RepoAtlas.Source

open RepoAtlas.Text

inductive Lexeme where
  /-- An identifier or a keyword. -/
  | word (text : String)
  /-- A number without the underscores that group its digits. -/
  | number (text : String)
  /-- A string literal: the letters before its quotes, and what stands between them. -/
  | string (lead : String) (body : String)
  | mark (text : String)
  | newline
  | indent
  | dedent
  deriving DecidableEq, Repr, Inhabited

structure Token where
  lexeme : Lexeme
  line : Nat
  deriving DecidableEq, Repr, Inhabited

namespace Lexeme

/-- Words go on through letters, digits, underscores and everything beyond ASCII. -/
def continuesWord (c : Char) : Bool :=
  c.isAlphanum || c == '_' || 128 ≤ c.toNat

def beginsWord (c : Char) : Bool := continuesWord c && !isAsciiDigit c

def isIdentifierWord (s : List Char) : Bool :=
  match s with
  | c :: rest => isIdentifierStart c && rest.all isIdentifierContinue
  | [] => false

/-- The letters that may stand before the quotes of a string literal. -/
def stringLeads : List String := ["b", "u", "r", "f", "br", "rb", "fr", "rf"]

/-- Reads to the closing quote of a one-line literal; a backslash keeps the next character. -/
def shortBody (quote : Char) : List Char → Option (List Char × List Char)
  | [] => none
  | ['\\'] => none
  | '\\' :: c :: rest => (shortBody quote rest).map (fun (body, after) => ('\\' :: c :: body, after))
  | c :: rest =>
    if c = quote then some ([], rest)
    else if c = '\n' then none
    else (shortBody quote rest).map (fun (body, after) => (c :: body, after))

/-- Reads to the three closing quotes of a long literal; `done` holds what was read, last
character first. -/
def longBody (quote : Char) (done : List Char) : List Char → Option (List Char × List Char)
  | [] => none
  | ['\\'] => none
  | '\\' :: c :: rest => longBody quote (c :: '\\' :: done) rest
  | c :: rest =>
    if [quote, quote, quote].isPrefixOf (c :: rest) then some (done.reverse, rest.drop 2)
    else longBody quote (c :: done) rest

/-- A string literal from its opening quote on. -/
def string? (lead : List Char) (s : List Char) : Option (Lexeme × List Char) :=
  match s with
  | quote :: rest =>
    let read := if [quote, quote].isPrefixOf rest then longBody quote [] (rest.drop 2)
      else shortBody quote rest
    read.map (fun (body, after) => (.string (String.ofList lead) (String.ofList body), after))
  | [] => none

def isQuote (c : Char) : Bool := c == '\'' || c == '"'

def word? (s : List Char) : Option (Lexeme × List Char) :=
  let (letters, rest) := s.span continuesWord
  let quoted := (rest.head?.map isQuote).getD false
  if quoted && stringLeads.contains (String.ofList (letters.map Char.toLower)) then
    string? letters rest
  else if letters.all (·.toNat < 128) || isIdentifierWord letters then
    some (.word (String.ofList letters), rest)
  else none

/-- The digits that follow a digit, with single underscores between digits. -/
def moreDigits? (isDigit : Char → Bool) : List Char → Option (List Char × List Char)
  | [] => some ([], [])
  | c :: rest =>
    if isDigit c then (moreDigits? isDigit rest).map (fun (ds, after) => (c :: ds, after))
    else if c = '_' then
      if (rest.head?.map isDigit).getD false then moreDigits? isDigit rest else none
    else some ([], c :: rest)

/-- A run of digits, of which there is at least one. -/
def digitRun? (isDigit : Char → Bool) : List Char → Option (List Char × List Char)
  | [] => none
  | c :: rest =>
    if isDigit c then (moreDigits? isDigit rest).map (fun (ds, after) => (c :: ds, after))
    else none

/-- Keywords that may follow a number without a blank. -/
def glued : List String := ["and", "else", "for", "if", "in", "is", "not", "or"]

def endsNumber (rest : List Char) : Bool :=
  match rest with
  | [] => true
  | c :: _ => !continuesWord c || glued.any (fun w => w.toList.isPrefixOf rest)

def checkedNumber (text : List Char) (rest : List Char) : Option (Lexeme × List Char) :=
  if endsNumber rest then some (.number (String.ofList text), rest) else none

def isHexDigit (c : Char) : Bool := (hexDigitValue? c).isSome
def isOctalDigit (c : Char) : Bool := '0' ≤ c && c ≤ '7'
def isBinaryDigit (c : Char) : Bool := c == '0' || c == '1'

/-- A number with a radix letter; an underscore may follow the letter. -/
def radix? (letter : Char) (isDigit : Char → Bool) (s : List Char) : Option (Lexeme × List Char) :=
  let s := match s with
    | '_' :: rest => rest
    | _ => s
  match digitRun? isDigit s with
  | some (ds, rest) =>
    if (rest.head?.map isAsciiDigit).getD false then none
    else checkedNumber ('0' :: letter :: ds) rest
  | none => none

/-- What may follow the digits of a decimal number: an exponent, then the imaginary unit. -/
def exponent? (text : List Char) (s : List Char) : Option (Lexeme × List Char) :=
  let imaginary (text s : List Char) : Option (Lexeme × List Char) :=
    match s with
    | c :: rest => if c = 'j' ∨ c = 'J' then checkedNumber (text ++ ['j']) rest
      else checkedNumber text s
    | [] => checkedNumber text []
  match s with
  | c :: rest =>
    if c = 'e' ∨ c = 'E' then
      match rest with
      | d :: after =>
        if d = '+' ∨ d = '-' then
          match digitRun? isAsciiDigit after with
          | some (ds, rest) => imaginary (text ++ 'e' :: d :: ds) rest
          | none => none
        else if isAsciiDigit d then
          match digitRun? isAsciiDigit rest with
          | some (ds, rest) => imaginary (text ++ 'e' :: ds) rest
          | none => none
        else checkedNumber text s
      | [] => checkedNumber text s
    else imaginary text s
  | [] => some (.number (String.ofList text), [])

/-- A fraction from its point on. -/
def fraction? (text : List Char) (s : List Char) : Option (Lexeme × List Char) :=
  if (s.head?.map isAsciiDigit).getD false then
    match digitRun? isAsciiDigit s with
    | some (ds, rest) => exponent? (text ++ '.' :: ds) rest
    | none => none
  else exponent? (text ++ ['.']) s

/-- A decimal number. One that begins with zero and is no zero needs a point, an exponent or
the imaginary unit. -/
def decimal? (s : List Char) : Option (Lexeme × List Char) :=
  match digitRun? isAsciiDigit s with
  | some (ds, rest) =>
    let padded := ds.head? = some '0' && ds.any (· ≠ '0')
    match rest with
    | '.' :: rest => fraction? ds rest
    | c :: _ =>
      if padded && c ≠ 'e' && c ≠ 'E' && c ≠ 'j' && c ≠ 'J' then none else exponent? ds rest
    | [] => if padded then none else exponent? ds []
  | none => none

def number? (s : List Char) : Option (Lexeme × List Char) :=
  match s with
  | '0' :: c :: rest =>
    if c = 'x' ∨ c = 'X' then radix? 'x' isHexDigit rest
    else if c = 'o' ∨ c = 'O' then radix? 'o' isOctalDigit rest
    else if c = 'b' ∨ c = 'B' then radix? 'b' isBinaryDigit rest
    else decimal? s
  | _ => decimal? s

/-- Longer marks come first. -/
def marks : List String :=
  ["**=", "//=", ">>=", "<<=", "...", "!=", "%=", "&=", "**", "*=", "+=", "-=", "->", "//", "/=",
   ":=", "<<", "<=", "==", ">=", ">>", "@=", "^=", "|=", "%", "&", "(", ")", "*", "+", ",", "-",
   ".", "/", ":", ";", "<", "=", ">", "@", "[", "]", "^", "\x7b", "|", "\x7d", "~"]

def mark? (s : List Char) : Option (Lexeme × List Char) :=
  (marks.find? (fun m => m.toList.isPrefixOf s)).map (fun m => (.mark m, s.drop m.length))

/-- The lexeme at the front of a text that begins with no blank. -/
def read? (s : List Char) : Option (Lexeme × List Char) :=
  match s with
  | [] => none
  | c :: rest =>
    if beginsWord c then word? s
    else if isAsciiDigit c then number? s
    else if isQuote c then string? [] s
    else if c = '.' && (rest.head?.map isAsciiDigit).getD false then fraction? [] rest
    else mark? s

end Lexeme

end RepoAtlas.Source
