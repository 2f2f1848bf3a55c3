import RepoAtlas.Fault
import RepoAtlas.Number.Numeral
import RepoAtlas.Number.Shortest
import RepoAtlas.Source.Tree
import RepoAtlas.Text.Quoted

/-!
The normal text of an expression: single blanks around operators, and parentheses only where
the rank of the place asks for them. Inside the holes of a template no backslash may stand, so
texts choose their quotes there to do without.
-/
namespace RepoAtlas.Source

open RepoAtlas.Text

/-! Ranks of places and operators, loosest first. -/

namespace Rank

def named : Nat := 1
def tuple : Nat := 2
def yield : Nat := 3
def test : Nat := 4
def or : Nat := 5
def and : Nat := 6
def not : Nat := 7
def comparison : Nat := 8
def bitOr : Nat := 9
def bitXor : Nat := 10
def bitAnd : Nat := 11
def shift : Nat := 12
def sum : Nat := 13
def term : Nat := 14
def factor : Nat := 15
def power : Nat := 16
def await : Nat := 17
def atom : Nat := 18

/-- The next tighter rank; nothing is tighter than an atom. -/
def next (rank : Nat) : Nat := min (rank + 1) atom

end Rank

def BinaryOp.text : BinaryOp → String
  | .add => "+"
  | .sub => "-"
  | .mult => "*"
  | .matMult => "@"
  | .div => "/"
  | .mod => "%"
  | .shiftLeft => "<<"
  | .shiftRight => ">>"
  | .bitOr => "|"
  | .bitXor => "^"
  | .bitAnd => "&"
  | .floorDiv => "//"
  | .power => "**"

def BinaryOp.rank : BinaryOp → Nat
  | .add | .sub => Rank.sum
  | .mult | .matMult | .div | .mod | .floorDiv => Rank.term
  | .shiftLeft | .shiftRight => Rank.shift
  | .bitOr => Rank.bitOr
  | .bitXor => Rank.bitXor
  | .bitAnd => Rank.bitAnd
  | .power => Rank.power

def UnaryOp.text : UnaryOp → String
  | .invert => "~"
  | .not => "not "
  | .plus => "+"
  | .minus => "-"

def UnaryOp.rank : UnaryOp → Nat
  | .not => Rank.not
  | _ => Rank.factor

def BoolOp.text : BoolOp → String
  | .and => " and "
  | .or => " or "

def BoolOp.rank : BoolOp → Nat
  | .and => Rank.and
  | .or => Rank.or

def CompareOp.text : CompareOp → String
  | .eq => " == "
  | .notEq => " != "
  | .lt => " < "
  | .le => " <= "
  | .gt => " > "
  | .ge => " >= "
  | .is => " is "
  | .isNot => " is not "
  | .isIn => " in "
  | .notIn => " not in "

namespace Written

abbrev Quote := List Char

def allQuotes : List Quote :=
  [['\''], ['"'], ['"', '"', '"'], ['\'', '\'', '\'']]

def escape (spaces : Bool) (c : Char) : List Char :=
  if !spaces && (c = '\n' || c = '\t') then [c]
  else match shortEscape? c with
    | some e => e
    | none => if isPrintable c then [c] else numericEscape c.toNat

/-- Quotes that end in another character than the text come first. -/
def preferred (last : Option Char) (quotes : List Quote) : List Quote :=
  quotes.filter (fun q => q.head? ≠ last) ++ quotes.filter (fun q => q.head? = last)

/-- The body of a literal with as few escapes as can be, and the quotes that may enclose it. -/
def literalBody (quotes : List Quote) (spaces : Bool) (s : List Char) :
    List Char × List Quote :=
  let body := s.flatMap (escape spaces)
  let fitting := quotes.filter (fun q =>
    (q.length == 3 || !body.contains '\n') && !occursIn q body)
  match fitting with
  | [] =>
    let d := delimiterFor s
    let quote := (quotes.find? (·.contains d)).getD [d]
    (s.flatMap (escapeChar d), [quote])
  | _ =>
    let fitting := preferred body.getLast? fitting
    match fitting.head?.bind (·.head?), body.getLast? with
    | some q, some last =>
      if q = last then (body.dropLast ++ ['\\', last], fitting) else (body, fitting)
    | _, _ => (body, fitting)

/-- A literal in the first quote that fits. -/
def literal (s : List Char) : String :=
  let (body, quotes) := literalBody allQuotes false s
  let quote := quotes.headD ['\'']
  String.ofList (quote ++ body ++ quote)

/-- One part of a template as it stands between the quotes, and whether it is plain text. -/
structure Part where
  text : List Char
  isPlain : Bool

/-- Finds quotes for all parts in turn; `none` if the parts leave no quote. -/
def partBodies? : List Quote → List Part → Option (List Char × List Quote)
  | quotes, [] => some ([], quotes)
  | quotes, part :: rest =>
    let (body, fitting) := literalBody quotes part.isPlain part.text
    if fitting.any quotes.contains then
      (partBodies? fitting rest).map (fun (bodies, quotes) => (body ++ bodies, quotes))
    else none

/-- The body that a quoted text has within single quotes. -/
def singleQuotedBody (s : List Char) : List Char :=
  s.flatMap (escapeChar '\'')

def templateLiteral (parts : List Part) : String :=
  match partBodies? allQuotes parts with
  | some (body, quotes) =>
    let quote := quotes.headD ['\'']
    String.ofList ('f' :: quote ++ body ++ quote)
  | none =>
    let quote := ['\'', '\'', '\'']
    String.ofList ('f' :: quote ++ parts.flatMap (fun p => singleQuotedBody p.text) ++ quote)

def doubled (s : List Char) : List Char :=
  s.flatMap (fun c => if c = '{' ∨ c = '\x7d' then [c, c] else [c])

/-- Sizes of doubles without a mark on whole numbers. -/
def imaginaryStyle : DecimalStyle := { wholeMark := "", infinityText := "1e309" }

def realStyle : DecimalStyle := { infinityText := "1e309" }

def constant (plain : Bool) : Constant → Result String
  | .none => .ok "None"
  | .bool b => .ok (if b then "True" else "False")
  | .ellipsis => .ok "..."
  | .int n => Numeral.intText n
  | .float x => .ok (realStyle.render x)
  | .imaginary x => .ok (imaginaryStyle.render x ++ "j")
  | .text s marked =>
    .ok ((if marked then "u" else "") ++ (if plain then literal s.toList else quotedText s))
  | .bytes bs => .ok (quotedBytes bs)

def enclosedIf (condition : Bool) (s : String) : String :=
  if condition then "(" ++ s ++ ")" else s

/-- Items with commas; a single one keeps its comma. -/
def tupleItems (items : List String) : String :=
  match items with
  | [item] => item ++ ","
  | items => joinWith ", " items

/-- A hole up to its format; two opening braces do not stand side by side. -/
def holeLead (value : List Char) (conversion : Option Char) : Result (List Char) :=
  if value.contains '\\' then .error .backslashInTemplate
  else
    let gap := if value.head? = some '{' then [' '] else []
    let letter := match conversion with
      | some c => ['!', c]
      | none => []
    .ok ('{' :: gap ++ value ++ letter)

def plainText? : Expr → Option String
  | .constant (.text s _) => some s
  | _ => none

def isTuple : Expr → Bool
  | .tuple _ => true
  | _ => false

def isWhole : Expr → Bool
  | .constant (.int _) => true
  | .constant (.bool _) => true
  | _ => false

mutual

/-- The text of an expression at a place of the given rank. With `plain` texts do without
backslashes. -/
def expr (plain : Bool) (rank : Nat) : Expr → Result String
  | .name id => .ok id
  | .constant c => constant plain c
  | .template parts => do
    let parts ← templateParts parts
    return if plain then "f" ++ literal (parts.flatMap (·.text)) else templateLiteral parts
  | .hole value conversion hasFormat format => do
    let value ← expr true (Rank.next Rank.test) value
    let lead ← holeLead value.toList conversion
    let format ← templateParts format
    return String.ofList (lead ++ (if hasFormat then ':' :: format.flatMap (·.text) else [])) ++
      "\x7d"
  | .attribute value id => do
    return (← expr plain Rank.atom value) ++ (if isWhole value then " ." else ".") ++ id
  | .subscript value index => do
    let place := if isTuple index then Rank.tuple else Rank.test
    return (← expr plain Rank.atom value) ++ "[" ++ (← expr plain place index) ++ "]"
  | .call _ function args keywords => do
    return (← expr plain Rank.atom function) ++ "(" ++
      joinWith ", " ((← exprs plain Rank.test args) ++ (← exprs plain Rank.test keywords)) ++ ")"
  | .keyword (some id) value => do return id ++ "=" ++ (← expr plain Rank.test value)
  | .keyword none value => do return "**" ++ (← expr plain Rank.test value)
  | .starred value => do return "*" ++ (← expr plain Rank.bitOr value)
  | .boolean op values => do
    return enclosedIf (op.rank < rank)
      (joinWith op.text (← rising plain (Rank.next op.rank) values))
  | .named id value => do
    return enclosedIf (Rank.named < rank) (id ++ " := " ++ (← expr plain Rank.atom value))
  | .binary op left right => do
    let (l, r) := if op = .power then (Rank.next op.rank, op.rank) else (op.rank, Rank.next op.rank)
    return enclosedIf (op.rank < rank)
      ((← expr plain l left) ++ " " ++ op.text ++ " " ++ (← expr plain r right))
  | .unary op e => do
    return enclosedIf (op.rank < rank) (op.text ++ (← expr plain op.rank e))
  | .lambda params body => do
    let params ← exprs plain Rank.test params
    return enclosedIf (Rank.test < rank)
      ("lambda" ++ (if params.isEmpty then "" else " " ++ joinWith ", " params) ++ ": " ++
        (← expr plain Rank.test body))
  | .param id none => .ok id
  | .param id (some value) => do return id ++ "=" ++ (← expr plain Rank.test value)
  | .conditional test yes no => do
    let above := Rank.next Rank.test
    let yes ← expr plain above yes
    let test ← expr plain above test
    return enclosedIf (Rank.test < rank)
      (yes ++ " if " ++ test ++ " else " ++ (← expr plain Rank.test no))
  | .dict entries => do
    return "\x7b" ++ joinWith ", " (← exprs plain Rank.test entries) ++ "\x7d"
  | .entry (some key) value => do
    return (← expr plain Rank.test key) ++ ": " ++ (← expr plain Rank.test value)
  | .entry none value => do return "**" ++ (← expr plain Rank.bitOr value)
  | .set items => do
    return "\x7b" ++ joinWith ", " (← exprs plain Rank.test items) ++ "\x7d"
  | .list items => do return "[" ++ joinWith ", " (← exprs plain Rank.test items) ++ "]"
  | .tuple items => do
    return enclosedIf (items.isEmpty || Rank.tuple < rank)
      (tupleItems (← exprs plain Rank.test items))
  | .comprehension kind element clauses => do
    let inner := (← expr plain Rank.test element) ++
      joinWith "" (← exprs plain Rank.test clauses)
    return match kind with
      | .list => "[" ++ inner ++ "]"
      | .set => "\x7b" ++ inner ++ "\x7d"
      | .generator => "(" ++ inner ++ ")"
  | .dictComprehension key value clauses => do
    return "\x7b" ++ (← expr plain Rank.test key) ++ ": " ++ (← expr plain Rank.test value) ++
      joinWith "" (← exprs plain Rank.test clauses) ++ "\x7d"
  | .clause isAsync target source conditions => do
    let above := Rank.next Rank.test
    let target ← expr plain Rank.tuple target
    let source ← expr plain above source
    let conditions ← exprs plain above conditions
    return (if isAsync then " async for " else " for ") ++ target ++ " in " ++ source ++
      joinWith "" (conditions.map (" if " ++ ·))
  | .await value => do
    return enclosedIf (Rank.await < rank) ("await " ++ (← expr plain Rank.atom value))
  | .yield none => .ok (enclosedIf (Rank.yield < rank) "yield")
  | .yield (some value) => do
    return enclosedIf (Rank.yield < rank) ("yield " ++ (← expr plain Rank.atom value))
  | .yieldFrom value => do
    return enclosedIf (Rank.yield < rank) ("yield from " ++ (← expr plain Rank.atom value))
  | .compare first rest => do
    let above := Rank.next Rank.comparison
    return enclosedIf (Rank.comparison < rank)
      ((← expr plain above first) ++ joinWith "" (← exprs plain above rest))
  | .operand op value => do return op.text ++ (← expr plain rank value)
  | .slice lower upper step => do
    let lower ← bound plain lower
    let upper ← bound plain upper
    match step with
    | none => return lower ++ ":" ++ upper
    | some e => return lower ++ ":" ++ upper ++ ":" ++ (← expr plain Rank.test e)

def bound (plain : Bool) : Option Expr → Result String
  | none => .ok ""
  | some e => expr plain Rank.test e

def exprs (plain : Bool) (rank : Nat) : List Expr → Result (List String)
  | [] => .ok []
  | e :: rest => do
    let text ← expr plain rank e
    return text :: (← exprs plain rank rest)

/-- The operands of a boolean operator: each stands at a tighter rank than the one before. -/
def rising (plain : Bool) (rank : Nat) : List Expr → Result (List String)
  | [] => .ok []
  | e :: rest => do
    let text ← expr plain rank e
    return text :: (← rising plain (Rank.next rank) rest)

def templateParts : List Expr → Result (List Part)
  | [] => .ok []
  | e :: rest => do
    match plainText? e with
    | some s => return ⟨doubled s.toList, true⟩ :: (← templateParts rest)
    | none =>
      let text := (← expr false Rank.test e).toList
      return ⟨text, false⟩ :: (← templateParts rest)

end

end Written

/-- The normal text of an expression. -/
def Expr.written (e : Expr) : Result String := Written.expr false Rank.test e

end RepoAtlas.Source
