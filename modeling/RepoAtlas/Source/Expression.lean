import RepoAtlas.Source.Literal
import RepoAtlas.Source.Reader

/-!
Reading expressions. The rules are stated over two readers for the expressions inside, which
are the same rules with less fuel: every such use follows a token, or goes into the text of a
template, so the length of the source is fuel enough.
-/
namespace RepoAtlas.Source

/-- The readers for expressions inside, by the operators that may stand at their top. -/
structure Inside where
  expression : Reader Expr
  disjunction : Reader Expr
  bitOr : Reader Expr
  factor : Reader Expr
  primary : Reader Expr

namespace Inside

variable (r : Inside)

/-- The start of `name := value`. -/
def namedStart? (ts : Tokens) : Option (String × Tokens) := do
  let (id, rest) ← name? ts
  some (id, ← mark? ":=" rest)

/-- `name := value`, or an expression that no `:=` follows. -/
def named : Reader Expr := fun ts =>
  match namedStart? ts with
  | some (id, rest) => do
    let (value, rest) ← r.expression rest
    some (.named id value, rest)
  | none => do
    let (e, rest) ← r.expression ts
    if isMark ":=" rest then none else some (e, rest)

/-- Operands joined by operators of one rank, from the left. The fuel bounds the operands. -/
def chainFrom (operator? : Tokens → Option (BinaryOp × Tokens)) (operand : Reader Expr) :
    Nat → Expr → Reader Expr
  | 0, e, ts => some (e, ts)
  | fuel + 1, e, ts =>
    match operator? ts with
    | none => some (e, ts)
    | some (op, rest) => do
      let (right, rest) ← operand rest
      chainFrom operator? operand fuel (.binary op e right) rest

def chain (operators : List (String × BinaryOp)) (operand : Reader Expr) : Reader Expr :=
  fun ts => do
    let (first, rest) ← operand ts
    chainFrom (fun ts => operators.findSome? (fun (m, op) => (mark? m ts).map (op, ·)))
      operand (rest.length + 1) first rest

/-! ### Comprehensions -/

/-- A target as it stands between `for` and `in`, or behind `as`. -/
def target : Reader Expr := fun ts =>
  match mark? "*" ts with
  | some rest => do
    let (e, rest) ← r.primary rest
    if isTarget true e then some (.starred e, rest) else none
  | none => do
    let (e, rest) ← r.primary ts
    if isTarget true e then some (e, rest) else none

def targetList : Reader Expr := fun ts => do
  let ((items, comma), rest) ← commaList r.target ts
  some (tupleOf items comma, rest)

/-- One `for ... in ...` with its conditions. -/
def clause : Reader Expr := fun ts => do
  let (isAsync, ts) := match word? "async" ts with
    | some rest => (true, rest)
    | none => (false, ts)
  let (target, rest) ← r.targetList (← word? "for" ts)
  let (source, rest) ← r.disjunction (← word? "in" rest)
  let (conditions, rest) := many (fun ts => do r.disjunction (← word? "if" ts)) rest
  if isWord "if" rest then none
  else some (.clause isAsync target source conditions, rest)

def isClause (ts : Tokens) : Bool := isWord "for" ts || isWord "async" ts

/-- One clause at least. -/
def clauses : Reader (List Expr) := fun ts =>
  match many r.clause ts with
  | ([], _) => none
  | (found, rest) => if isClause rest then none else some (found, rest)

/-! ### Arguments and subscripts -/

structure Arguments where
  positional : List Expr := []
  keywords : List Expr := []
  /-- A keyword argument was read; a spread mapping was read. -/
  named : Bool := false
  spread : Bool := false

/-- One argument. Positional ones come before keywords, and no star follows two stars. -/
def argument (a : Arguments) : Reader Arguments := fun ts =>
  match mark? "**" ts, mark? "*" ts with
  | some rest, _ => do
    let (e, rest) ← r.expression rest
    some ({ a with keywords := a.keywords ++ [.keyword none e], spread := true }, rest)
  | _, some rest => do
    let (e, rest) ← r.expression rest
    if a.spread then none
    else some ({ a with positional := a.positional ++ [.starred e] }, rest)
  | none, none =>
    match (name? ts).bind (fun (id, rest) => (mark? "=" rest).map (id, ·)) with
    | some (id, rest) => do
      let (e, rest) ← r.expression rest
      some ({ a with keywords := a.keywords ++ [.keyword (some id) e], named := true }, rest)
    | none => do
      let (e, rest) ← r.named ts
      if a.named || a.spread then none
      else some ({ a with positional := a.positional ++ [e] }, rest)

/-- Arguments up to the closing parenthesis. -/
def argumentsFrom : Nat → Arguments → Reader Arguments
  | 0, _, _ => none
  | fuel + 1, a, ts =>
    match mark? ")" ts with
    | some rest => some (a, rest)
    | none => do
      let (a, rest) ← r.argument a ts
      match mark? "," rest with
      | some after => argumentsFrom fuel a after
      | none => some (a, ← mark? ")" rest)

def arguments : Reader Arguments := fun ts => r.argumentsFrom (ts.length + 1) {} ts

/-- The arguments of a call: a single generator needs no parentheses of its own. -/
def callArguments : Reader Arguments := fun ts =>
  match mark? ")" ts with
  | some rest => some ({}, rest)
  | none => do
    let (a, rest) ← r.argument {} ts
    if isClause rest then
      let (found, rest) ← r.clauses rest
      match a.positional with
      | [e] =>
        if e.isStarred then none
        else some ({ positional := [.comprehension .generator e found] }, ← mark? ")" rest)
      | _ => none
    else
      match mark? "," rest with
      | some after => r.argumentsFrom (after.length + 1) a after
      | none => some (a, ← mark? ")" rest)

/-- The end of a slice, which may be left out. -/
def bound? : Reader (Option Expr) := fun ts =>
  if isMark ":" ts || isMark "," ts || isMark "]" ts then some (none, ts)
  else do
    let (e, rest) ← r.expression ts
    some (some e, rest)

/-- A slice from its first colon on. -/
def sliceFrom (lower : Option Expr) : Reader Expr := fun ts => do
  let (upper, rest) ← r.bound? (← mark? ":" ts)
  match mark? ":" rest with
  | some rest =>
    let (step, rest) ← r.bound? rest
    some (.slice lower upper step, rest)
  | none => some (.slice lower upper none, rest)

/-- One subscript: a slice with colons, an expression, or one with a star. -/
def subscriptItem : Reader Expr := fun ts =>
  match mark? "*" ts with
  | some rest => do
    let (e, rest) ← r.expression rest
    some (.starred e, rest)
  | none =>
    if isMark ":" ts then r.sliceFrom none ts
    else do
      let (e, rest) ← r.named ts
      if isMark ":" rest then
        if (namedStart? ts).isSome then none else r.sliceFrom (some e) rest
      else some (e, rest)

def subscripts : Reader Expr := fun ts => do
  let ((items, comma), rest) ← commaList r.subscriptItem ts
  match items, comma with
  | [.starred e], _ => some (.tuple [.starred e], rest)
  | items, comma => some (tupleOf items comma, rest)

/-! ### Parameters -/

structure Parameters where
  items : List Expr := []
  slash : Bool := false
  star : Bool := false
  /-- A bare star waits for a parameter behind it. -/
  waiting : Bool := false
  defaulted : Bool := false
  closed : Bool := false

def declaredType (annotated starred : Bool) : Tokens → Option Tokens := fun ts =>
  match if annotated then mark? ":" ts else none with
  | none => some ts
  | some rest =>
    let rest := match if starred then mark? "*" rest else none with
      | some after => after
      | none => rest
    (r.expression rest).map (·.2)

/-- A plain parameter, possibly with a default. -/
def plainParameter (annotated : Bool) (p : Parameters) : Reader Parameters := fun ts => do
  let (id, rest) ← name? ts
  let rest ← r.declaredType annotated false rest
  match mark? "=" rest with
  | some after =>
    let (value, rest) ← r.expression after
    some ({ p with items := p.items ++ [.param id (some value)], waiting := false,
                   defaulted := true }, rest)
  | none =>
    if p.defaulted && !p.star then none
    else some ({ p with items := p.items ++ [.param id none], waiting := false }, rest)

/-- One parameter or mark between parameters. Nothing follows the one with two stars. -/
def parameter (annotated : Bool) (p : Parameters) : Reader Parameters := fun ts =>
  if p.closed then none
  else match mark? "/" ts, mark? "**" ts, mark? "*" ts with
  | some rest, _, _ =>
    if p.slash || p.star || p.items.isEmpty then none
    else some ({ p with items := p.items ++ [.param "/" none], slash := true }, rest)
  | _, some rest, _ => do
    let (id, rest) ← name? rest
    let rest ← r.declaredType annotated false rest
    if p.waiting then none
    else some ({ p with items := p.items ++ [.param ("**" ++ id) none], closed := true }, rest)
  | _, _, some rest =>
    if p.star then none
    else if isMark "," rest then
      some ({ p with items := p.items ++ [.param "*" none], star := true, waiting := true }, rest)
    else do
      let (id, rest) ← name? rest
      let rest ← r.declaredType annotated true rest
      some ({ p with items := p.items ++ [.param ("*" ++ id) none], star := true }, rest)
  | none, none, none => r.plainParameter annotated p ts

/-- Parameters up to the mark that closes them, which stays. -/
def parametersFrom (annotated : Bool) (close : String) : Nat → Parameters → Reader (List Expr)
  | 0, _, _ => none
  | fuel + 1, p, ts =>
    if isMark close ts then if p.waiting then none else some (p.items, ts)
    else do
      let (p, rest) ← r.parameter annotated p ts
      match mark? "," rest with
      | some after => parametersFrom annotated close fuel p after
      | none => if isMark close rest && !p.waiting then some (p.items, rest) else none

def parameters (annotated : Bool) (close : String) : Reader (List Expr) := fun ts =>
  r.parametersFrom annotated close (ts.length + 1) {} ts

/-! ### Strings -/

/-- The string literals at the front. -/
def literals : Tokens → List (String × String × Nat) × Tokens
  | ⟨.string lead body, line⟩ :: rest =>
    let (found, rest) := literals rest
    ((lead, body, line) :: found, rest)
  | ts => ([], ts)

/-- A text as an expression, without empty ones. -/
def textPart (s : List Char) : List Expr :=
  if s.isEmpty then [] else [.constant (.text (String.ofList s) false)]

/-- An expression, or one with a star. -/
def starItem : Reader Expr := fun ts =>
  match mark? "*" ts with
  | some rest => do
    let (e, rest) ← r.bitOr rest
    some (.starred e, rest)
  | none => r.expression ts

/-- Expressions with commas between them; several are a tuple. -/
def starExpressions : Reader Expr := fun ts => do
  let ((items, comma), rest) ← commaList r.starItem ts
  some (tupleOf items comma, rest)

/-- Reads the expression of a hole, which may span lines as if it stood in parentheses. -/
def holeExpression (line : Nat) (source : List Char) : Option Expr := do
  let tokens ← tokensFrom? line ('(' :: source ++ [')', '\n'])
  let (e, _) ← r.starExpressions tokens
  some e

/-- The parts of a template from its pieces, with neighbouring texts joined in `pending`. The
format of a hole is a template of its own; holes nest no deeper than the fuel. -/
def templateParts (line : Nat) : Nat → List Char → List Literal.Piece → Option (List Expr)
  | _, pending, [] => some (textPart pending)
  | fuel, pending, .text s :: rest => templateParts line fuel (pending ++ s) rest
  | 0, _, .hole .. :: _ => none
  | fuel + 1, pending, .hole source lines conversion format :: rest => do
    let value ← r.holeExpression (line + lines) source
    let parts ← templateParts line fuel [] (format.getD [])
    let tail ← templateParts line (fuel + 1) [] rest
    some (textPart pending ++ .hole value conversion format.isSome parts :: tail)

/-- The pieces of one literal and its line. -/
def literalPieces (literal : String × String × Nat) : Option (List Literal.Piece) :=
  let (lead, body, _) := literal
  let kind := Literal.Lead.ofText lead
  if kind.isTemplate then Literal.template? kind.isRaw body.toList
  else (Literal.decode? kind.isRaw false body.toList).map (fun s => [.text s])

/-- Joins parts whose ends are texts. -/
def joinParts : List Expr → List Expr
  | .constant (.text a _) :: .constant (.text b _) :: rest =>
    joinParts (.constant (.text (a ++ b) false) :: rest)
  | e :: rest => e :: joinParts rest
  | [] => []
termination_by parts => parts.length

/-- Neighbouring literals are one: all bytes, or all text, which is a template if one of them
is. -/
def stringValue (found : List (String × String × Nat)) : Option Expr :=
  let leads := found.map (fun l => Literal.Lead.ofText l.1)
  if leads.all (·.isBytes) then do
    let parts ← found.mapM (fun (lead, body, _) =>
      Literal.bytes? (Literal.Lead.ofText lead).isRaw body.toList)
    some (.constant (.bytes parts.flatten))
  else if leads.any (·.isBytes) then none
  else if leads.any (·.isTemplate) then do
    let parts ← found.mapM (fun l => do
      r.templateParts l.2.2 2 [] (← literalPieces l))
    some (.template (joinParts parts.flatten))
  else do
    let parts ← found.mapM (fun (lead, body, _) =>
      Literal.decode? (Literal.Lead.ofText lead).isRaw false body.toList)
    let marked := (leads.head?.map (·.isMarked)).getD false
    some (.constant (.text (String.ofList parts.flatten) marked))

/-! ### Atoms -/

/-- `yield`, with or without a value, or `yield from`. -/
def yield? : Reader Expr := fun ts => do
  let rest ← word? "yield" ts
  match word? "from" rest with
  | some after => do
    let (e, rest) ← r.expression after
    some (.yieldFrom e, rest)
  | none =>
    match r.starExpressions rest with
    | some (e, rest) => some (.yield (some e), rest)
    | none => some (.yield none, rest)

/-- A display's item: an expression, perhaps named, or one with a star. -/
def item : Reader Expr := fun ts =>
  match mark? "*" ts with
  | some rest => do
    let (e, rest) ← r.bitOr rest
    some (.starred e, rest)
  | none => r.named ts

/-- What follows the first item of a display: further items. -/
def moreItems (first : Expr) (rest : Tokens) : Option ((List Expr × Bool) × Tokens) :=
  match mark? "," rest with
  | none => some (([first], false), rest)
  | some after =>
    match commaList r.item after with
    | some ((items, _), rest) => some ((first :: items, true), rest)
    | none => some (([first], true), after)

/-- What stands in parentheses: a tuple, a generator, or a single expression. -/
def parenthesized : Reader Expr := fun ts => do
  let ts ← mark? "(" ts
  match mark? ")" ts with
  | some rest => some (.tuple [], rest)
  | none =>
    if isWord "yield" ts then
      let (e, rest) ← r.yield? ts
      some (e, ← mark? ")" rest)
    else
      let (first, rest) ← r.item ts
      if isClause rest then
        let (found, rest) ← r.clauses rest
        if first.isStarred then none
        else some (.comprehension .generator first found, ← mark? ")" rest)
      else
        let ((items, comma), rest) ← r.moreItems first rest
        if first.isStarred && !comma then none
        else some (tupleOf items comma, ← mark? ")" rest)

def listDisplay : Reader Expr := fun ts => do
  let ts ← mark? "[" ts
  match mark? "]" ts with
  | some rest => some (.list [], rest)
  | none =>
    let (first, rest) ← r.item ts
    if isClause rest then
      let (found, rest) ← r.clauses rest
      if first.isStarred then none
      else some (.comprehension .list first found, ← mark? "]" rest)
    else
      let ((items, _), rest) ← r.moreItems first rest
      some (.list items, ← mark? "]" rest)

def entry : Reader Expr := fun ts =>
  match mark? "**" ts with
  | some rest => do
    let (e, rest) ← r.bitOr rest
    some (.entry none e, rest)
  | none => do
    let (key, rest) ← r.expression ts
    let (value, rest) ← r.expression (← mark? ":" rest)
    some (.entry (some key) value, rest)

/-- The entries of a dictionary that follow its first one, to the closing brace. -/
def entriesAfter (first : Expr) (rest : Tokens) : Option (Expr × Tokens) := do
  match mark? "," rest with
  | none => some (.dict [first], ← mark? "\x7d" rest)
  | some after =>
    match commaList r.entry after with
    | some ((others, _), rest) => some (.dict (first :: others), ← mark? "\x7d" rest)
    | none => some (.dict [first], ← mark? "\x7d" after)

/-- What stands in braces: a dictionary or a set, displayed or comprehended. -/
def braced : Reader Expr := fun ts => do
  let ts ← mark? "\x7b" ts
  match mark? "\x7d" ts with
  | some rest => some (.dict [], rest)
  | none =>
    if isMark "**" ts then
      let (first, rest) ← r.entry ts
      r.entriesAfter first rest
    else
      let (first, rest) ← r.item ts
      match if first.isStarred || (namedStart? ts).isSome then none else mark? ":" rest with
      | some rest =>
        let (value, rest) ← r.expression rest
        if isClause rest then
          let (found, rest) ← r.clauses rest
          some (.dictComprehension first value found, ← mark? "\x7d" rest)
        else r.entriesAfter (.entry (some first) value) rest
      | none =>
        if isClause rest then
          let (found, rest) ← r.clauses rest
          if first.isStarred then none
          else some (.comprehension .set first found, ← mark? "\x7d" rest)
        else
          let ((items, _), rest) ← r.moreItems first rest
          some (.set items, ← mark? "\x7d" rest)

def wordAtom? (w : String) : Option Expr :=
  if w = "None" then some (.constant .none)
  else if w = "True" then some (.constant (.bool true))
  else if w = "False" then some (.constant (.bool false))
  else none

def atom : Reader Expr := fun ts =>
  match ts with
  | ⟨.word w, _⟩ :: rest =>
    match wordAtom? w with
    | some e => some (e, rest)
    | none => (name? ts).map (fun (id, rest) => (.name id, rest))
  | ⟨.number n, _⟩ :: rest => (Literal.number? n).map (fun c => (.constant c, rest))
  | ⟨.string _ _, _⟩ :: _ =>
    let (found, rest) := literals ts
    (r.stringValue found).map (·, rest)
  | ⟨.mark "...", _⟩ :: rest => some (.constant .ellipsis, rest)
  | ⟨.mark "(", _⟩ :: _ => r.parenthesized ts
  | ⟨.mark "[", _⟩ :: _ => r.listDisplay ts
  | ⟨.mark "\x7b", _⟩ :: _ => r.braced ts
  | _ => none

/-! ### Operators -/

/-- Attributes, calls and subscripts behind an atom; calls lie on the line of the atom. -/
def suffixes (line : Nat) : Nat → Expr → Reader Expr
  | 0, e, ts => some (e, ts)
  | fuel + 1, e, ts =>
    match ts with
    | ⟨.mark ".", _⟩ :: rest => do
      let (id, rest) ← name? rest
      suffixes line fuel (.attribute e id) rest
    | ⟨.mark "(", _⟩ :: rest => do
      let (a, rest) ← r.callArguments rest
      suffixes line fuel (.call line e a.positional a.keywords) rest
    | ⟨.mark "[", _⟩ :: rest => do
      let (index, rest) ← r.subscripts rest
      suffixes line fuel (.subscript e index) (← mark? "]" rest)
    | _ => some (e, ts)

def primaryRule : Reader Expr := fun ts => do
  let (e, rest) ← r.atom ts
  r.suffixes (lineOf ts) (rest.length + 1) e rest

def powerRule : Reader Expr := fun ts => do
  let (base, rest) ← match word? "await" ts with
    | some rest => (r.primaryRule rest).map (fun (e, rest) => (.await e, rest))
    | none => r.primaryRule ts
  match mark? "**" rest with
  | some after => do
    let (exponent, rest) ← r.factor after
    some (.binary .power base exponent, rest)
  | none => some (base, rest)

def signs : List (String × UnaryOp) := [("+", .plus), ("-", .minus), ("~", .invert)]

def factorRule : Reader Expr := fun ts =>
  match signs.findSome? (fun (m, op) => (mark? m ts).map (op, ·)) with
  | some (op, rest) => do
    let (e, rest) ← r.factor rest
    some (.unary op e, rest)
  | none => r.powerRule ts

def bitOrRule : Reader Expr :=
  chain [("|", .bitOr)] <| chain [("^", .bitXor)] <| chain [("&", .bitAnd)] <|
    chain [("<<", .shiftLeft), (">>", .shiftRight)] <| chain [("+", .add), ("-", .sub)] <|
      chain [("*", .mult), ("/", .div), ("//", .floorDiv), ("%", .mod), ("@", .matMult)]
        r.factorRule

def comparisonMarks : List (String × CompareOp) :=
  [("==", .eq), ("!=", .notEq), ("<=", .le), ("<", .lt), (">=", .ge), (">", .gt)]

def compareOp? (ts : Tokens) : Option (CompareOp × Tokens) :=
  match comparisonMarks.findSome? (fun (m, op) => (mark? m ts).map (op, ·)) with
  | some found => some found
  | none =>
    match word? "not" ts, word? "in" ts, word? "is" ts with
    | some rest, _, _ => (word? "in" rest).map (.notIn, ·)
    | _, some rest, _ => some (.isIn, rest)
    | _, _, some rest =>
      match word? "not" rest with
      | some after => some (.isNot, after)
      | none => some (.is, rest)
    | none, none, none => none

def comparison : Reader Expr := fun ts => do
  let (first, rest) ← r.bitOrRule ts
  let (others, rest) := many (fun ts => do
    let (op, rest) ← compareOp? ts
    let (e, rest) ← r.bitOrRule rest
    some (.operand op e, rest)) rest
  if (compareOp? rest).isSome then none
  else some (if others.isEmpty then first else .compare first others, rest)

/-- A comparison behind any number of `not`. -/
def inversionFrom : Nat → Reader Expr
  | 0, _ => none
  | fuel + 1, ts =>
    match word? "not" ts with
    | some rest => (inversionFrom fuel rest).map (fun (e, rest) => (.unary .not e, rest))
    | none => r.comparison ts

/-- Operands with a keyword between them. -/
def joinedFrom (keyword : String) (operand : Reader Expr) : Nat → Reader (List Expr)
  | 0, _ => none
  | fuel + 1, ts => do
    let (first, rest) ← operand ts
    match word? keyword rest with
    | some after => do
      let (others, rest) ← joinedFrom keyword operand fuel after
      some (first :: others, rest)
    | none => some ([first], rest)

def booleanOf (op : BoolOp) (operands : List Expr) : Expr :=
  match operands with
  | [e] => e
  | _ => .boolean op operands

def conjunction : Reader Expr := fun ts => do
  let (operands, rest) ← joinedFrom "and" (fun ts => r.inversionFrom (ts.length + 1) ts)
    (ts.length + 1) ts
  some (booleanOf .and operands, rest)

def disjunctionRule : Reader Expr := fun ts => do
  let (operands, rest) ← joinedFrom "or" r.conjunction (ts.length + 1) ts
  some (booleanOf .or operands, rest)

def lambdaRule : Reader Expr := fun ts => do
  let (params, rest) ← r.parameters false ":" ts
  let (body, rest) ← r.expression (← mark? ":" rest)
  some (.lambda params body, rest)

def expressionRule : Reader Expr := fun ts =>
  match word? "lambda" ts with
  | some rest => r.lambdaRule rest
  | none => do
    let (yes, rest) ← r.disjunctionRule ts
    match word? "if" rest with
    | some after => do
      let (test, rest) ← r.disjunctionRule after
      let (no, rest) ← r.expression (← word? "else" rest)
      some (.conditional test yes no, rest)
    | none => some (yes, rest)

end Inside

mutual

def expressionAt : Nat → Tokens → Option (Expr × Tokens)
  | 0, _ => none
  | n + 1, ts => Inside.expressionRule
      ⟨expressionAt n, disjunctionAt n, bitOrAt n, factorAt n, primaryAt n⟩ ts

def disjunctionAt : Nat → Tokens → Option (Expr × Tokens)
  | 0, _ => none
  | n + 1, ts => Inside.disjunctionRule
      ⟨expressionAt n, disjunctionAt n, bitOrAt n, factorAt n, primaryAt n⟩ ts

def bitOrAt : Nat → Tokens → Option (Expr × Tokens)
  | 0, _ => none
  | n + 1, ts => Inside.bitOrRule
      ⟨expressionAt n, disjunctionAt n, bitOrAt n, factorAt n, primaryAt n⟩ ts

def factorAt : Nat → Tokens → Option (Expr × Tokens)
  | 0, _ => none
  | n + 1, ts => Inside.factorRule
      ⟨expressionAt n, disjunctionAt n, bitOrAt n, factorAt n, primaryAt n⟩ ts

def primaryAt : Nat → Tokens → Option (Expr × Tokens)
  | 0, _ => none
  | n + 1, ts => Inside.primaryRule
      ⟨expressionAt n, disjunctionAt n, bitOrAt n, factorAt n, primaryAt n⟩ ts

end

/-- The readers with a given fuel. -/
def Inside.ofFuel (n : Nat) : Inside where
  expression := expressionAt n
  disjunction := disjunctionAt n
  bitOr := bitOrAt n
  factor := factorAt n
  primary := primaryAt n

/-- The expressions of a source text that holds nothing else; several are a tuple. -/
def expression? (s : List Char) : Option Expr := do
  let s := unifyLines s
  let tokens ← tokensFrom? 1 s
  let r := Inside.ofFuel (s.length + 1)
  let ((items, comma), rest) ← commaList r.expression tokens
  if rest.all (·.lexeme == .newline) then some (tupleOf items comma) else none

end RepoAtlas.Source
