import RepoAtlas.Source.Pattern

/-!
Reading statements and whole modules. Blocks inside are read by the same rules with less fuel;
each follows a colon, so the length of the source is fuel enough.
-/
namespace RepoAtlas.Source

namespace Inside

variable (r : Inside)

/-! ### Simple statements -/

def augmentedMarks : List String :=
  ["+=", "-=", "*=", "@=", "/=", "%=", "&=", "|=", "^=", "<<=", ">>=", "**=", "//="]

/-- The right side of an assignment: expressions, or a `yield`. -/
def assigned : Reader Expr := fun ts =>
  if isWord "yield" ts then r.yield? ts else r.starExpressions ts

/-- The further sides of an assignment, from its first equals sign on; all but the last must be
targets. -/
def assignmentFrom (line : Nat) : Nat → List Expr → Reader Stmt
  | 0, _, _ => none
  | fuel + 1, targets, ts => do
    let (e, rest) ← r.assigned (← mark? "=" ts)
    if isMark "=" rest then
      if isStarTarget e then assignmentFrom line fuel (targets ++ [e]) rest else none
    else some (.assign line targets e, rest)

/-- A statement that begins with an expression: an annotation, an assignment, an augmented
assignment, or the expression alone. -/
def expressionStatement : Reader Stmt := fun ts => do
  let line := lineOf ts
  let (e, rest) ← r.starExpressions ts
  match mark? ":" rest with
  | some after =>
    let (declared, rest) ← r.expression after
    if !isSingleTarget e then none
    else match mark? "=" rest with
      | some after =>
        let (value, rest) ← r.assigned after
        some (.annotated line e declared (some value), rest)
      | none => some (.annotated line e declared none, rest)
  | none =>
    if isMark "=" rest then
      if isStarTarget e then r.assignmentFrom line (rest.length + 1) [e] rest else none
    else match augmentedMarks.findSome? (fun m => mark? m rest) with
      | some after =>
        let (value, rest) ← r.assigned after
        if isSingleTarget e then some (.simple [e, value], rest) else none
      | none => some (.expression e, rest)

/-- Expressions that may be left out. -/
def optional (item : Reader Expr) : Tokens → List Expr × Tokens := fun ts =>
  match item ts with
  | some (e, rest) => ([e], rest)
  | none => ([], ts)

def raised : Reader Stmt := fun ts =>
  match r.expression ts with
  | none => some (.simple [], ts)
  | some (e, rest) =>
    match word? "from" rest with
    | some after => do
      let (cause, rest) ← r.expression after
      some (.simple [e, cause], rest)
    | none => some (.simple [e], rest)

def asserted : Reader Stmt := fun ts => do
  let (test, rest) ← r.expression ts
  match mark? "," rest with
  | some after =>
    let (message, rest) ← r.expression after
    some (.simple [test, message], rest)
  | none => some (.simple [test], rest)

def deleted : Reader Stmt := fun ts => do
  let target : Reader Expr := fun ts => do
    let (e, rest) ← r.primary ts
    if isTarget false e then some (e, rest) else none
  let ((targets, _), rest) ← commaList target ts
  some (.simple targets, rest)

/-- Names with commas between them. -/
def nameList : Reader Stmt := fun ts => do
  let ((_, trailing), rest) ← commaList name? ts
  if trailing then none else some (.simple [], rest)

/-- A name with dots, of which nothing is kept. -/
def modulePath : Tokens → Option Tokens := fun ts => (Pattern.dotted ts).map (·.2)

/-- `as` with a name may follow. -/
def alias? : Tokens → Option Tokens := fun ts =>
  match word? "as" ts with
  | some rest => (name? rest).map (·.2)
  | none => some ts

def imported : Reader Stmt := fun ts => do
  let item : Reader Unit := fun ts => do
    some ((), ← alias? (← modulePath ts))
  let ((_, trailing), rest) ← commaList item ts
  if trailing then none else some (.simple [], rest)

def importedNames : Tokens → Option Tokens := fun ts =>
  let item : Reader Unit := fun ts => do
    let (_, rest) ← name? ts
    some ((), ← alias? rest)
  match mark? "*" ts, mark? "(" ts with
  | some rest, _ => some rest
  | _, some rest => do
    let (_, rest) ← commaList item rest
    mark? ")" rest
  | none, none => do
    let ((_, trailing), rest) ← commaList item ts
    if trailing then none else some rest

/-- The dots before a module that is named from its package. -/
def leadingDots : Tokens → Nat × Tokens
  | ⟨.mark ".", _⟩ :: rest => let (n, rest) := leadingDots rest; (n + 1, rest)
  | ⟨.mark "...", _⟩ :: rest => let (n, rest) := leadingDots rest; (n + 3, rest)
  | ts => (0, ts)

def importedFrom : Reader Stmt := fun ts => do
  let (dots, rest) := leadingDots ts
  let rest ← if dots ≠ 0 && isWord "import" rest then some rest else modulePath rest
  some (.simple [], ← importedNames (← word? "import" rest))

def simpleStatement : Reader Stmt := fun ts =>
  match ts with
  | ⟨.word w, _⟩ :: rest =>
    match w with
    | "return" =>
      let (values, rest) := optional r.starExpressions rest
      some (.simple values, rest)
    | "import" => imported rest
    | "from" => importedFrom rest
    | "raise" => r.raised rest
    | "pass" | "break" | "continue" => some (.simple [], rest)
    | "del" => r.deleted rest
    | "yield" => (r.yield? ts).map (fun (e, rest) => (.expression e, rest))
    | "assert" => r.asserted rest
    | "global" | "nonlocal" => nameList rest
    | _ => r.expressionStatement ts
  | _ => r.expressionStatement ts

/-- The simple statements of one line. -/
def simpleLineFrom : Nat → Reader (List Stmt)
  | 0, _ => none
  | fuel + 1, ts => do
    let (s, rest) ← r.simpleStatement ts
    match mark? ";" rest with
    | none => some ([s], ← newline? rest)
    | some after =>
      match newline? after with
      | some rest => some ([s], rest)
      | none =>
        let (others, rest) ← simpleLineFrom fuel after
        some (s :: others, rest)

def simpleLine : Reader (List Stmt) := fun ts => r.simpleLineFrom (ts.length + 1) ts

/-! ### Compound statements -/

variable (block : Reader (List Stmt))

/-- A colon and the block behind it. -/
def body : Reader (List Stmt) := fun ts => do block (← mark? ":" ts)

/-- The block behind a keyword, empty if the keyword does not come. -/
def bodyAfter? (keyword : String) : Reader (List Stmt) := fun ts =>
  match word? keyword ts with
  | some rest => body block rest
  | none => some ([], ts)

/-- A test with its block, and the tests and the block to try otherwise. -/
def ifFrom : Nat → Reader Stmt
  | 0, _ => none
  | fuel + 1, ts => do
    let (test, rest) ← r.named ts
    let (yes, rest) ← body block rest
    match word? "elif" rest with
    | some after =>
      let (no, rest) ← ifFrom fuel after
      some (.block [test] (yes ++ [no]), rest)
    | none =>
      let (no, rest) ← bodyAfter? block "else" rest
      some (.block [test] (yes ++ no), rest)

def whileLoop : Reader Stmt := fun ts => do
  let (test, rest) ← r.named ts
  let (yes, rest) ← body block rest
  let (no, rest) ← bodyAfter? block "else" rest
  some (.block [test] (yes ++ no), rest)

def forLoop : Reader Stmt := fun ts => do
  let (target, rest) ← r.targetList ts
  let (source, rest) ← r.starExpressions (← word? "in" rest)
  let (yes, rest) ← body block rest
  let (no, rest) ← bodyAfter? block "else" rest
  some (.block [target, source] (yes ++ no), rest)

/-- One managed value, perhaps with a target. -/
def managed : Reader (List Expr) := fun ts => do
  let (e, rest) ← r.expression ts
  match word? "as" rest with
  | some after =>
    let (target, rest) ← r.target after
    some ([e, target], rest)
  | none => some ([e], rest)

/-- The managed values, in parentheses or not, up to the colon. -/
def managedList : Reader (List Expr) := fun ts =>
  let enclosedItems : Option (List Expr × Tokens) := do
    let ((items, _), rest) ← commaList r.managed (← mark? "(" ts)
    let rest ← mark? ")" rest
    if isMark ":" rest then some (items.flatten, rest) else none
  match enclosedItems with
  | some found => some found
  | none => do
    let ((items, trailing), rest) ← commaList r.managed ts
    if trailing then none else some (items.flatten, rest)

def withBlock : Reader Stmt := fun ts => do
  let (items, rest) ← r.managedList ts
  let (inner, rest) ← body block rest
  some (.block items inner, rest)

/-- One handler, and whether it is for groups of exceptions. -/
def handler : Reader (Stmt × Bool) := fun ts => do
  let rest ← word? "except" ts
  if isMark ":" rest then
    let (inner, rest) ← body block rest
    some ((.block [] inner, false), rest)
  else
    let (grouped, rest) := match mark? "*" rest with
      | some after => (true, after)
      | none => (false, rest)
    let (kind, rest) ← r.expression rest
    let rest ← alias? rest
    let (inner, rest) ← body block rest
    some ((.block [kind] inner, grouped), rest)

/-- Handlers of one sort, or else a `finally`, must follow. -/
def tryBlock : Reader Stmt := fun ts => do
  let (tried, rest) ← body block ts
  let (handlers, rest) := many (r.handler block) rest
  let mixed := handlers.any (·.2) && handlers.any (!·.2)
  if mixed || isWord "except" rest then none
  else
    let (otherwise, rest) ←
      if handlers.isEmpty then some ([], rest) else bodyAfter? block "else" rest
    if handlers.isEmpty && !isWord "finally" rest then none
    else
      let (last, rest) ← bodyAfter? block "finally" rest
      some (.block [] (tried ++ handlers.map (·.1) ++ otherwise ++ last), rest)

def functionRest (isAsync : Bool) : Reader Stmt := fun ts => do
  let (id, rest) ← name? ts
  let (_, rest) ← r.parameters true ")" (← mark? "(" rest)
  let rest ← mark? ")" rest
  let rest ← match mark? "->" rest with
    | some after => (r.expression after).map (·.2)
    | none => some rest
  let (inner, rest) ← body block rest
  some (.function isAsync id inner, rest)

def classRest (line : Nat) (decorators : List Expr) : Reader Stmt := fun ts => do
  let (id, rest) ← name? ts
  let (arguments, rest) ← match mark? "(" rest with
    | some after => r.arguments after
    | none => some ({}, rest)
  let (inner, rest) ← body block rest
  some (.class_ line id decorators arguments.positional arguments.keywords inner, rest)

def decorator : Reader Expr := fun ts => do
  let (e, rest) ← r.named (← mark? "@" ts)
  some (e, ← newline? rest)

/-- A definition, perhaps with decorators. -/
def definition : Reader Stmt := fun ts => do
  let (decorators, rest) := many r.decorator ts
  let (isAsync, bare) := match word? "async" rest with
    | some after => (true, after)
    | none => (false, rest)
  match word? "def" bare, word? "class" rest with
  | some after, _ => r.functionRest block isAsync after
  | _, some after => r.classRest block (lineOf rest) decorators after
  | none, none => none

/-- The value to match: several are a tuple. -/
def subject : Reader Expr := fun ts => do
  let ((items, comma), rest) ← commaList r.item ts
  match items, comma with
  | [.starred _], false => none
  | _, _ => some (tupleOf items comma, rest)

variable (fuel : Nat)

def caseBlock : Reader Stmt := fun ts => do
  let (values, rest) ← casePatterns r fuel (← word? "case" ts)
  let (guards, rest) ← match word? "if" rest with
    | some after => (r.named after).map (fun (e, rest) => ([e], rest))
    | none => some ([], rest)
  let (inner, rest) ← body block rest
  some (.block (values ++ guards) inner, rest)

/-- `match` is no keyword: where no cases follow, it is a name. -/
def matchBlock : Reader Stmt := fun ts => do
  let (value, rest) ← r.subject (← word? "match" ts)
  let rest ← newline? (← mark? ":" rest)
  match rest with
  | ⟨.indent, _⟩ :: rest =>
    let (cases, rest) := many (r.caseBlock block fuel) rest
    match cases, rest with
    | [], _ => none
    | _, ⟨.dedent, _⟩ :: rest => some (.block [value] cases, rest)
    | _, _ => none
  | _ => none

def statement : Reader (List Stmt) := fun ts =>
  let one (found : Option (Stmt × Tokens)) : Option (List Stmt × Tokens) :=
    found.map (fun (s, rest) => ([s], rest))
  match ts with
  | ⟨.mark "@", _⟩ :: _ => one (r.definition block ts)
  | ⟨.word w, _⟩ :: rest =>
    match w with
    | "def" | "class" => one (r.definition block ts)
    | "if" => one (r.ifFrom block (rest.length + 1) rest)
    | "while" => one (r.whileLoop block rest)
    | "for" => one (r.forLoop block rest)
    | "with" => one (r.withBlock block rest)
    | "try" => one (r.tryBlock block rest)
    | "async" =>
      match word? "with" rest, word? "for" rest with
      | some after, _ => one (r.withBlock block after)
      | _, some after => one (r.forLoop block after)
      | none, none => one (r.definition block ts)
    | "match" =>
      match r.matchBlock block fuel ts with
      | some found => one (some found)
      | none => r.simpleLine ts
    | _ => r.simpleLine ts
  | _ => r.simpleLine ts

/-- Statements up to the end of their block, which stays. -/
def statements : Nat → Reader (List Stmt)
  | 0, _ => none
  | count + 1, ts =>
    match ts with
    | [] => some ([], [])
    | ⟨.dedent, _⟩ :: _ => some ([], ts)
    | _ => do
      let (found, rest) ← r.statement block fuel ts
      let (others, rest) ← statements count rest
      some (found ++ others, rest)

/-- A block: indented lines, or the rest of the line. -/
def blockRule : Reader (List Stmt) := fun ts =>
  match ts with
  | ⟨.newline, _⟩ :: ⟨.indent, _⟩ :: rest => do
    let (found, rest) ← r.statements block fuel (rest.length + 1) rest
    match found, rest with
    | [], _ => none
    | _, ⟨.dedent, _⟩ :: rest => some (found, rest)
    | _, _ => none
  | _ => r.simpleLine ts

end Inside

/-- Blocks whose nesting the fuel bounds. -/
def blockAt (r : Inside) (fuel : Nat) : Nat → Tokens → Option (List Stmt × Tokens)
  | 0, _ => none
  | n + 1, ts => r.blockRule (blockAt r fuel n) fuel ts

/-- The statements of a module's text. -/
def module? (text : List Char) : Option (List Stmt) := do
  let s := closedText (unifyLines text)
  let tokens ← tokensFrom? 1 s
  let fuel := s.length + 1
  let r := Inside.ofFuel fuel
  let (found, rest) ← r.statements (blockAt r fuel fuel) fuel (tokens.length + 1) tokens
  if rest.isEmpty then some found else none

end RepoAtlas.Source
