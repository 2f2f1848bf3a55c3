import RepoAtlas.Source.Expression

/-!
Reading the patterns of `case`. Of a pattern only its value expressions are kept, in the order
in which they stand in the tree: of a mapping first all keys, of a class first its name.
-/
namespace RepoAtlas.Source

open Inside

/-- What a pattern leaves: its value expressions, and whether it is a starred name, which only a
sequence may hold. -/
structure Pattern where
  values : List Expr
  starred : Bool := false

namespace Pattern

def joined (items : List Pattern) : List Expr := items.flatMap (·.values)

/-- A name to capture a value; a dot, a parenthesis or an equals sign must not follow. -/
def capture? : Tokens → Option Tokens := fun ts => do
  let (id, rest) ← name? ts
  if id = "_" || isMark "." rest || isMark "(" rest || isMark "=" rest then none else some rest

/-- A name with at least one dot, or any dotted name. -/
def dottedFrom : Nat → Expr → Reader Expr
  | 0, e, ts => some (e, ts)
  | fuel + 1, e, ts =>
    match (mark? "." ts).bind name? with
    | some (id, rest) => dottedFrom fuel (.attribute e id) rest
    | none => some (e, ts)

def dotted : Reader Expr := fun ts => do
  let (id, rest) ← name? ts
  dottedFrom (rest.length + 1) (.name id) rest

def isDotted : Expr → Bool
  | .attribute _ _ => true
  | _ => false

def isImaginary (c : Constant) : Bool :=
  match c with
  | .imaginary _ => true
  | _ => false

def numberToken? : Reader Constant
  | ⟨.number n, _⟩ :: rest => (Literal.number? n).map (·, rest)
  | _ => none

/-- A number with or without a minus, or a complex one: a real and an imaginary part. -/
def number? : Reader Expr := fun ts => do
  let (negative, start) := match mark? "-" ts with
    | some rest => (true, rest)
    | none => (false, ts)
  let (c, rest) ← numberToken? start
  let left : Expr := if negative then .unary .minus (.constant c) else .constant c
  match mark? "+" rest, mark? "-" rest with
  | none, none => some (left, rest)
  | plus, minus =>
    let (d, rest) ← numberToken? (← plus.or minus)
    if isImaginary c || !isImaginary d then none
    else some (.binary (if plus.isSome then .add else .sub) left (.constant d), rest)

variable (r : Inside)

/-- A number, a string or one of the named constants. Only the latter leave no value. -/
def literal? : Reader (List Expr) := fun ts =>
  match ts with
  | ⟨.word w, _⟩ :: rest => (wordAtom? w).map (fun _ => ([], rest))
  | ⟨.string _ _, _⟩ :: _ =>
    let (found, rest) := literals ts
    (r.stringValue found).map (fun e => ([e], rest))
  | _ => (number? ts).map (fun (e, rest) => ([e], rest))

/-- A key of a mapping: a literal or a dotted name. -/
def key? : Reader (List Expr) := fun ts =>
  match ts with
  | ⟨.word w, _⟩ :: rest =>
    match wordAtom? w with
    | some e => some ([e], rest)
    | none => do
      let (e, rest) ← dotted ts
      if isDotted e then some ([e], rest) else none
  | _ => literal? r ts

variable (pattern : Reader (List Expr))

/-- An item of a sequence: a pattern, or a star with a name. -/
def item : Reader Pattern := fun ts =>
  match mark? "*" ts with
  | some rest =>
    match capture? rest with
    | some rest => some (⟨[], true⟩, rest)
    | none => (word? "_" rest).map (⟨[], true⟩, ·)
  | none => (pattern ts).map (fun (values, rest) => (⟨values, false⟩, rest))

/-- What stands in parentheses: a sequence, or a single pattern without a comma. -/
def group : Reader (List Expr) := fun ts => do
  let ts ← mark? "(" ts
  match mark? ")" ts with
  | some rest => some ([], rest)
  | none =>
    let ((items, comma), rest) ← commaList (item pattern) ts
    match items, comma with
    | [⟨_, true⟩], false => none
    | _, _ => some (joined items, ← mark? ")" rest)

def bracketed : Reader (List Expr) := fun ts => do
  let ts ← mark? "[" ts
  match mark? "]" ts with
  | some rest => some ([], rest)
  | none =>
    let ((items, _), rest) ← commaList (item pattern) ts
    some (joined items, ← mark? "]" rest)

/-- An entry of a mapping: its key and what its pattern leaves; the rest of a mapping, behind
two stars, has neither. -/
def entry : Reader (Option (List Expr × List Expr)) := fun ts =>
  match mark? "**" ts with
  | some rest => (capture? rest).map (none, ·)
  | none => do
    let (key, rest) ← key? r ts
    let (values, rest) ← pattern (← mark? ":" rest)
    some (some (key, values), rest)

def mapping : Reader (List Expr) := fun ts => do
  let ts ← mark? "\x7b" ts
  match mark? "\x7d" ts with
  | some rest => some ([], rest)
  | none =>
    let ((entries, _), rest) ← commaList (entry r pattern) ts
    if entries.dropLast.any Option.isNone then none
    else
      let found := entries.filterMap id
      some (found.flatMap (·.1) ++ found.flatMap (·.2), ← mark? "\x7d" rest)

/-- An argument of a class pattern: its keyword, if any, and what its pattern leaves. -/
structure ClassItem where
  keyword : Option String
  values : List Expr

def classItem : Reader ClassItem := fun ts =>
  let keyword := do
    let (id, rest) ← name? ts
    some (id, ← mark? "=" rest)
  match keyword with
  | some (id, rest) => (pattern rest).map (fun (values, rest) => (⟨some id, values⟩, rest))
  | none => (pattern ts).map (fun (values, rest) => (⟨none, values⟩, rest))

/-- Positional arguments stand before those with keywords. Behind a positional one `_` is read
as the wildcard and not as a keyword. -/
def inOrder (items : List ClassItem) : Bool :=
  let (plain, named) := items.span (·.keyword.isNone)
  named.all (·.keyword.isSome) &&
    (plain.isEmpty || (named.head?.bind (·.keyword)) ≠ some "_")

def classArguments : Reader (List Expr) := fun ts => do
  let ts ← mark? "(" ts
  match mark? ")" ts with
  | some rest => some ([], rest)
  | none =>
    let ((items, _), rest) ← commaList (classItem pattern) ts
    if inOrder items then some (items.flatMap (·.values), ← mark? ")" rest) else none

/-- A pattern of names: a capture, the wildcard, a dotted value, or a class. -/
def named : Reader (List Expr) := fun ts =>
  match capture? ts with
  | some rest => some ([], rest)
  | none =>
    match word? "_" ts with
    | some rest => some ([], rest)
    | none => do
      let (e, rest) ← dotted ts
      if isMark "(" rest then
        let (values, rest) ← classArguments pattern rest
        some (e :: values, rest)
      else if isDotted e && !isMark "=" rest then some ([e], rest)
      else none

def closed : Reader (List Expr) := fun ts =>
  match ts with
  | ⟨.mark "(", _⟩ :: _ => group pattern ts
  | ⟨.mark "[", _⟩ :: _ => bracketed pattern ts
  | ⟨.mark "\x7b", _⟩ :: _ => mapping r pattern ts
  | _ =>
    match literal? r ts with
    | some found => some found
    | none => named pattern ts

/-- Alternatives between bars. -/
def alternativesFrom : Nat → Reader (List Expr)
  | 0, _ => none
  | fuel + 1, ts => do
    let (values, rest) ← closed r pattern ts
    match mark? "|" rest with
    | some after =>
      let (others, rest) ← alternativesFrom fuel after
      some (values ++ others, rest)
    | none => some (values, rest)

/-- Alternatives, perhaps with a name for the whole. -/
def rule : Reader (List Expr) := fun ts => do
  let (values, rest) ← alternativesFrom r pattern (ts.length + 1) ts
  match word? "as" rest with
  | some after => some (values, ← capture? after)
  | none => some (values, rest)

end Pattern

/-- Patterns whose nesting the fuel bounds. -/
def patternAt (r : Inside) : Nat → Tokens → Option (List Expr × Tokens)
  | 0, _ => none
  | n + 1, ts => Pattern.rule r (patternAt r n) ts

/-- The patterns of one case: one pattern, or a sequence without brackets. -/
def casePatterns (r : Inside) (fuel : Nat) : Reader (List Expr) := fun ts => do
  let ((items, comma), rest) ← commaList (Pattern.item (patternAt r fuel)) ts
  match items, comma with
  | [⟨_, true⟩], false => none
  | _, _ => some (Pattern.joined items, rest)

end RepoAtlas.Source
