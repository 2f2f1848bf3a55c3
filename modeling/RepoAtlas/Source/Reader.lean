import RepoAtlas.Source.Layout
import RepoAtlas.Source.Tree
import RepoAtlas.Text.Compatibility

/-!
Readers take something off the front of a token list or fail. Here are the readers of single
tokens and of lists, and the validity of expressions as targets of assignments.
-/
namespace RepoAtlas.Source

abbrev Tokens := List Token

abbrev Reader (α : Type) := Tokens → Option (α × Tokens)

def keywords : List String :=
  ["False", "None", "True", "and", "as", "assert", "async", "await", "break", "class", "continue",
   "def", "del", "elif", "else", "except", "finally", "for", "from", "global", "if", "import",
   "in", "is", "lambda", "nonlocal", "not", "or", "pass", "raise", "return", "try", "while",
   "with", "yield"]

/-- A given mark at the front, and what follows it. -/
def mark? (m : String) : Tokens → Option Tokens
  | ⟨.mark n, _⟩ :: rest => if n = m then some rest else none
  | _ => none

/-- A given keyword at the front, and what follows it. -/
def word? (w : String) : Tokens → Option Tokens
  | ⟨.word v, _⟩ :: rest => if v = w then some rest else none
  | _ => none

def newline? : Tokens → Option Tokens
  | ⟨.newline, _⟩ :: rest => some rest
  | _ => none

def isMark (m : String) (ts : Tokens) : Bool := (mark? m ts).isSome

def isWord (w : String) (ts : Tokens) : Bool := (word? w ts).isSome

/-- A name in its compatibility form. -/
def name? : Reader String
  | ⟨.word w, _⟩ :: rest =>
    if keywords.contains w then none
    else some (String.ofList (Text.Compatibility.form w.toList), rest)
  | _ => none

/-- The line of the next token. -/
def lineOf : Tokens → Nat
  | t :: _ => t.line
  | [] => 0

/-- Items with commas between them; a comma may also follow the last one. Gives whether it does.
The fuel bounds the items. -/
def commaItems {α : Type} (item : Reader α) : Nat → Reader (List α × Bool)
  | 0, _ => none
  | fuel + 1, ts => do
    let (first, rest) ← item ts
    match mark? "," rest with
    | none => some (([first], false), rest)
    | some after =>
      match commaItems item fuel after with
      | some ((items, trailing), rest) => some ((first :: items, trailing), rest)
      | none => some (([first], true), after)

def commaList {α : Type} (item : Reader α) : Reader (List α × Bool) :=
  fun ts => commaItems item (ts.length + 1) ts

/-- A tuple of the items, unless there is just one and no comma. -/
def tupleOf (items : List Expr) (comma : Bool) : Expr :=
  match items, comma with
  | [e], false => e
  | _, _ => .tuple items

/-- Items as long as they can be read. -/
def manyFrom {α : Type} (item : Reader α) : Nat → Tokens → List α × Tokens
  | 0, ts => ([], ts)
  | fuel + 1, ts =>
    match item ts with
    | some (first, rest) =>
      let (items, rest) := manyFrom item fuel rest
      (first :: items, rest)
    | none => ([], ts)

def many {α : Type} (item : Reader α) (ts : Tokens) : List α × Tokens :=
  manyFrom item (ts.length + 1) ts

/-- What the item stands between. -/
def enclosed {α : Type} (left right : String) (item : Reader α) : Reader α := fun ts => do
  let (x, rest) ← item (← mark? left ts)
  some (x, ← mark? right rest)

mutual

/-- Names, attributes and subscripts, and tuples and lists of targets; a star may stand before
an item of those if `starred`. -/
def isTarget (starred : Bool) : Expr → Bool
  | .name _ => true
  | .attribute _ _ => true
  | .subscript _ _ => true
  | .tuple items => areTargets starred items
  | .list items => areTargets starred items
  | _ => false

def areTargets (starred : Bool) : List Expr → Bool
  | [] => true
  | .starred e :: rest => starred && isTarget starred e && areTargets starred rest
  | e :: rest => isTarget starred e && areTargets starred rest

end

/-- A target that stands alone, possibly with a star. -/
def isStarTarget (e : Expr) : Bool := areTargets true [e]

/-- A name, an attribute or a subscript. -/
def isSingleTarget : Expr → Bool
  | .name _ => true
  | .attribute _ _ => true
  | .subscript _ _ => true
  | _ => false

end RepoAtlas.Source
