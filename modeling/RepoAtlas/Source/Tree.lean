import RepoAtlas.Number.Binary64

/-!
Syntax trees of source modules. Expressions are complete; of statements the trees keep what
facts are drawn from: definitions, assignments, and for all others the expressions and the
nested statements, in the order of their evaluation.
-/
namespace RepoAtlas.Source

inductive Constant where
  | none
  | bool (b : Bool)
  | ellipsis
  | int (n : Nat)
  | float (x : Binary64)
  | imaginary (x : Binary64)
  /-- A text; `marked` if its literal begins with the letter `u`. -/
  | text (s : String) (marked : Bool)
  | bytes (bs : List UInt8)
  deriving DecidableEq, Repr, Inhabited

inductive BoolOp where
  | and | or
  deriving DecidableEq, Repr, Inhabited

inductive UnaryOp where
  | invert | not | plus | minus
  deriving DecidableEq, Repr, Inhabited

inductive BinaryOp where
  | add | sub | mult | matMult | div | mod | shiftLeft | shiftRight
  | bitOr | bitXor | bitAnd | floorDiv | power
  deriving DecidableEq, Repr, Inhabited

inductive CompareOp where
  | eq | notEq | lt | le | gt | ge | is | isNot | isIn | notIn
  deriving DecidableEq, Repr, Inhabited

inductive ComprehensionKind where
  | list | set | generator
  deriving DecidableEq, Repr, Inhabited

/-- Expressions, and the parts of expressions that are none by themselves: keyword arguments,
parameters, dictionary entries, comprehension clauses and compared operands. -/
inductive Expr where
  | name (id : String)
  | constant (c : Constant)
  /-- A text with holes: constants and holes in order. -/
  | template (parts : List Expr)
  /-- A hole; its format is a template of its own, empty if there is none. -/
  | hole (value : Expr) (conversion : Option Char) (hasFormat : Bool) (format : List Expr)
  | attribute (value : Expr) (name : String)
  | subscript (value : Expr) (index : Expr)
  | call (line : Nat) (function : Expr) (args : List Expr) (keywords : List Expr)
  /-- A keyword argument; without a name it spreads a mapping. -/
  | keyword (name : Option String) (value : Expr)
  | starred (value : Expr)
  | boolean (op : BoolOp) (values : List Expr)
  | named (name : String) (value : Expr)
  | binary (op : BinaryOp) (left right : Expr)
  | unary (op : UnaryOp) (operand : Expr)
  | lambda (params : List Expr) (body : Expr)
  /-- A parameter with its stars, or a mark between parameters. -/
  | param (name : String) (default : Option Expr)
  | conditional (test yes no : Expr)
  | dict (entries : List Expr)
  /-- An entry of a dictionary; without a key it spreads a mapping. -/
  | entry (key : Option Expr) (value : Expr)
  | set (items : List Expr)
  | list (items : List Expr)
  | tuple (items : List Expr)
  | comprehension (kind : ComprehensionKind) (element : Expr) (clauses : List Expr)
  | dictComprehension (key value : Expr) (clauses : List Expr)
  | clause (isAsync : Bool) (target source : Expr) (conditions : List Expr)
  | await (value : Expr)
  | yield (value : Option Expr)
  | yieldFrom (value : Expr)
  | compare (first : Expr) (rest : List Expr)
  | operand (op : CompareOp) (value : Expr)
  | slice (lower upper step : Option Expr)
  deriving Repr, Inhabited

inductive Stmt where
  | function (isAsync : Bool) (name : String) (body : List Stmt)
  | class_ (line : Nat) (name : String) (decorators bases keywords : List Expr) (body : List Stmt)
  | assign (line : Nat) (targets : List Expr) (value : Expr)
  | annotated (line : Nat) (target declared : Expr) (value : Option Expr)
  | expression (value : Expr)
  /-- Any other simple statement, with its expressions. -/
  | simple (values : List Expr)
  /-- A compound statement or a part of one: the expressions at its head, then the statements
  and parts below it. -/
  | block (head : List Expr) (body : List Stmt)
  deriving Repr, Inhabited

namespace Expr

def isNone : Expr → Bool
  | .constant .none => true
  | _ => false

def isStarred : Expr → Bool
  | .starred _ => true
  | _ => false

end Expr

end RepoAtlas.Source
