import Mathlib.Data.List.Basic
import RepoAtlas.Source.Request

/-!
Places in the tree of a module. An address leads from a node down to another, one number a level; on
its way it passes the definitions that enclose the place.
-/
namespace RepoAtlas.Source

/-! ### Nodes -/

/-- A statement or an expression of a tree. -/
inductive Node where
  | stmt (s : Stmt)
  | expr (e : Expr)

/-- The key of a dictionary's entry. -/
def Expr.entryKey : Expr → List Expr
  | .entry key _ => key.toList
  | _ => []

/-- The value of a dictionary's entry. -/
def Expr.entryValue : Expr → List Expr
  | .entry _ value => [value]
  | _ => []

/-- The expressions right below an expression. The entries of a dictionary are none by themselves:
it has keys and values. -/
def Expr.parts : Expr → List Expr
  | .name _ | .constant _ => []
  | .template parts => parts
  | .hole value _ _ format => value :: format
  | .attribute value _ | .keyword _ value | .starred value | .named _ value | .unary _ value
  | .await value | .yieldFrom value | .operand _ value => [value]
  | .subscript value index => [value, index]
  | .call _ function args keywords => function :: (args ++ keywords)
  | .boolean _ values => values
  | .binary _ left right => [left, right]
  | .lambda params body => params ++ [body]
  | .param _ default => default.toList
  | .conditional test yes no => [test, yes, no]
  | .dict entries => entries.flatMap entryKey ++ entries.flatMap entryValue
  | .entry key value => key.toList ++ [value]
  | .set items | .list items | .tuple items => items
  | .comprehension _ element clauses => element :: clauses
  | .dictComprehension key value clauses => key :: value :: clauses
  | .clause _ target source conditions => target :: source :: conditions
  | .yield value => value.toList
  | .compare first rest => first :: rest
  | .slice lower upper step => lower.toList ++ upper.toList ++ step.toList

/-- The expressions right below a statement. -/
def Stmt.exprs : Stmt → List Expr
  | .function .. => []
  | .class_ _ _ decorators bases keywords _ => decorators ++ bases ++ keywords
  | .assign _ targets value => targets ++ [value]
  | .annotated _ target declared value => target :: declared :: value.toList
  | .expression value => [value]
  | .simple values => values
  | .block head _ => head

/-- The statements right below a statement. -/
def Stmt.body : Stmt → List Stmt
  | .function _ _ body | .class_ _ _ _ _ _ body | .block _ body => body
  | _ => []

namespace Node

/-- The nodes right below a node. -/
def parts : Node → List Node
  | stmt s => s.exprs.map expr ++ s.body.map stmt
  | expr e => e.parts.map expr

/-- Functions, classes and lambdas keep what is below them to themselves. -/
def opensScope : Node → Bool
  | stmt (.function ..) | stmt (.class_ ..) | expr (.lambda ..) => true
  | _ => false

/-- The name that functions and classes give to what is below them. -/
def scopeName? : Node → Option String
  | stmt (.function _ name _) | stmt (.class_ _ name _ _ _ _) => some name
  | _ => none

def callSite? : Node → Option CallSite
  | expr (.call line function args keywords) => some ⟨line, function, args, keywords⟩
  | _ => none

/-! ### Addresses -/

/-- The node at an address, after those that it is below, outermost first. -/
def follow : Node → List ℕ → Option (List Node × Node)
  | n, [] => some ([], n)
  | n, i :: rest =>
    n.parts[i]?.bind fun m => (m.follow rest).map fun (around, x) => (n :: around, x)

/-- The parts of a node that are in its own scope. -/
def ownParts (n : Node) : List Node := if n.opensScope then [] else n.parts

/-- The node at an address if nothing above it opens a scope. -/
def reach : Node → List ℕ → Option Node
  | n, [] => some n
  | n, i :: rest => n.ownParts[i]?.bind (·.reach rest)

/-- The call at an address that belongs to the node's own scope. -/
def callAt? (n : Node) (address : List ℕ) : Option CallSite := (n.reach address).bind callSite?

end Node

/-- The names that a place gets from what encloses it, outermost first. -/
def scopeNames (around : List Node) : List String := around.filterMap Node.scopeName?

namespace Node

/-! ### Following -/

section Follow

variable {n m x y : Node} {around inner : List Node} {address rest : List ℕ} {i : ℕ}

theorem follow_cons_eq_some_iff :
    n.follow (i :: rest) = some (around, x) ↔
      ∃ m inner, n.parts[i]? = some m ∧ m.follow rest = some (inner, x) ∧ around = n :: inner := by
  rw [follow, Option.bind_eq_some_iff]
  constructor
  · rintro ⟨m, hm, h⟩
    obtain ⟨⟨inner, y⟩, hfollow, heq⟩ := Option.map_eq_some_iff.1 h
    obtain ⟨rfl, rfl⟩ := Prod.mk.inj heq
    exact ⟨m, inner, hm, hfollow, rfl⟩
  · rintro ⟨m, inner, hm, hfollow, rfl⟩
    exact ⟨m, hm, by rw [hfollow]; rfl⟩

/-- One node stands above another for each number of the address. -/
theorem length_of_follow (h : n.follow address = some (around, x)) :
    around.length = address.length := by
  induction address generalizing n around with
  | nil =>
    obtain ⟨rfl, rfl⟩ := Prod.mk.inj (Option.some.inj h)
    rfl
  | cons i rest ih =>
    obtain ⟨m, inner, -, hfollow, rfl⟩ := follow_cons_eq_some_iff.1 h
    rw [List.length_cons, List.length_cons, ih hfollow]

theorem follow_append (h : n.follow address = some (around, x))
    (hnext : x.follow rest = some (inner, y)) :
    n.follow (address ++ rest) = some (around ++ inner, y) := by
  induction address generalizing n around with
  | nil =>
    obtain ⟨rfl, rfl⟩ := Prod.mk.inj (Option.some.inj h)
    exact hnext
  | cons i tail ih =>
    obtain ⟨m, middle, hm, hfollow, rfl⟩ := follow_cons_eq_some_iff.1 h
    exact follow_cons_eq_some_iff.2 ⟨m, middle ++ inner, hm, ih hfollow, rfl⟩

theorem mem_parts_of_mem_ownParts (h : m ∈ n.ownParts) : m ∈ n.parts := by
  rw [ownParts] at h
  split at h
  · cases h
  · exact h

/-- What is reached is found below nodes that open no scope. -/
theorem follow_of_reach (h : n.reach address = some x) :
    ∃ inner, n.follow address = some (inner, x) ∧ ∀ m ∈ inner, m.opensScope = false := by
  induction address generalizing n with
  | nil => exact ⟨[], by rw [follow, Option.some.inj h], fun _ hm => nomatch hm⟩
  | cons i rest ih =>
    obtain ⟨m, hm, hreach⟩ := Option.bind_eq_some_iff.1 h
    obtain ⟨inner, hfollow, hinner⟩ := ih hreach
    rw [ownParts] at hm
    split at hm
    · cases hm
    next hopen =>
      refine ⟨n :: inner, follow_cons_eq_some_iff.2 ⟨m, inner, hm, hfollow, rfl⟩, ?_⟩
      exact List.forall_mem_cons.2 ⟨Bool.eq_false_iff.2 hopen, hinner⟩

/-- The innermost node that opens a scope is one. -/
theorem innermost_unique {outer other later : List Node}
    (h : outer ++ n :: inner = other ++ m :: later) (hn : n.opensScope = true)
    (hm : m.opensScope = true) (hinner : ∀ k ∈ inner, k.opensScope = false)
    (hlater : ∀ k ∈ later, k.opensScope = false) : outer = other := by
  rcases List.append_eq_append_iff.1 h with ⟨middle, rfl, heq⟩ | ⟨middle, rfl, heq⟩
  · cases middle with
    | nil => exact (List.append_nil _).symm
    | cons k middle =>
      obtain ⟨-, rfl⟩ := List.cons.inj heq
      have hnone := hinner m (List.mem_append_right _ List.mem_cons_self)
      rw [hm] at hnone
      cases hnone
  · cases middle with
    | nil => exact List.append_nil _
    | cons k middle =>
      obtain ⟨-, rfl⟩ := List.cons.inj heq
      have hnone := hlater n (List.mem_append_right _ List.mem_cons_self)
      rw [hn] at hnone
      cases hnone

end Follow

/-! ### Induction over trees -/

end Node

theorem Expr.sizeOf_lt_of_mem_toList {o : Option Expr} {p : Expr} (h : p ∈ o.toList) :
    sizeOf p < sizeOf o := by
  obtain rfl := Option.mem_toList.1 h
  rw [Option.some.sizeOf_spec]
  omega

theorem Expr.sizeOf_lt_of_mem_entry {e p : Expr} (h : p ∈ e.entryKey ∨ p ∈ e.entryValue) :
    sizeOf p < sizeOf e := by
  cases e with
  | entry key value =>
    rw [Expr.entry.sizeOf_spec]
    rcases h with h | h
    · have hlt := Expr.sizeOf_lt_of_mem_toList h
      omega
    · obtain rfl := List.mem_singleton.1 h
      omega
  | _ => exact (h.elim List.not_mem_nil List.not_mem_nil).elim

theorem Expr.sizeOf_lt_of_mem_parts {e p : Expr} (h : p ∈ e.parts) : sizeOf p < sizeOf e := by
  have hlist : ∀ es : List Expr, p ∈ es → sizeOf p < sizeOf es := fun _ => List.sizeOf_lt_of_mem
  have hoption : ∀ o : Option Expr, p ∈ o.toList → sizeOf p < sizeOf o :=
    fun _ => Expr.sizeOf_lt_of_mem_toList
  have hentries : ∀ es : List Expr, p ∈ es.flatMap entryKey ∨ p ∈ es.flatMap entryValue →
      sizeOf p < sizeOf es := by
    intro es hes
    rw [List.mem_flatMap, List.mem_flatMap] at hes
    obtain ⟨entry, hmem, hp⟩ : ∃ entry ∈ es, p ∈ entry.entryKey ∨ p ∈ entry.entryValue := by
      grind
    exact Nat.lt_trans (Expr.sizeOf_lt_of_mem_entry hp) (List.sizeOf_lt_of_mem hmem)
  cases e <;> simp only [parts, List.mem_cons, List.mem_append, List.not_mem_nil, or_false] at h <;>
    grind

theorem Stmt.sizeOf_lt_of_mem_exprs {s : Stmt} {e : Expr} (h : e ∈ s.exprs) :
    sizeOf e < sizeOf s := by
  have hlist : ∀ es : List Expr, e ∈ es → sizeOf e < sizeOf es := fun _ => List.sizeOf_lt_of_mem
  have hoption : ∀ o : Option Expr, e ∈ o.toList → sizeOf e < sizeOf o :=
    fun _ => Expr.sizeOf_lt_of_mem_toList
  cases s <;> simp only [exprs, List.mem_cons, List.mem_append, List.not_mem_nil, or_false] at h <;>
    grind

theorem Stmt.sizeOf_lt_of_mem_body {s t : Stmt} (h : t ∈ s.body) : sizeOf t < sizeOf s := by
  have hlist : ∀ ss : List Stmt, t ∈ ss → sizeOf t < sizeOf ss := fun _ => List.sizeOf_lt_of_mem
  cases s <;> simp only [body, List.not_mem_nil] at h <;> grind

namespace Node

theorem sizeOf_lt_of_mem_parts {n m : Node} (h : m ∈ n.parts) : sizeOf m < sizeOf n := by
  cases n with
  | stmt s =>
    rcases List.mem_append.1 h with h | h
    · obtain ⟨e, he, rfl⟩ := List.mem_map.1 h
      simpa using Stmt.sizeOf_lt_of_mem_exprs he
    · obtain ⟨t, ht, rfl⟩ := List.mem_map.1 h
      simpa using Stmt.sizeOf_lt_of_mem_body ht
  | expr e =>
    obtain ⟨p, hp, rfl⟩ := List.mem_map.1 h
    simpa using Expr.sizeOf_lt_of_mem_parts hp

/-- What passes from the parts of a node to the node holds everywhere. -/
theorem induction_parts {motive : Node → Prop}
    (step : ∀ n, (∀ m ∈ n.parts, motive m) → motive n) (n : Node) : motive n :=
  step n fun m _ => induction_parts step m
termination_by sizeOf n
decreasing_by exact sizeOf_lt_of_mem_parts ‹_›

end Node

end RepoAtlas.Source
