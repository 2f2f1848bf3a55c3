import RepoAtlas.Doc.Ratio
import RepoAtlas.Record.TypeDefinition
import RepoAtlas.Text.LowerCase
import RepoAtlas.Text.Pieces

/-!
How alike two type definitions are, from 0 to 100: points for the same normalized name, for
equivalent kinds, and for the share of fields they have in common.
-/
namespace RepoAtlas.Types

/-! ### Names

Type and field names compare without regard to case and separators.
-/

def isSeparator (c : Char) : Bool := c == '_' || c == '-'

def normalizedChars (s : List Char) : List Char :=
  Text.lower (s.filter (fun c => !isSeparator c))

def normalized (name : String) : String :=
  String.ofList (normalizedChars name.toList)

/-- The name contains the wanted text once both are normalized. -/
def mentions (wanted name : String) : Bool :=
  Text.occursIn (normalized wanted).toList (normalized name).toList

/-- Two kinds are equivalent if they share a class; a union belongs to none. -/
def kindClasses : List (List TypeKind) :=
  [[.struct, .class_, .interface], [.trait, .interface, .protocol], [.enum], [.typeAlias]]

def kindsEquivalent (a b : TypeKind) : Bool :=
  kindClasses.any (fun c => c.contains a && c.contains b)

theorem kindsEquivalent_comm (a b : TypeKind) : kindsEquivalent a b = kindsEquivalent b a := by
  cases a <;> cases b <;> rfl

/-- The set of normalized field names. -/
def fieldNames (t : TypeDefinition) : List String :=
  distinct (t.fields.map (fun f => normalized f.name))

structure SimilarityWeights where
  name : Int := 50
  kind : Int := 20
  fields : Int := 30
  deriving DecidableEq, Repr

/-- Common names over the larger set. -/
def overlap (a b : List String) : Rat :=
  nearest (((a.filter b.contains).length : Rat) / (max a.length b.length : Nat))

/-- The weight is scaled as a double, so one that is too large for a double gives no score. -/
def fieldScore (weight : Int) (a b : List String) : Result Int :=
  if a.isEmpty || b.isEmpty then .ok 0
  else do
    let points ← Doc.finite (.ofInt weight)
    return roundHalfUp (nearest (points * overlap a b))

def similarity (weights : SimilarityWeights) (a b : TypeDefinition) : Result Int := do
  let nameScore := if normalized a.name = normalized b.name then weights.name else 0
  let kindScore := if kindsEquivalent a.kind b.kind then weights.kind else 0
  let shared ← fieldScore weights.fields (fieldNames a) (fieldNames b)
  return max 0 (min 100 (nameScore + kindScore + shared))

theorem similarity_range {w : SimilarityWeights} {a b : TypeDefinition} {score : Int}
    (h : similarity w a b = .ok score) : 0 ≤ score ∧ score ≤ 100 := by
  rw [similarity] at h
  cases hshared : fieldScore w.fields (fieldNames a) (fieldNames b) with
  | error fault =>
    rw [hshared] at h
    cases h
  | ok shared =>
    rw [hshared] at h
    obtain rfl := Except.ok.inj h
    omega

end RepoAtlas.Types
