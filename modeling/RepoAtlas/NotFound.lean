import RepoAtlas.Doc.Basic

/-!
Answers about things that do not exist: what was asked for, and what there is instead. A miss
is an answer and no fault.
-/
namespace RepoAtlas

structure NotFound where
  kind : String
  requested : String
  alternatives : List String := []
  message : String := "No " ++ kind ++ " named '" ++ requested ++ "'."
  deriving Repr, DecidableEq, Inhabited

namespace NotFound

def toDoc (n : NotFound) : Doc :=
  .object [("kind", .text n.kind), ("requested", .text n.requested),
    ("alternatives", .ofTexts n.alternatives), ("message", .text n.message)]

/-- How many names are offered instead of an unknown one. -/
def maxAlternatives : Nat := 5

/-- The nearest names, or the first ones if none is near. -/
def suggestions (near names : List String) : List String :=
  if near.isEmpty then names.take maxAlternatives else near

end NotFound

/-- What was asked for, or why it is not there. -/
abbrev Found (α : Type) := Except NotFound α

end RepoAtlas
