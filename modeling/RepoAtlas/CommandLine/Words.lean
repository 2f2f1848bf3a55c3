/-!
The words of a command. Options begin with a hyphen and stand anywhere between the operands; a
value follows its option as the next word, after `=` or, for a one-letter option, directly. A
double hyphen alone ends the options.
-/
namespace RepoAtlas.CommandLine

/-- An option that a command knows. -/
structure OptionForm where
  /-- The spelling with two hyphens. -/
  long : String
  letter : Option Char := none
  hasValue : Bool := true
  deriving Repr, DecidableEq

/-- What was given to a command: its options, by their long spellings and with their values,
and its operands. -/
structure Words where
  options : List (String × String) := []
  operands : List String := []
  deriving Repr, DecidableEq, Inhabited

/-- The options in one word, and the one whose value is the next word. -/
structure OptionWord where
  given : List (String × String) := []
  waiting : Option String := none
  deriving Repr, DecidableEq

def isOptionWord (w : String) : Bool := w.startsWith "-" && w.length ≠ 1

/-- A word with two hyphens names one option; only an option with a value may have an equals
sign. -/
def longWord? (forms : List OptionForm) (w : List Char) : Option OptionWord := do
  let name := w.takeWhile (· ≠ '=')
  let form ← forms.find? (fun f => f.long.toList == name)
  match form.hasValue, w.drop name.length with
  | true, _ :: value => some { given := [(form.long, String.ofList value)] }
  | true, [] => some { waiting := some form.long }
  | false, _ :: _ => none
  | false, [] => some { given := [(form.long, "")] }

/-- The letters of a word with one hyphen; the first that has a value takes the rest as such. -/
def letters? (forms : List OptionForm) : List Char → Option OptionWord
  | [] => some {}
  | c :: rest => do
    let form ← forms.find? (·.letter == some c)
    if form.hasValue then
      if rest.isEmpty then some { waiting := some form.long }
      else some { given := [(form.long, String.ofList rest)] }
    else
      let more ← letters? forms rest
      some { more with given := (form.long, "") :: more.given }

def optionWord? (forms : List OptionForm) (w : String) : Option OptionWord :=
  if w.startsWith "--" then longWord? forms w.toList else letters? forms (w.toList.drop 1)

def Words.withOptions (given : List (String × String)) (w : Words) : Words :=
  { w with options := given ++ w.options }

def Words.withOperand (operand : String) (w : Words) : Words :=
  { w with operands := operand :: w.operands }

/-- Reads words, the first of them as the value of a waiting option; none if they misuse the
options. If operands come last, the first of them and all that follows is left as it is. -/
def Words.readFrom? (forms : List OptionForm) (operandsLast : Bool) :
    Option String → List String → Option Words
  | none, [] => some {}
  | some _, [] => none
  | some name, w :: rest =>
    (Words.readFrom? forms operandsLast none rest).map (Words.withOptions [(name, w)])
  | none, w :: rest =>
    if w = "--" then some { operands := rest }
    else if isOptionWord w then
      (optionWord? forms w).bind (fun found =>
        (Words.readFrom? forms operandsLast found.waiting rest).map
          (Words.withOptions found.given))
    else if operandsLast then some { operands := w :: rest }
    else (Words.readFrom? forms operandsLast none rest).map (Words.withOperand w)

def Words.read? (forms : List OptionForm) (operandsLast : Bool) (ws : List String) :
    Option Words :=
  Words.readFrom? forms operandsLast none ws

namespace Words

variable (w : Words)

/-- The value of an option; the last one counts. -/
def value? (long : String) : Option String :=
  ((w.options.filter (·.1 == long)).getLast?).map (·.2)

def text (long : String) (default : String := "") : String := (w.value? long).getD default

def has (long : String) : Bool := w.options.any (·.1 == long)

end Words

/-- Without options the words are the operands. -/
theorem read?_operands (forms : List OptionForm) (ws : List String)
    (h : ∀ w ∈ ws, isOptionWord w = false) :
    Words.read? forms false ws = some { operands := ws } := by
  induction ws with
  | nil => rfl
  | cons w rest ih =>
    have hw : isOptionWord w = false := h w (by simp)
    have hne : w ≠ "--" := by
      rintro rfl
      have : isOptionWord "--" = true := by decide +kernel
      simp [hw] at this
    have ih := ih (fun v hv => h v (by simp [hv]))
    simp only [Words.read?] at ih ⊢
    simp [Words.readFrom?, hne, hw, ih, Words.withOperand]

end RepoAtlas.CommandLine
