import RepoAtlas.Text.CodeRanges
import RepoAtlas.Text.CompatibilityTable

/-!
The compatibility form in which identifiers and host names are compared: every character is
replaced by its full compatibility decomposition, marks are put into canonical order, and
neighbours that compose are composed. Hangul syllables follow their arithmetic rule.
-/
namespace RepoAtlas.Text.Compatibility

/-- A run of code points and what stands for its first one; later ones go up with it. -/
structure Run where
  first : Nat
  last : Nat
  image : List Nat
  deriving Inhabited

def Run.ofItem (item : List Char) : Run :=
  let (span, image) := item.span (· ≠ '=')
  let (first, last) := span.span (· ≠ '-')
  let codes := (splitAt '_' (image.drop 1)).map hexValue
  ⟨hexValue first, if last.isEmpty then hexValue first else hexValue (last.drop 1), codes⟩

def runs (table : String) : Array Run := ((tableItems table).map Run.ofItem).toArray

/-- Halves the part `[lo, hi)` of the table that may hold the code point. -/
def findRun (table : Array Run) (code lo hi : Nat) : Option Run :=
  if lo < hi then
    let mid := (lo + hi) / 2
    match table[mid]? with
    | none => none
    | some run =>
      if code < run.first then findRun table code lo mid
      else if run.last < code then findRun table code (mid + 1) hi
      else some run
  else none
termination_by hi - lo
decreasing_by all_goals omega

def decompositions : Array Run := runs decompositionRuns

def combiningClasses : Array Run := runs combiningClassRuns

/-- The composed character by the pair that composes to it. -/
def compositions : List ((Nat × Nat) × Nat) :=
  (tableItems compositionPairs).map (fun item =>
    let (pair, image) := item.span (· ≠ '=')
    let (first, second) := pair.span (· ≠ '_')
    ((hexValue first, hexValue (second.drop 1)), hexValue (image.drop 1)))

def syllableBase : Nat := 0xac00
def leadBase : Nat := 0x1100
def vowelBase : Nat := 0x1161
def tailBase : Nat := 0x11a7

def isSyllable (code : Nat) : Bool := syllableBase ≤ code && code < syllableBase + 11172

def decomposeSyllable (code : Nat) : List Nat :=
  let index := code - syllableBase
  let tail := index % 28
  [leadBase + index / 588, vowelBase + index % 588 / 28] ++
    (if tail = 0 then [] else [tailBase + tail])

def decompose (code : Nat) : List Nat :=
  if isSyllable code then decomposeSyllable code
  else match findRun decompositions code 0 decompositions.size with
    | some ⟨first, _, [single]⟩ => [single + (code - first)]
    | some run => run.image
    | none => [code]

def combiningClass (code : Nat) : Nat :=
  match findRun combiningClasses code 0 combiningClasses.size with
  | some run => run.image.headD 0
  | none => 0

/-- Puts a mark behind the marks before it that are not of a higher class. -/
def insertMark (mark : Nat × Nat) : List (Nat × Nat) → List (Nat × Nat)
  | [] => [mark]
  | m :: rest => if mark.2 < m.2 then mark :: m :: rest else m :: insertMark mark rest

/-- Orders each run of marks by class; `pending` holds the run being read. -/
def ordered (pending : List (Nat × Nat)) : List Nat → List Nat
  | [] => pending.map (·.1)
  | code :: rest =>
    let klass := combiningClass code
    if klass = 0 then pending.map (·.1) ++ code :: ordered [] rest
    else ordered (insertMark (code, klass) pending) rest

def composePair? (a b : Nat) : Option Nat :=
  if leadBase ≤ a ∧ a < leadBase + 19 ∧ vowelBase ≤ b ∧ b < vowelBase + 21 then
    some (syllableBase + ((a - leadBase) * 21 + (b - vowelBase)) * 28)
  else if isSyllable a ∧ (a - syllableBase) % 28 = 0 ∧ tailBase < b ∧ b < tailBase + 28 then
    some (a + (b - tailBase))
  else (compositions.find? (·.1 == (a, b))).map (·.2)

/-- Composes onto the last starter. `skipped` holds the characters after it that did not
compose, nearest first, and `block` the class of the nearest one. -/
def composed (starter : Nat) (skipped : List Nat) (block : Option Nat) : List Nat → List Nat
  | [] => starter :: skipped.reverse
  | code :: rest =>
    let klass := combiningClass code
    let free := match block with
      | none => true
      | some b => b ≠ 0 && b < klass
    match if free then composePair? starter code else none with
    | some joined => composed joined skipped block rest
    | none =>
      if klass = 0 then starter :: skipped.reverse ++ composed code [] none rest
      else composed starter (code :: skipped) (some klass) rest

/-- Leading marks have no starter to compose onto. -/
def compose : List Nat → List Nat
  | [] => []
  | code :: rest =>
    if combiningClass code = 0 then composed code [] none rest else code :: compose rest

def form (s : List Char) : List Char :=
  if s.all (·.toNat < 128) then s
  else (compose (ordered [] (s.flatMap (fun c => decompose c.toNat)))).map Char.ofNat

theorem form_ascii {s : List Char} (h : s.all (·.toNat < 128) = true) : form s = s := by
  simp only [form, h, if_true]

end RepoAtlas.Text.Compatibility
