/-!
Cutting texts up and finding texts in texts. Everything works on lists of characters, so that
a position is always a whole code point.
-/
namespace RepoAtlas.Text

/-- The pieces between single characters `c`; there is always at least one piece. -/
def splitAt (c : Char) : List Char → List (List Char)
  | [] => [[]]
  | x :: rest =>
    if x = c then [] :: splitAt c rest
    else match splitAt c rest with
      | [] => [[x]]
      | piece :: pieces => (x :: piece) :: pieces

theorem splitAt_ne_nil (c : Char) (s : List Char) : splitAt c s ≠ [] := by
  cases s with
  | nil => simp [splitAt]
  | cons x rest =>
    simp only [splitAt]
    split
    · simp
    · split <;> simp

/-- Joining the pieces with the separator gives the text back. -/
theorem intercalate_splitAt (c : Char) (s : List Char) : [c].intercalate (splitAt c s) = s := by
  induction s with
  | nil => rfl
  | cons x rest ih =>
    simp only [splitAt]
    split
    next h =>
      subst h
      cases hp : splitAt x rest with
      | nil => exact absurd hp (splitAt_ne_nil x rest)
      | cons p ps => rw [hp] at ih; simp [List.intercalate, List.intersperse] at ih ⊢; exact ih
    next h =>
      cases hp : splitAt c rest with
      | nil => exact absurd hp (splitAt_ne_nil c rest)
      | cons p ps =>
        rw [hp] at ih
        cases ps with
        | nil => simp [List.intercalate] at ih ⊢; exact ih
        | cons q qs => simp [List.intercalate, List.intersperse] at ih ⊢; exact ih

/-- What follows the last `c`, or the whole text if it holds none. -/
def afterLast (c : Char) : List Char → List Char
  | [] => []
  | x :: rest => if c ∈ rest then afterLast c rest else if x = c then rest else x :: rest

theorem afterLast_eq_self {c : Char} {s : List Char} (h : c ∉ s) : afterLast c s = s := by
  cases s with
  | nil => rfl
  | cons x rest =>
    simp only [List.mem_cons, not_or] at h
    simp [afterLast, h.2, Ne.symm h.1]

theorem not_mem_afterLast (c : Char) (s : List Char) : c ∉ afterLast c s := by
  induction s with
  | nil => simp [afterLast]
  | cons x rest ih =>
    simp only [afterLast]
    split
    · exact ih
    · split
      next h _ => exact h
      next h hx => simp [Ne.symm hx, h]

/-- `needle` occurs in the text as a run of neighbouring characters. -/
def occursIn (needle : List Char) : List Char → Bool
  | [] => needle.isEmpty
  | x :: rest => needle.isPrefixOf (x :: rest) || occursIn needle rest

theorem occursIn_iff {needle s : List Char} : occursIn needle s = true ↔ needle <:+: s := by
  induction s with
  | nil => simp [occursIn]
  | cons x rest ih => simp [occursIn, ih, List.infix_cons_iff]

/-- Replaces `needle`, leftmost occurrences first; `fuel` bounds the characters still to read. -/
def replaceWithin (needle replacement : List Char) : Nat → List Char → List Char
  | 0, s => s
  | _ + 1, [] => []
  | fuel + 1, x :: rest =>
    if needle.isPrefixOf (x :: rest) then
      replacement ++ replaceWithin needle replacement fuel ((x :: rest).drop needle.length)
    else x :: replaceWithin needle replacement fuel rest

/-- Replaces every occurrence of a nonempty `needle`. -/
def replaceAll (needle replacement s : List Char) : List Char :=
  if needle.isEmpty then s else replaceWithin needle replacement s.length s

def dropEndWhile (p : Char → Bool) (s : List Char) : List Char :=
  (s.reverse.dropWhile p).reverse

def trimWhile (p : Char → Bool) (s : List Char) : List Char :=
  dropEndWhile p (s.dropWhile p)

/-- Blanks on the right up to the given width. -/
def padRight (width : Nat) (s : List Char) : List Char :=
  s ++ List.replicate (width - s.length) ' '

@[simp] theorem length_padRight (width : Nat) (s : List Char) :
    (padRight width s).length = max width s.length := by
  simp [padRight]; omega

/-- The texts in order with `separator` between neighbours. -/
def joinWith (separator : String) (texts : List String) : String :=
  String.intercalate separator texts

end RepoAtlas.Text
