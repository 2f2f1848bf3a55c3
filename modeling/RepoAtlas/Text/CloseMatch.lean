/-!
How alike two texts are, and which texts of a list are alike enough. Texts are compared by
their longest common run, then in the same way left and right of it; of several longest runs the
first counts. In a text of 200 characters or more, frequent characters begin no run.
-/
namespace RepoAtlas.Text

/-- A run that two texts share: where it begins in each, and its length. -/
structure CommonRun where
  left : Nat := 0
  right : Nat := 0
  length : Nat := 0
  deriving DecidableEq, Repr

/-- From this length on, frequent characters are set aside. -/
def longText : Nat := 200

/-- Characters that make up more than one in a hundred of a long text. -/
def frequentChars (s : List Char) : List Char :=
  if s.length < longText then []
  else s.filter (fun c => s.length / 100 + 1 < s.count c)

/-- Lengths of the runs that end at each place of `right`, given those one character before. -/
def runLengths (c : Char) (frequent : List Char) (right : List Char) (before : List Nat) :
    List Nat :=
  (right.zip (0 :: before)).map (fun (d, n) => if d == c && !frequent.contains c then n + 1 else 0)

/-- The better of a run and those that end at the `i`-th character, earlier ones first. -/
def bestRun (i : Nat) (best : CommonRun) (lengths : List Nat) : CommonRun :=
  lengths.zipIdx.foldl
    (fun best (n, j) => if best.length < n then ⟨i + 1 - n, j + 1 - n, n⟩ else best) best

/-- The first longest run without frequent characters. -/
def longestRun (frequent left right : List Char) : CommonRun :=
  (left.zipIdx.foldl
    (fun (found : CommonRun × List Nat) (c, i) =>
      let lengths := runLengths c frequent right found.2
      (bestRun i found.1 lengths, lengths))
    ({}, List.replicate right.length 0)).1

def commonPrefix : List Char → List Char → Nat
  | x :: xs, y :: ys => if x = y then commonPrefix xs ys + 1 else 0
  | _, _ => 0

/-- Lengthens a run on both sides as far as the texts agree. -/
def extendRun (left right : List Char) (run : CommonRun) : CommonRun :=
  let back := commonPrefix (left.take run.left).reverse (right.take run.right).reverse
  let ahead := commonPrefix (left.drop (run.left + run.length)) (right.drop (run.right + run.length))
  ⟨run.left - back, run.right - back, back + run.length + ahead⟩

/-- How many characters of the two texts are matched. -/
def matchedFrom (frequent : List Char) : Nat → List Char → List Char → Nat
  | 0, _, _ => 0
  | fuel + 1, left, right =>
    let run := extendRun left right (longestRun frequent left right)
    if run.length = 0 then 0
    else run.length +
      matchedFrom frequent fuel (left.take run.left) (right.take run.right) +
      matchedFrom frequent fuel (left.drop (run.left + run.length))
        (right.drop (run.right + run.length))

/-- The share of matched characters in both texts together, as a fraction. -/
def likeness (left right : List Char) : Nat × Nat :=
  let total := left.length + right.length
  if total = 0 then (1, 1)
  else (2 * matchedFrom (frequentChars right) (left.length + 1) left right, total)

def fractionLe (a b : Nat × Nat) : Bool := a.1 * b.2 ≤ b.1 * a.2

/-- Better matches first; of equal ones the greater text. -/
def closerFirst (a b : (Nat × Nat) × String) : Bool :=
  if fractionLe a.1 b.1 && fractionLe b.1 a.1 then decide (b.2 ≤ a.2) else fractionLe b.1 a.1

/-- At most `count` of the candidates, those whose likeness reaches the cutoff. -/
def closeMatches (count : Nat) (cutoff : Nat × Nat) (word : String) (candidates : List String) :
    List String :=
  let scored := candidates.map (fun c => (likeness c.toList word.toList, c))
  (((scored.filter (fun s => fractionLe cutoff s.1)).mergeSort closerFirst).take count).map (·.2)

end RepoAtlas.Text
