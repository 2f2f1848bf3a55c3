import RepoAtlas.Text.Pieces

/-!
Sets of characters given as closed intervals of code points. Tables of character properties
are written as hexadecimal text, `41-5a 61-7a aa`, and looked up by halving the table.
-/
namespace RepoAtlas.Text

def hexDigitValue? (c : Char) : Option Nat :=
  if '0' ≤ c ∧ c ≤ '9' then some (c.toNat - 48)
  else if 'a' ≤ c ∧ c ≤ 'f' then some (c.toNat - 87)
  else if 'A' ≤ c ∧ c ≤ 'F' then some (c.toNat - 55)
  else none

/-- Reads hexadecimal digits; characters that are none are skipped. -/
def hexValue (digits : List Char) : Nat :=
  digits.foldl (fun n c => match hexDigitValue? c with
    | some d => 16 * n + d
    | none => n) 0

/-- The items of a table: runs of characters between blanks and line feeds. -/
def tableItems (table : String) : List (List Char) :=
  (splitAt ' ' (table.toList.map (fun c => if c = '\n' then ' ' else c))).filter (· ≠ [])

structure CodeRanges where
  intervals : Array (Nat × Nat)

namespace CodeRanges

def ofHex (table : String) : CodeRanges where
  intervals := (tableItems table).map (fun item =>
    match splitAt '-' item with
    | [lo, hi] => (hexValue lo, hexValue hi)
    | _ => (hexValue item, hexValue item)) |>.toArray

/-- Halves the part `[lo, hi)` of the table that may hold the code point. -/
def search (r : CodeRanges) (code lo hi : Nat) : Bool :=
  if lo < hi then
    let mid := (lo + hi) / 2
    match r.intervals[mid]? with
    | none => false
    | some (first, last) =>
      if code < first then search r code lo mid
      else if last < code then search r code (mid + 1) hi
      else true
  else false
termination_by hi - lo
decreasing_by all_goals omega

def contains (r : CodeRanges) (c : Char) : Bool :=
  r.search c.toNat 0 r.intervals.size

/-- A found code point lies in one of the intervals. -/
theorem exists_interval_of_search {r : CodeRanges} {code lo hi : Nat}
    (h : r.search code lo hi = true) :
    ∃ p ∈ r.intervals, p.1 ≤ code ∧ code ≤ p.2 := by
  fun_induction search r code lo hi with
  | case1 => simp at h
  | case2 _ _ _ _ _ _ _ _ ih => exact ih h
  | case3 _ _ _ _ _ _ _ _ _ ih => exact ih h
  | case4 lo hi _ mid first last get lower upper =>
    exact ⟨(first, last), Array.mem_of_getElem? get, by simp; omega⟩
  | case5 => simp at h

end CodeRanges

end RepoAtlas.Text
