import RepoAtlas.Report.Markup
import RepoAtlas.Report.Wrap

/-!
Tables in boxes. Every column is as wide as its widest cell with a blank on both sides; where
that is too wide for the page, the widest columns give way first and their cells are wrapped.
The title stands over the middle of the table.
-/
namespace RepoAtlas.Report

open RepoAtlas.Text

-- The zero of a sum stays that of the core library, whatever imports this file.
attribute [local instance (high)] Zero.ofOfNat0

structure Column where
  header : String := ""
  align : Align := .left
  deriving Repr

structure BoxTable where
  title : Option String := none
  columns : List Column
  hasHeader : Bool := true
  rows : List (List String)
  deriving Repr

namespace BoxTable

/-- The width of the widest line, where `here` cells of the first one are passed already. -/
def widestLine (here : Nat) : List Char → Nat
  | [] => here
  | c :: rest =>
    if isLineBoundary c then max here (widestLine 0 rest) else widestLine (here + charCells c) rest

def maximum (ns : List Nat) : Nat := ns.foldl max 0

/-- A quotient rounded to the nearest whole number, a half to the even neighbour. -/
def nearestQuotient (n d : Nat) : Nat :=
  let q := n / d
  let twice := 2 * (n % d)
  if twice < d ∨ (twice = d ∧ q % 2 = 0) then q else q + 1

/-- Takes an excess from the columns of a width in equal shares, at most `most` from each;
`count` such columns are still to come. -/
def takeShares (widest most : Nat) : Nat → Nat → List Nat → List Nat
  | _, _, [] => []
  | excess, count, w :: rest =>
    if w = widest then
      let share := min most (nearestQuotient excess count)
      (w - share) :: takeShares widest most (excess - share) (count - 1) rest
    else w :: takeShares widest most excess count rest

/-- Brings the widest columns down, to the next width at most. -/
def shrinkStep (room : Nat) (widths : List Nat) : List Nat :=
  let widest := maximum widths
  let next := maximum (widths.filter (· ≠ widest))
  let excess := widths.sum - room
  takeShares widest (min excess (widest - next)) excess (widths.count widest) widths

/-- Column widths that fit into the room; `fuel` bounds the steps. -/
def shrinkWithin : Nat → Nat → List Nat → List Nat
  | 0, _, widths => widths
  | fuel + 1, room, widths =>
    if widths.sum ≤ room then widths else shrinkWithin fuel room (shrinkStep room widths)

variable (t : BoxTable)

def cellsOf (i : Nat) (c : Column) : List String :=
  (if t.hasHeader then [c.header] else []) ++ t.rows.map (fun row => row[i]?.getD "")

/-- The blanks around a cell. -/
def padding : Nat := 2

def naturalWidths : List Nat :=
  t.columns.mapIdx (fun i c =>
    maximum ((t.cellsOf i c).map (fun s => widestLine 0 s.toList + padding)))

/-- The cells that the lines between and around the columns take. -/
def ruleCells : Nat := t.columns.length + 1

def widths (page : Nat) : List Nat :=
  let natural := t.naturalWidths
  shrinkWithin natural.sum (page - t.ruleCells) natural

def totalWidth (page : Nat) : Nat := (t.widths page).sum + t.ruleCells

/-- A horizontal rule: its ends, what it is drawn with, and what it crosses columns with. -/
def rule (left fill cross right : Char) (widths : List Nat) : List Char :=
  left :: [cross].intercalate (widths.map (fun w => List.replicate w fill)) ++ [right]

def cellLines (align : Align) (width : Nat) (text : String) : List (List Char) :=
  (wrap (width - padding) .ellipsis align text).map (fun line => ' ' :: line ++ [' '])

/-- A row: its cells side by side, each with as many lines as the highest one. -/
def rowLines (bar : Char) (widths : List Nat) (row : List String) : List (List Char) :=
  let columns := (t.columns.zip (widths.zip row)).map (fun (c, w, text) =>
    (w, cellLines c.align w text))
  let height := maximum (columns.map (fun c => c.2.length))
  (List.range height).map (fun i =>
    bar :: [bar].intercalate (columns.map (fun (w, lines) => lines[i]?.getD (blanks w))) ++ [bar])

def titleLines (width : Nat) : List (List Char) :=
  match t.title with
  | some title => wrap width .fold .center title
  | none => []

def headLines (widths : List Nat) : List (List Char) :=
  if t.hasHeader then
    [rule '┏' '━' '┳' '┓' widths] ++ t.rowLines '┃' widths (t.columns.map (·.header)) ++
      [rule '┡' '━' '╇' '┩' widths]
  else [rule '┌' '─' '┬' '┐' widths]

/-- The lines of the table on a page of the given width. -/
def lines (page : Nat) : List String :=
  let widths := t.widths page
  (t.titleLines (t.totalWidth page) ++ t.headLines widths ++
    t.rows.flatMap (t.rowLines '│' widths) ++ [rule '└' '─' '┴' '┘' widths]).map String.ofList

/-- The table with all markup taken out; none if a tag closes nothing. -/
def unmarked? : Option BoxTable := do
  let title ← t.title.mapM Markup.plain?
  let rows ← t.rows.mapM (fun row => row.mapM Markup.plain?)
  some { t with title, rows }

end BoxTable

end RepoAtlas.Report
