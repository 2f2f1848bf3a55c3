import RepoAtlas.Fault
import RepoAtlas.Text.CharClass
import RepoAtlas.Text.Pieces

/-!
Plain text tables. Columns are as wide as their longest cell and two blanks apart, the header
is underlined with dashes, and no line ends in blanks.
-/
namespace RepoAtlas.Report

open RepoAtlas.Text

/-- The width of each column: its longest cell. -/
def columnWidths (columns : Nat) (rows : List (List String)) : List Nat :=
  (List.range columns).map (fun i =>
    (rows.map (fun row => (row[i]?.getD "").length)).foldl max 0)

def lineChars (widths : List Nat) (row : List String) : List Char :=
  dropEndWhile isBlank
    ([' ', ' '].intercalate ((row.zip widths).map (fun (cell, w) => padRight w cell.toList)))

def tableLine (widths : List Nat) (row : List String) : String :=
  String.ofList (lineChars widths row)

def tableLines (headers : List String) (rows : List (List String)) : List String :=
  let widths := columnWidths headers.length (headers :: rows)
  tableLine widths headers ::
    tableLine widths (widths.map (fun w => String.ofList (List.replicate w '-'))) ::
    rows.map (tableLine widths)

/-- Every row needs one cell per header. -/
def textTable (headers : List String) (rows : List (List String)) : Result String :=
  if rows.all (·.length == headers.length) then .ok (joinWith "\n" (tableLines headers rows))
  else .error .raggedRow

end RepoAtlas.Report
