import Mathlib.Algebra.BigOperators.Group.List.Basic
import Mathlib.Data.List.DropRight
import Mathlib.Order.Bounds.Basic
import RepoAtlas.Proofs.Diagram.Chart
import RepoAtlas.Report.TextTable

/-!
Text tables can be read back by column. Every column has its place on all lines, and the cells of a
row stand there up to white space at their ends, also on a line that was cut short behind its last
text. The only tables without a text are those with a row that does not fit the headers.
-/
namespace RepoAtlas.Report

open RepoAtlas.Text

/-! ### Where the columns stand -/

/-- The lengths of the texts in a column. -/
def lengthsAt (table : List (List String)) (i : Nat) : Set Nat :=
  {n | ∃ row ∈ table, ∃ cell, row[i]? = some cell ∧ cell.length = n}

/-- One width for each column, the length of its longest text. -/
structure AreWidths (columns : Nat) (table : List (List String)) (widths : List Nat) : Prop where
  length : widths.length = columns
  longest : ∀ i w, widths[i]? = some w → IsGreatest (lengthsAt table i) w

/-- Where a column begins, behind those before it with two blanks after each. -/
def offset (widths : List Nat) (i : Nat) : Nat := ((widths.take i).map (· + 2)).sum

/-- The length of a line that holds all columns. -/
def fullWidth (widths : List Nat) : Nat := widths.sum + 2 * (widths.length - 1)

/-- What stands at the place of a column on a line that is filled up with blanks. -/
def fieldOn (line : List Char) (widths : List Nat) (i : Nat) : List Char :=
  ((padRight (fullWidth widths) line).drop (offset widths i)).take (widths[i]?.getD 0)

/-- Texts that differ at most in the white space at their ends. -/
def SameButEnd (s t : List Char) : Prop := s.rdropWhile isBlank = t.rdropWhile isBlank

/-- A line with the cells of a row, each at the place of its column. -/
structure Holds (widths : List Nat) (line : List Char) (row : List String) : Prop where
  length : row.length = widths.length
  fits : line.length ≤ fullWidth widths
  cells : ∀ i w cell, widths[i]? = some w → row[i]? = some cell →
    (fieldOn line widths i).length = w ∧ SameButEnd (fieldOn line widths i) cell.toList

/-- The cells of the line below the headers. -/
def dashes (widths : List Nat) : List String :=
  widths.map (fun w => String.ofList (List.replicate w '-'))

/-- The widths of a table, and its lines. -/
structure Layout where
  widths : List Nat
  head : List Char
  rule : List Char
  body : List (List Char)

/-- The text has a line for the headers, one of dashes and one for each row, and on each of them the
columns stand at their places. A header is free to hold line feeds, and its line is then more than
one of the text. -/
structure Layout.Shows (l : Layout) (headers : List String) (rows : List (List String))
    (text : String) : Prop where
  widths : AreWidths headers.length (headers :: rows) l.widths
  head : Holds l.widths l.head headers
  rule : Holds l.widths l.rule (dashes l.widths)
  body : List.Forall₂ (Holds l.widths) l.body rows
  lines : (∀ row ∈ rows, ∀ cell ∈ row, '\n' ∉ cell.toList) →
    splitAt '\n' text.toList = splitAt '\n' l.head ++ l.rule :: l.body
  oneHead : (∀ header ∈ headers, '\n' ∉ header.toList) → splitAt '\n' l.head = [l.head]

/-! ### White space at the end -/

theorem rdropWhile_append {p : Char → Bool} {s ending : List Char}
    (h : ∀ c ∈ ending, p c = true) : (s ++ ending).rdropWhile p = s.rdropWhile p := by
  rw [List.rdropWhile, List.reverse_append, List.dropWhile_append_of_pos, ← List.rdropWhile]
  exact fun c hc => h c (List.mem_reverse.1 hc)

theorem isBlank_of_mem_replicate {n : Nat} : ∀ c ∈ List.replicate n ' ', isBlank c = true := by
  intro c hc
  rw [List.eq_of_mem_replicate hc]
  rfl

theorem sameButEnd_padRight (width : Nat) (s : List Char) : SameButEnd (padRight width s) s :=
  rdropWhile_append isBlank_of_mem_replicate

/-- The white space behind a text does not count in any stretch of it. -/
theorem sameButEnd_stretch {s ending : List Char} (h : ∀ c ∈ ending, isBlank c = true)
    (start count : Nat) :
    SameButEnd (((s ++ ending).drop start).take count) ((s.drop start).take count) := by
  rw [List.drop_append, List.take_append]
  exact rdropWhile_append fun c hc => h c (List.mem_of_mem_drop (List.mem_of_mem_take hc))

/-! ### Texts with a separator between them -/

section Separated

variable (sep : List Char) {texts : List (List Char)}

/-- A joined text taken apart around one of the texts. -/
theorem intercalate_around {i : Nat} {x : List Char} (h : texts[i]? = some x) :
    ∃ later, sep.intercalate texts = (texts.take i).flatMap (· ++ sep) ++ (x ++ later) := by
  induction texts generalizing i with
  | nil => cases h
  | cons t rest ih =>
    cases i with
    | zero =>
      obtain rfl : t = x := Option.some.inj h
      cases rest with
      | nil => exact ⟨[], by simp⟩
      | cons next rest => exact ⟨sep ++ sep.intercalate (next :: rest), by simp⟩
    | succ i =>
      obtain ⟨later, hlater⟩ := ih h
      refine ⟨later, ?_⟩
      have hne : rest ≠ [] := by
        rintro rfl
        cases h
      rw [List.intercalate_cons_of_ne_nil hne, hlater, List.take_succ_cons, List.flatMap_cons]
      simp only [List.append_assoc]

/-- Each text stands behind the earlier ones and their separators. -/
theorem stretch_intercalate {i : Nat} {x : List Char} (h : texts[i]? = some x) :
    ((sep.intercalate texts).drop ((texts.take i).map (fun t => t.length + sep.length)).sum).take
      x.length = x := by
  obtain ⟨later, hlater⟩ := intercalate_around sep h
  have hlength : ((texts.take i).map (fun t => t.length + sep.length)).sum =
      ((texts.take i).flatMap (· ++ sep)).length := by
    simp only [List.length_flatMap, List.length_append]
  rw [hlater, hlength, List.drop_left, List.take_left]

theorem length_intercalate : (sep.intercalate texts).length =
    (texts.map List.length).sum + sep.length * (texts.length - 1) := by
  induction texts with
  | nil => simp
  | cons t rest ih =>
    cases rest with
    | nil => simp
    | cons next rest =>
      rw [List.intercalate_cons_cons, List.length_append, List.length_append, ih]
      simp only [List.map_cons, List.sum_cons, List.length_cons, Nat.add_sub_cancel, Nat.mul_succ]
      omega

variable {sep}

theorem mem_of_mem_intercalate {c : Char} (h : c ∈ sep.intercalate texts) :
    c ∈ sep ∨ ∃ t ∈ texts, c ∈ t := by
  induction texts with
  | nil => cases h
  | cons t rest ih =>
    cases rest with
    | nil => exact Or.inr ⟨t, List.mem_cons_self, by simpa using h⟩
    | cons next rest =>
      rw [List.intercalate_cons_cons, List.mem_append, List.mem_append] at h
      rcases h with (hfirst | hsep) | hrest
      · exact Or.inr ⟨t, List.mem_cons_self, hfirst⟩
      · exact Or.inl hsep
      · exact (ih hrest).imp_right fun ⟨u, hu, hc⟩ => ⟨u, List.mem_cons_of_mem t hu, hc⟩

end Separated

/-! ### Lines -/

section Line

variable {widths : List Nat} {row : List String}

/-- The cells of a row, filled up with blanks. -/
def paddedCells (widths : List Nat) (row : List String) : List (List Char) :=
  (row.zip widths).map (fun (cell, w) => padRight w cell.toList)

/-- The line of a row before it is cut short. -/
def fullLine (widths : List Nat) (row : List String) : List Char :=
  [' ', ' '].intercalate (paddedCells widths row)

theorem lineChars_append (widths : List Nat) (row : List String) :
    lineChars widths row ++ (fullLine widths row).rtakeWhile isBlank = fullLine widths row :=
  List.rdropWhile_append_rtakeWhile

/-- A width for each cell of a row, and none too small. -/
def HasRoom (widths : List Nat) (row : List String) : Prop :=
  List.Forall₂ (fun cell w => cell.length ≤ w) row widths

theorem map_length_paddedCells (h : HasRoom widths row) :
    (paddedCells widths row).map List.length = widths := by
  induction h with
  | nil => rfl
  | cons hcell _ ih =>
    rw [paddedCells, List.zip_cons_cons, List.map_cons, List.map_cons, ← paddedCells, ih,
      length_padRight, String.length_toList, Nat.max_eq_left hcell]

theorem length_fullLine (h : HasRoom widths row) :
    (fullLine widths row).length = fullWidth widths := by
  have hlengths := map_length_paddedCells h
  have hcount : (paddedCells widths row).length = widths.length := by
    simpa using congrArg List.length hlengths
  rw [fullLine, length_intercalate, hlengths, hcount, fullWidth]
  rfl

theorem padRight_of_length_eq {width : Nat} {s : List Char} (h : s.length = width) :
    padRight width s = s := by
  rw [padRight, h, Nat.sub_self, List.replicate_zero, List.append_nil]

section Cell

variable {i w : Nat} {cell : String} (hw : widths[i]? = some w) (hcell : row[i]? = some cell)

include hw hcell

theorem getElem?_paddedCells : (paddedCells widths row)[i]? = some (padRight w cell.toList) := by
  have hboth : (row.zip widths)[i]? = some (cell, w) :=
    List.getElem?_zip_eq_some.2 ⟨hcell, hw⟩
  rw [paddedCells, List.getElem?_map, hboth, Option.map_some]

theorem length_of_getElem? (h : HasRoom widths row) : (padRight w cell.toList).length = w := by
  have hlength := congrArg (·[i]?) (map_length_paddedCells h)
  simp only [List.getElem?_map, getElem?_paddedCells hw hcell, Option.map_some, hw] at hlength
  exact Option.some.inj hlength

/-- On a full line a padded cell stands at the place of its column. -/
theorem fieldOn_fullLine (h : HasRoom widths row) :
    fieldOn (fullLine widths row) widths i = padRight w cell.toList := by
  have hoffset : offset widths i = (((paddedCells widths row).take i).map
      (fun t => t.length + [' ', ' '].length)).sum := by
    conv_lhs => rw [offset, ← map_length_paddedCells h, ← List.map_take, List.map_map]
    rfl
  have hstretch := stretch_intercalate [' ', ' '] (getElem?_paddedCells hw hcell)
  rw [length_of_getElem? hw hcell h, ← hoffset] at hstretch
  rw [fieldOn, padRight_of_length_eq (length_fullLine h), hw]
  exact hstretch

end Cell

/-- White space that is cut off the end of a full line is made up for by blanks. -/
theorem fieldOn_cut {line ending : List Char} (hending : ∀ c ∈ ending, isBlank c = true)
    (hfull : (line ++ ending).length = fullWidth widths) (i : Nat) :
    (fieldOn line widths i).length = (fieldOn (line ++ ending) widths i).length ∧
      SameButEnd (fieldOn line widths i) (fieldOn (line ++ ending) widths i) := by
  rw [fieldOn, fieldOn, padRight_of_length_eq hfull]
  constructor
  · have hline : line.length ≤ fullWidth widths := by
      rw [← hfull, List.length_append]
      omega
    simp only [List.length_take, List.length_drop, length_padRight, Nat.max_eq_left hline, hfull]
  · -- behind the line there is white space only, on one side the blanks, on the other what was cut
    have hfilled := sameButEnd_stretch (s := line)
      (isBlank_of_mem_replicate (n := fullWidth widths - line.length)) (offset widths i)
      (widths[i]?.getD 0)
    exact hfilled.trans (sameButEnd_stretch hending _ _).symm

/-- A line that is cut short behind its last text still has each cell at its place. -/
theorem holds_lineChars (h : HasRoom widths row) : Holds widths (lineChars widths row) row := by
  have hcut := lineChars_append widths row
  have hlength : (lineChars widths row ++ (fullLine widths row).rtakeWhile isBlank).length =
      fullWidth widths := by
    rw [hcut, length_fullLine h]
  refine ⟨h.length_eq, ?_, fun i w cell hw hcell => ?_⟩
  · rw [← hlength, List.length_append]
    omega
  · obtain ⟨hsize, hsame⟩ := fieldOn_cut (fun _ => List.mem_rtakeWhile_imp) hlength i
    rw [hcut, fieldOn_fullLine hw hcell h] at hsize hsame
    exact ⟨hsize.trans (length_of_getElem? hw hcell h),
      hsame.trans (sameButEnd_padRight w cell.toList)⟩

/-- Line feeds come onto a line from its cells only. -/
theorem newline_notMem_lineChars (h : ∀ cell ∈ row, '\n' ∉ cell.toList) :
    '\n' ∉ lineChars widths row := by
  intro hmem
  have hfull : '\n' ∈ fullLine widths row := by
    rw [← lineChars_append]
    exact List.mem_append_left _ hmem
  rcases mem_of_mem_intercalate hfull with hsep | ⟨t, ht, hc⟩
  · revert hsep
    decide
  · obtain ⟨⟨cell, w⟩, hzip, rfl⟩ := List.mem_map.1 ht
    rcases List.mem_append.1 hc with hchar | hpad
    · exact h cell (List.of_mem_zip hzip).1 hchar
    · exact absurd (List.eq_of_mem_replicate hpad) (by decide)

theorem newline_notMem_dashes : ∀ cell ∈ dashes widths, '\n' ∉ cell.toList := by
  intro cell hcell hmem
  obtain ⟨w, -, rfl⟩ := List.mem_map.1 hcell
  rw [String.toList_ofList] at hmem
  exact absurd (List.eq_of_mem_replicate hmem) (by decide)

end Line

/-! ### Widths -/

section Widths

variable {columns : Nat} {table : List (List String)} {widths : List Nat}

theorem foldl_max_mem {lengths : List Nat} (hne : lengths ≠ []) :
    lengths.foldl max 0 ∈ lengths ∧ ∀ n ∈ lengths, n ≤ lengths.foldl max 0 := by
  have hmax : (0 :: lengths).max? = some (lengths.foldl max 0) := List.max?_cons'
  obtain ⟨hmem, hle⟩ := List.max?_eq_some_iff.1 hmax
  have hall : ∀ n ∈ lengths, n ≤ lengths.foldl max 0 := fun n hn =>
    hle n (List.mem_cons_of_mem 0 hn)
  refine ⟨?_, hall⟩
  rcases List.mem_cons.1 hmem with hzero | hmem
  · -- the greatest is 0, and so is every length
    obtain ⟨n, hn⟩ := List.exists_mem_of_ne_nil _ hne
    have hn0 := hall n hn
    rw [hzero] at hn0 ⊢
    rwa [Nat.le_zero.1 hn0] at hn
  · exact hmem

theorem getElem?_columnWidths {i : Nat} (h : i < columns) :
    (columnWidths columns table)[i]? =
      some ((table.map (fun row => (row[i]?.getD "").length)).foldl max 0) := by
  rw [columnWidths, List.getElem?_map, List.getElem?_range h, Option.map_some]

theorem length_columnWidths (columns : Nat) (table : List (List String)) :
    (columnWidths columns table).length = columns := by
  rw [columnWidths, List.length_map, List.length_range]

theorem areWidths_columnWidths (hne : table ≠ []) (h : ∀ row ∈ table, row.length = columns) :
    AreWidths columns table (columnWidths columns table) := by
  refine ⟨length_columnWidths columns table, fun i w hw => ?_⟩
  have hi : i < columns := by
    obtain ⟨hi, -⟩ := List.getElem?_eq_some_iff.1 hw
    rwa [length_columnWidths] at hi
  have hcell : ∀ row ∈ table, row[i]? = some (row[i]?.getD "") := by
    intro row hrow
    rw [List.getElem?_eq_getElem ((h row hrow).symm ▸ hi)]
    rfl
  rw [getElem?_columnWidths hi] at hw
  obtain rfl := Option.some.inj hw
  have hlengths : table.map (fun row => (row[i]?.getD "").length) ≠ [] :=
    mt List.map_eq_nil_iff.1 hne
  obtain ⟨hmem, hle⟩ := foldl_max_mem hlengths
  constructor
  · obtain ⟨row, hrow, hlength⟩ := List.mem_map.1 hmem
    exact ⟨row, hrow, row[i]?.getD "", hcell row hrow, hlength⟩
  · rintro n ⟨row, hrow, cell, hget, rfl⟩
    refine hle _ (List.mem_map.2 ⟨row, hrow, ?_⟩)
    rw [hget, Option.getD_some]

/-- The widths leave room for each row that has one cell per column. -/
theorem AreWidths.hasRoom (h : AreWidths columns table widths) {row : List String}
    (hrow : row ∈ table) (hlength : row.length = columns) : HasRoom widths row := by
  refine List.forall₂_iff_get.2 ⟨hlength.trans h.length.symm, fun i hi hw => ?_⟩
  exact (h.longest i _ (List.getElem?_eq_getElem hw)).2
    ⟨row, hrow, row[i], List.getElem?_eq_getElem hi, rfl⟩

theorem hasRoom_dashes : HasRoom widths (dashes widths) := by
  induction widths with
  | nil => exact .nil
  | cons w rest ih => exact .cons (by simp) ih

end Widths

/-! ### Cells and widths by their index -/

/-- The item at an index, which has to be there. -/
def itemAt {α : Type} (xs : List α) (i : Nat) : Result α :=
  xs[i]?.elim (.error .raggedRow) .ok

/-- The width of a column, for which each row is asked for its cell. -/
def widthAt (table : List (List String)) (i : Nat) : Result Nat := do
  let cells ← table.mapM (itemAt · i)
  return (cells.map String.length).foldl max 0

/-- A cell filled up to its width, which is asked for. -/
def paddedAt (widths : List Nat) (place : String × Nat) : Result (List Char) := do
  return padRight (← itemAt widths place.2) place.1.toList

def lineAt (widths : List Nat) (row : List String) : Result String := do
  let padded ← row.zipIdx.mapM (paddedAt widths)
  return String.ofList (dropEndWhile isBlank ([' ', ' '].intercalate padded))

/-- The table put together from cells and widths that are looked up by their index. -/
def tableByIndex (headers : List String) (rows : List (List String)) : Result String := do
  let widths ← (List.range headers.length).mapM (widthAt (headers :: rows))
  let lines ← (headers :: dashes widths :: rows).mapM (lineAt widths)
  return joinWith "\n" lines

theorem itemAt_cases {α : Type} (xs : List α) (i : Nat) (default : α) :
    xs.length ≤ i ∧ itemAt xs i = .error .raggedRow ∨
      ¬ xs.length ≤ i ∧ itemAt xs i = .ok (xs[i]?.getD default) := by
  rcases Nat.lt_or_ge i xs.length with hlt | hge
  · refine Or.inr ⟨Nat.not_le.2 hlt, ?_⟩
    rw [itemAt, List.getElem?_eq_getElem hlt]
    rfl
  · refine Or.inl ⟨hge, ?_⟩
    rw [itemAt, List.getElem?_eq_none hge]
    rfl

/-- A column has a width unless a row ends before it. -/
theorem widthAt_cases (table : List (List String)) (i : Nat) :
    (∃ row ∈ table, row.length ≤ i) ∧ widthAt table i = .error .raggedRow ∨
      (¬ ∃ row ∈ table, row.length ≤ i) ∧
        widthAt table i = .ok ((table.map (fun row => (row[i]?.getD "").length)).foldl max 0) := by
  rcases mapM_cases fun row (_ : row ∈ table) => itemAt_cases row i "" with
    ⟨hbad, hcells⟩ | ⟨hgood, hcells⟩
  · refine Or.inl ⟨hbad, ?_⟩
    rw [widthAt, hcells]
    rfl
  · refine Or.inr ⟨fun ⟨row, hrow, hshort⟩ => hgood row hrow hshort, ?_⟩
    rw [widthAt, hcells]
    exact congrArg (fun lengths => Except.ok (lengths.foldl max 0)) List.map_map

theorem paddedAt_cases (widths : List Nat) (place : String × Nat) :
    widths.length ≤ place.2 ∧ paddedAt widths place = .error .raggedRow ∨
      ¬ widths.length ≤ place.2 ∧
        paddedAt widths place = .ok (padRight (widths[place.2]?.getD 0) place.1.toList) := by
  rcases itemAt_cases widths place.2 0 with ⟨hlong, hitem⟩ | ⟨hthere, hitem⟩
  · exact Or.inl ⟨hlong, by rw [paddedAt, hitem]; rfl⟩
  · exact Or.inr ⟨hthere, by rw [paddedAt, hitem]; rfl⟩

theorem exists_zipIdx_iff {n : Nat} {row : List String} :
    (∃ place ∈ row.zipIdx, n ≤ place.2) ↔ n < row.length := by
  constructor
  · rintro ⟨⟨cell, i⟩, hplace, hle⟩
    obtain ⟨hi, -⟩ := List.getElem?_eq_some_iff.1 (List.mem_zipIdx_iff_getElem?.1 hplace)
    exact Nat.lt_of_le_of_lt hle hi
  · intro hlt
    exact ⟨(row[n], n), List.mem_zipIdx_iff_getElem?.2 (List.getElem?_eq_getElem hlt),
      Nat.le_refl n⟩

theorem map_zipIdx_padRight {widths : List Nat} {row : List String}
    (h : row.length ≤ widths.length) :
    row.zipIdx.map (fun place => padRight (widths[place.2]?.getD 0) place.1.toList) =
      paddedCells widths row := by
  refine List.ext_getElem? fun i => ?_
  rw [List.getElem?_map, List.getElem?_zipIdx, Nat.zero_add]
  rcases Nat.lt_or_ge i row.length with hlt | hge
  · have hw := List.getElem?_eq_getElem (Nat.lt_of_lt_of_le hlt h)
    have hcell := List.getElem?_eq_getElem hlt
    rw [getElem?_paddedCells hw hcell, hcell, Option.map_some, Option.map_some, hw,
      Option.getD_some]
  · have hpadded : (paddedCells widths row).length ≤ i := by
      rw [paddedCells, List.length_map, List.length_zip]
      omega
    rw [List.getElem?_eq_none hge, List.getElem?_eq_none hpadded]
    rfl

/-- A row has a line unless it goes on behind the last column. -/
theorem lineAt_cases (widths : List Nat) (row : List String) :
    widths.length < row.length ∧ lineAt widths row = .error .raggedRow ∨
      ¬ widths.length < row.length ∧ lineAt widths row = .ok (tableLine widths row) := by
  rcases mapM_cases fun place (_ : place ∈ row.zipIdx) => paddedAt_cases widths place with
    ⟨hbad, hcells⟩ | ⟨hgood, hcells⟩
  · refine Or.inl ⟨exists_zipIdx_iff.1 hbad, ?_⟩
    rw [lineAt, hcells]
    rfl
  · have hfits : ¬ widths.length < row.length := fun hlt =>
      (exists_zipIdx_iff.2 hlt).elim fun place h => hgood place h.1 h.2
    refine Or.inr ⟨hfits, ?_⟩
    rw [lineAt, hcells, map_zipIdx_padRight (Nat.not_lt.1 hfits)]
    rfl

section Table

variable {headers : List String} {rows : List (List String)}

/-- All columns have widths unless a row ends before the last one. -/
theorem widths_cases (headers : List String) (rows : List (List String)) :
    (∃ row ∈ rows, row.length < headers.length) ∧
        (List.range headers.length).mapM (widthAt (headers :: rows)) = .error .raggedRow ∨
      (∀ row ∈ rows, headers.length ≤ row.length) ∧
        (List.range headers.length).mapM (widthAt (headers :: rows)) =
          .ok (columnWidths headers.length (headers :: rows)) := by
  rcases mapM_cases fun i (_ : i ∈ List.range headers.length) =>
      widthAt_cases (headers :: rows) i with
    ⟨⟨i, hi, row, hrow, hshort⟩, hwidths⟩ | ⟨hreach, hwidths⟩
  · have hlt : row.length < headers.length := Nat.lt_of_le_of_lt hshort (List.mem_range.1 hi)
    refine Or.inl ⟨⟨row, (List.mem_cons.1 hrow).resolve_left ?_, hlt⟩, hwidths⟩
    rintro rfl
    exact Nat.lt_irrefl _ hlt
  · refine Or.inr ⟨fun row hrow => Nat.not_lt.1 fun hlt => ?_, hwidths⟩
    exact hreach _ (List.mem_range.2 hlt) ⟨row, List.mem_cons_of_mem _ hrow, Nat.le_refl _⟩

/-- All rows have lines unless one goes on behind the last column. -/
theorem lines_cases {widths : List Nat} (hcolumns : widths.length = headers.length)
    (rows : List (List String)) :
    (∃ row ∈ rows, headers.length < row.length) ∧
        (headers :: dashes widths :: rows).mapM (lineAt widths) = .error .raggedRow ∨
      (∀ row ∈ rows, row.length ≤ headers.length) ∧
        (headers :: dashes widths :: rows).mapM (lineAt widths) =
          .ok ((headers :: dashes widths :: rows).map (tableLine widths)) := by
  have hdashes : (dashes widths).length = widths.length := List.length_map _
  rcases mapM_cases fun row (_ : row ∈ headers :: dashes widths :: rows) =>
      lineAt_cases widths row with ⟨⟨row, hrow, hlong⟩, hlines⟩ | ⟨hends, hlines⟩
  · refine Or.inl ⟨⟨row, ?_, hcolumns ▸ hlong⟩, hlines⟩
    rcases List.mem_cons.1 hrow with rfl | hrow
    · omega
    · refine (List.mem_cons.1 hrow).resolve_left ?_
      rintro rfl
      omega
  · refine Or.inr ⟨fun row hrow => ?_, hlines⟩
    rw [← hcolumns]
    exact Nat.not_lt.1 (hends row (List.mem_cons_of_mem _ (List.mem_cons_of_mem _ hrow)))

/-- A look-up fails just if a row has not one cell for each header. -/
theorem tableByIndex_cases (headers : List String) (rows : List (List String)) :
    (∃ row ∈ rows, row.length ≠ headers.length) ∧
        tableByIndex headers rows = .error .raggedRow ∨
      (∀ row ∈ rows, row.length = headers.length) ∧
        tableByIndex headers rows = .ok (joinWith "\n" (tableLines headers rows)) := by
  rcases widths_cases headers rows with ⟨⟨row, hrow, hshort⟩, hwidths⟩ | ⟨hreach, hwidths⟩
  · refine Or.inl ⟨⟨row, hrow, hshort.ne⟩, ?_⟩
    rw [tableByIndex, hwidths]
    rfl
  · rcases lines_cases (length_columnWidths headers.length (headers :: rows)) rows with
      ⟨⟨row, hrow, hlong⟩, hlines⟩ | ⟨hends, hlines⟩
    · refine Or.inl ⟨⟨row, hrow, hlong.ne'⟩, ?_⟩
      rw [tableByIndex, hwidths]
      exact congrArg (· >>= fun lines => pure (joinWith "\n" lines)) hlines
    · refine Or.inr ⟨fun row hrow => Nat.le_antisymm (hends row hrow) (hreach row hrow), ?_⟩
      rw [tableByIndex, hwidths]
      exact congrArg (· >>= fun lines => pure (joinWith "\n" lines)) hlines

theorem textTable_of_regular (h : ∀ row ∈ rows, row.length = headers.length) :
    textTable headers rows = .ok (joinWith "\n" (tableLines headers rows)) := by
  rw [textTable, if_pos]
  simpa using h

theorem textTable_of_ragged (h : ∃ row ∈ rows, row.length ≠ headers.length) :
    textTable headers rows = .error .raggedRow := by
  rw [textTable, if_neg]
  simpa using h

theorem textTable_eq_tableByIndex (headers : List String) (rows : List (List String)) :
    textTable headers rows = tableByIndex headers rows := by
  rcases tableByIndex_cases headers rows with ⟨hragged, hindex⟩ | ⟨hregular, hindex⟩
  · rw [hindex, textTable_of_ragged hragged]
  · rw [hindex, textTable_of_regular hregular]

/-! ### The table -/

/-- The lines of a table before they are joined. -/
def layoutOf (headers : List String) (rows : List (List String)) : Layout :=
  let widths := columnWidths headers.length (headers :: rows)
  ⟨widths, lineChars widths headers, lineChars widths (dashes widths), rows.map (lineChars widths)⟩

theorem toList_joinWith_cons (line next : String) (rest : List String) :
    (joinWith "\n" (line :: next :: rest)).toList =
      line.toList ++ '\n' :: (joinWith "\n" (next :: rest)).toList := by
  rw [joinWith, String.intercalate_cons_cons, joinWith]
  simp

/-- The line of the headers is cut where they hold line feeds, and no other line is. -/
theorem splitAt_tableLines (h : ∀ row ∈ rows, ∀ cell ∈ row, '\n' ∉ cell.toList) :
    splitAt '\n' (joinWith "\n" (tableLines headers rows)).toList =
      splitAt '\n' (layoutOf headers rows).head ++
        (layoutOf headers rows).rule :: (layoutOf headers rows).body := by
  have hlines : ∀ widths, ∀ line ∈ (dashes widths :: rows).map (tableLine widths),
      '\n' ∉ line.toList := by
    intro widths line hline
    obtain ⟨row, hrow, rfl⟩ := List.mem_map.1 hline
    rw [tableLine, String.toList_ofList]
    refine newline_notMem_lineChars ?_
    rcases List.mem_cons.1 hrow with rfl | hrow
    · exact newline_notMem_dashes
    · exact h row hrow
  let widths := columnWidths headers.length (headers :: rows)
  have htable : tableLines headers rows =
      tableLine widths headers :: (dashes widths :: rows).map (tableLine widths) := rfl
  rw [htable, List.map_cons, toList_joinWith_cons, FileTree.splitAt_join, ← List.map_cons,
    Diagram.splitAt_joinWith (by simp) (hlines widths), tableLine, String.toList_ofList,
    List.map_map, List.map_cons]
  have hchars : String.toList ∘ tableLine widths = lineChars widths :=
    funext fun row => String.toList_ofList
  rw [hchars]
  rfl

theorem layoutOf_shows (h : ∀ row ∈ rows, row.length = headers.length) :
    (layoutOf headers rows).Shows headers rows (joinWith "\n" (tableLines headers rows)) := by
  have htable : ∀ row ∈ headers :: rows, row.length = headers.length :=
    List.forall_mem_cons.2 ⟨rfl, h⟩
  have hwidths := areWidths_columnWidths (List.cons_ne_nil headers rows) htable
  have hholds : ∀ row ∈ headers :: rows,
      Holds (layoutOf headers rows).widths (lineChars (layoutOf headers rows).widths row) row :=
    fun row hrow => holds_lineChars (hwidths.hasRoom hrow (htable row hrow))
  exact {
    widths := hwidths
    head := hholds headers List.mem_cons_self
    rule := holds_lineChars hasRoom_dashes
    body := List.forall₂_map_left_iff.2
      (List.forall₂_same.2 fun row hrow => hholds row (List.mem_cons_of_mem _ hrow))
    lines := splitAt_tableLines
    oneHead := fun hone => FileTree.splitAt_of_notMem (newline_notMem_lineChars hone) }

/-- A table has no text just if a row has not one cell for each header: then a cell or a width is
looked up that is not there. In the text of any other table each cell stands at the place of its
column, up to white space at its end. -/
theorem textTable_readsByColumn (headers : List String) (rows : List (List String)) :
    textTable headers rows = tableByIndex headers rows ∧
    (textTable headers rows = .error .raggedRow ↔ ∃ row ∈ rows, row.length ≠ headers.length) ∧
    ((∀ row ∈ rows, row.length = headers.length) → ∃ text layout,
      textTable headers rows = .ok text ∧ Layout.Shows layout headers rows text) := by
  refine ⟨textTable_eq_tableByIndex headers rows, ?_,
    fun hregular => ⟨_, _, textTable_of_regular hregular, layoutOf_shows hregular⟩⟩
  rw [textTable_eq_tableByIndex]
  rcases tableByIndex_cases headers rows with ⟨hragged, hindex⟩ | ⟨hregular, hindex⟩
  · exact iff_of_true hindex hragged
  · rw [hindex]
    exact iff_of_false nofun fun ⟨row, hrow, hne⟩ => hne (hregular row hrow)

end Table

/-- Cells that end in white space, or hold nothing else. -/
def blankCells : List (List String) := [["web\t", "x "], ["", "\u3000"]]

/-- Of the last row nothing is left on its line, and its cells are read back from blanks. -/
theorem textTable_readsByColumn_blankCells :
    (∀ row ∈ blankCells, row.length = ["name", ""].length) ∧
    (∀ row ∈ blankCells, ∀ cell ∈ row, '\n' ∉ cell.toList) ∧
    textTable ["name", ""] blankCells = .ok "name\n----  --\nweb\t  x\n" ∧
    ∃ layout : Layout, layout.Shows ["name", ""] blankCells "name\n----  --\nweb\t  x\n" ∧
      splitAt '\n' "name\n----  --\nweb\t  x\n".toList =
        layout.head :: layout.rule :: layout.body := by
  have hregular : ∀ row ∈ blankCells, row.length = ["name", ""].length := by decide
  have hone : ∀ row ∈ blankCells, ∀ cell ∈ row, '\n' ∉ cell.toList := by decide
  have htext : textTable ["name", ""] blankCells = .ok "name\n----  --\nweb\t  x\n" := by
    decide +kernel
  obtain ⟨text, layout, hfound, hshows⟩ :=
    (textTable_readsByColumn ["name", ""] blankCells).2.2 hregular
  obtain rfl := Except.ok.inj (hfound.symm.trans htext)
  refine ⟨hregular, hone, htext, layout, hshows, ?_⟩
  rw [hshows.lines hone, hshows.oneHead (by decide), List.singleton_append]

end RepoAtlas.Report
