import RepoAtlas.Diagram.Parts
import RepoAtlas.Proofs.Diagram.UniqueIds
import RepoAtlas.Proofs.Files.Folders
import RepoAtlas.Proofs.Outcome

/-!
Reading flowcharts back. A chart is cut into its lines and each line is read by itself, so a chart
says what was drawn if no identifier and no label can be taken for anything else.
-/
namespace RepoAtlas.Diagram

open RepoAtlas.Text

/-- What one line of a flowchart says. -/
inductive Statement where
  | node (id label : String)
  | link (source arrow : String) (label : Option String) (target : String)
  | frame (id title : String)
  | other (line : String)
  deriving DecidableEq, Repr

namespace Statement

def labels : Statement → List String
  | .node _ label => [label]
  | .link _ _ label _ => label.toList
  | .frame _ title => [title]
  | .other _ => []

/-- The identifier that a line declares for a node. -/
@[simp]
def declared? : Statement → Option String
  | .node id _ => some id
  | _ => none

/-- The identifiers that a line joins. -/
@[simp]
def linked? : Statement → Option (String × String)
  | .link source _ _ target => some (source, target)
  | _ => none

/-- The identifier that a line declares for a box. -/
@[simp]
def framed? : Statement → Option String
  | .frame id _ => some id
  | _ => none

end Statement

/-! ### Reading a line -/

def isStroke (c : Char) : Bool := c == '-' || c == '=' || c == '.' || c == '>'

/-- The text before the next double quote, and what follows it. -/
def readQuoted? (s : List Char) : Option (String × List Char) :=
  match s.dropWhile (· ≠ '"') with
  | '"' :: rest => some (String.ofList (s.takeWhile (· ≠ '"')), rest)
  | _ => none

/-- An identifier and a title, and nothing behind them. -/
def readTitled? (s : List Char) : Option (String × String) :=
  match s.dropWhile isIdChar with
  | '[' :: '"' :: rest =>
    match readQuoted? rest with
    | some (title, [']']) => some (String.ofList (s.takeWhile isIdChar), title)
    | _ => none
  | _ => none

/-- The rest of a link behind its arrow. -/
def readTarget? (source arrow : String) (s : List Char) : Option Statement :=
  match s with
  | ' ' :: target => some (.link source arrow none (String.ofList target))
  | '|' :: '"' :: rest =>
    match readQuoted? rest with
    | some (label, '|' :: ' ' :: target) =>
      some (.link source arrow (some label) (String.ofList target))
    | _ => none
  | _ => none

def readLink? (s : List Char) : Option Statement :=
  match s.dropWhile isIdChar with
  | ' ' :: rest =>
    let arrow := rest.takeWhile isStroke
    if arrow.isEmpty then none
    else readTarget? (String.ofList (s.takeWhile isIdChar)) (String.ofList arrow)
      (rest.dropWhile isStroke)
  | _ => none

def frameWord : List Char := "subgraph ".toList

def readFrame? (s : List Char) : Option Statement :=
  if frameWord.isPrefixOf s then
    (readTitled? (s.drop frameWord.length)).map (fun b => .frame b.1 b.2)
  else none

def readStatement? (s : List Char) : Option Statement :=
  ((readTitled? s).map (fun b => .node b.1 b.2)).or ((readLink? s).or (readFrame? s))

/-- Blanks in front do not count, and a line of no other form speaks for itself. -/
def readLine (line : List Char) : Statement :=
  (readStatement? (line.dropWhile (· = ' '))).getD (.other (String.ofList line))

def readChart (text : String) : List Statement := (splitAt '\n' text.toList).map readLine

/-! ### Labels -/

/-- A label that nothing in it can end or break. -/
def IsSafe (label : String) : Prop :=
  ∀ c ∈ label.toList, c ≠ '"' ∧ c ≠ '<' ∧ c ≠ '>' ∧ isLineBoundary c = false

instance (label : String) : Decidable (IsSafe label) :=
  List.decidableBAll _ label.toList

theorem IsSafe.append {s t : String} (hs : IsSafe s) (ht : IsSafe t) : IsSafe (s ++ t) := by
  intro c hc
  rw [String.toList_append, List.mem_append] at hc
  exact hc.elim (hs c) (ht c)

theorem IsSafe.quote {label : String} (h : IsSafe label) : '"' ∉ label.toList :=
  fun hc => (h _ hc).1 rfl

theorem IsSafe.oneLine {label : String} (h : IsSafe label) : '\n' ∉ label.toList :=
  fun hc => absurd (h _ hc).2.2.2 (by decide)

theorem isLineBoundary_digit {c : Char} (h : isAsciiDigit c = true) : isLineBoundary c = false := by
  rw [isAsciiDigit, Bool.and_eq_true, decide_eq_true_iff, decide_eq_true_iff] at h
  have hlow : 48 ≤ c.toNat := h.1
  have hhigh : c.toNat ≤ 57 := h.2
  rw [← Bool.not_eq_true]
  simp only [isLineBoundary, Bool.or_eq_true, Bool.and_eq_true, decide_eq_true_eq, beq_iff_eq]
  omega

theorem isSafe_toString (n : Nat) : IsSafe (toString n) := by
  intro c hc
  rw [Numeral.toList_toString] at hc
  have hdigit := Numeral.allDigits_toDigits n c hc
  have hne : ∀ d, isAsciiDigit d = false → c ≠ d := by
    rintro d hd rfl
    rw [hd] at hdigit
    cases hdigit
  exact ⟨hne _ rfl, hne _ rfl, hne _ rfl, isLineBoundary_digit hdigit⟩

theorem isSafe_toString_int (i : Int) : IsSafe (toString i) := by
  cases i with
  | ofNat n => exact isSafe_toString n
  | negSucc n => exact IsSafe.append (by decide : IsSafe "-") (isSafe_toString (n + 1))

theorem mem_of_mem_collapseBlanks {c : Char} {s : List Char} (h : c ∈ collapseBlanks s) :
    c = ' ' ∨ c ∈ s := by
  induction s with
  | nil => cases h
  | cons x rest ih =>
    unfold collapseBlanks at h
    split at h
    · split at h
      · exact Or.inl (List.mem_singleton.1 h)
      · split at h
        · exact (ih h).imp_right (List.mem_cons_of_mem x)
        · rcases List.mem_cons.1 h with hblank | h
          · exact Or.inl hblank
          · exact (ih h).imp_right (List.mem_cons_of_mem x)
    · rcases List.mem_cons.1 h with rfl | h
      · exact Or.inr List.mem_cons_self
      · exact (ih h).imp_right (List.mem_cons_of_mem x)

theorem mem_of_mem_trimWhile {p : Char → Bool} {c : Char} {s : List Char}
    (h : c ∈ trimWhile p s) : c ∈ s := by
  rw [trimWhile, dropEndWhile, List.mem_reverse] at h
  have hdropped := (List.dropWhile_sublist _).subset h
  rw [List.mem_reverse] at hdropped
  exact (List.dropWhile_sublist _).subset hdropped

theorem mem_of_mem_takeInt {α : Type} {n : Int} {x : α} {xs : List α} (h : x ∈ takeInt n xs) :
    x ∈ xs := by
  rw [takeInt] at h
  split at h
  · exact List.mem_of_mem_take h
  · exact List.mem_of_mem_take h

/-- Every text becomes a safe label. -/
theorem isSafe_labelWithin (maxLength : Int) (s : String) : IsSafe (labelWithin maxLength s) := by
  intro c hc
  rw [labelWithin, String.toList_ofList, labelChars] at hc
  have hcollapsed := mem_of_mem_trimWhile (mem_of_mem_takeInt hc)
  have hbreak := isLineBoundary_eq_false_of_mem_collapseBlanks hcollapsed
  rcases mem_of_mem_collapseBlanks hcollapsed with rfl | hmem
  · exact ⟨by decide, by decide, by decide, hbreak⟩
  · obtain ⟨d, -, hd⟩ := List.mem_filterMap.1 hmem
    split at hd
    · obtain rfl := Option.some.inj hd
      exact ⟨by decide, by decide, by decide, hbreak⟩
    next hquote =>
      split at hd
      · cases hd
      next hangle =>
        obtain rfl := Option.some.inj hd
        exact ⟨hquote, fun h => hangle (Or.inl h), fun h => hangle (Or.inr h), hbreak⟩

theorem isSafe_label (s : String) : IsSafe (label s) := isSafe_labelWithin _ s

/-- The line is one line and says the statement, with safe labels. -/
structure Reads (line : String) (s : Statement) : Prop where
  oneLine : '\n' ∉ line.toList
  statement : readLine line.toList = s
  safe : ∀ l ∈ s.labels, IsSafe l

/-! ### Lines that read back -/

instance (line : String) (s : Statement) : Decidable (Reads line s) :=
  decidable_of_iff ('\n' ∉ line.toList ∧ readLine line.toList = s ∧ ∀ l ∈ s.labels, IsSafe l)
    ⟨fun h => ⟨h.1, h.2.1, h.2.2⟩, fun h => ⟨h.oneLine, h.statement, h.safe⟩⟩

/-- A run of characters of one sort ends where the next is of another. -/
theorem split_run {p : Char → Bool} {s rest : List Char} (hs : ∀ c ∈ s, p c = true)
    (hrest : ∀ c ∈ rest.head?, p c = false) :
    (s ++ rest).takeWhile p = s ∧ (s ++ rest).dropWhile p = rest := by
  have hstop : rest.takeWhile p = [] ∧ rest.dropWhile p = rest := by
    cases rest with
    | nil => exact ⟨rfl, rfl⟩
    | cons c tail => simp [hrest c rfl]
  rw [List.takeWhile_append_of_pos hs, List.dropWhile_append_of_pos hs, hstop.1, hstop.2,
    List.append_nil]
  exact ⟨rfl, rfl⟩

theorem readQuoted?_append {text rest : List Char} (h : '"' ∉ text) :
    readQuoted? (text ++ '"' :: rest) = some (String.ofList text, rest) := by
  have hrun := @split_run (· ≠ '"') text ('"' :: rest)
    (fun c hc => decide_eq_true fun heq => h (heq ▸ hc)) (fun c hc => by cases hc; rfl)
  rw [readQuoted?, hrun.1, hrun.2]
  rfl

section Identifier

variable {id : String} (h : IsIdentifier id)

include h

theorem IsIdentifier.split (rest : List Char) (hrest : ∀ c ∈ rest.head?, isIdChar c = false) :
    (id.toList ++ rest).takeWhile isIdChar = id.toList ∧
      (id.toList ++ rest).dropWhile isIdChar = rest :=
  split_run h.chars hrest

theorem IsIdentifier.isIdChar_start (rest : List Char) :
    ∀ c ∈ (id.toList ++ rest).head?, isIdChar c = true := by
  obtain ⟨d, hd, -⟩ := h.start
  rw [List.head?_append, hd]
  intro c hc
  obtain rfl : d = c := Option.some.inj hc
  exact h.chars _ (List.mem_of_head? hd)

/-- No blank and no arrow is taken for the start of an identifier. -/
theorem IsIdentifier.start_ne (rest : List Char) :
    ∀ c ∈ (id.toList ++ rest).head?, c ≠ ' ' ∧ isStroke c = false := by
  intro c hc
  have hchar := h.isIdChar_start rest c hc
  constructor
  · rintro rfl
    cases hchar
  · rw [← Bool.not_eq_true, isStroke]
    simp only [Bool.or_eq_true, beq_iff_eq]
    rintro (((rfl | rfl) | rfl) | rfl) <;> cases hchar

theorem IsIdentifier.oneLine : '\n' ∉ id.toList := by
  intro hc
  cases h.chars _ hc

end Identifier

theorem toList_titled (id title : String) :
    (titled id title).toList = id.toList ++ '[' :: '"' :: (title.toList ++ '"' :: [']']) := by
  simp [titled]

theorem readTitled?_titled {id title : String} (hid : IsIdentifier id)
    (htitle : '"' ∉ title.toList) : readTitled? (titled id title).toList = some (id, title) := by
  obtain ⟨htake, hdrop⟩ := hid.split ('[' :: '"' :: (title.toList ++ '"' :: [']']))
    (fun c hc => by cases hc; rfl)
  rw [toList_titled, readTitled?, htake, hdrop]
  simp only [readQuoted?_append htitle, String.ofList_toList]

theorem readTitled?_blank {id : String} (hid : IsIdentifier id) (rest : List Char) :
    readTitled? (id.toList ++ ' ' :: rest) = none := by
  obtain ⟨-, hdrop⟩ := hid.split (' ' :: rest) (fun c hc => by cases hc; rfl)
  rw [readTitled?, hdrop]
  rfl

/-- A word that arrows are made of. -/
structure IsArrow (arrow : String) : Prop where
  strokes : ∀ c ∈ arrow.toList, isStroke c = true
  ne_empty : arrow ≠ ""

instance (arrow : String) : Decidable (IsArrow arrow) :=
  decidable_of_iff (arrow.toList.all isStroke = true ∧ arrow ≠ "") <| by
    rw [List.all_eq_true]
    exact ⟨fun h => ⟨h.1, h.2⟩, fun h => ⟨h.strokes, h.ne_empty⟩⟩

/-- What a link is read from, behind its source. -/
theorem readLink?_arrow {source arrow : String} (hsource : IsIdentifier source)
    (harrow : IsArrow arrow) {rest : List Char} (hrest : ∀ c ∈ rest.head?, isStroke c = false) :
    readLink? (source.toList ++ ' ' :: (arrow.toList ++ rest)) = readTarget? source arrow rest := by
  obtain ⟨htake, hdrop⟩ := hsource.split (' ' :: (arrow.toList ++ rest))
    (fun c hc => by cases hc; rfl)
  obtain ⟨hstrokes, hbehind⟩ := split_run harrow.strokes hrest
  have hnonempty : arrow.toList.isEmpty = false := by
    rw [List.isEmpty_eq_false_iff]
    exact fun h => harrow.ne_empty (String.toList_inj.1 h)
  rw [readLink?, htake, hdrop]
  simp only [hstrokes, hbehind, hnonempty, Bool.false_eq_true, if_false, String.ofList_toList]

theorem toList_linked (source arrow target : String) :
    (linked source arrow none target).toList =
      source.toList ++ ' ' :: (arrow.toList ++ ' ' :: target.toList) := by
  simp [linked]

theorem toList_linked_some (source arrow label target : String) :
    (linked source arrow (some label) target).toList = source.toList ++ ' ' ::
      (arrow.toList ++ '|' :: '"' :: (label.toList ++ '"' :: '|' :: ' ' :: target.toList)) := by
  simp [linked]

theorem readLink?_linked {source arrow target : String} {label : Option String}
    (hsource : IsIdentifier source) (harrow : IsArrow arrow)
    (hlabel : ∀ l ∈ label, '"' ∉ l.toList) :
    readLink? (linked source arrow label target).toList =
      some (.link source arrow label target) := by
  cases label with
  | none =>
    rw [toList_linked, readLink?_arrow hsource harrow (fun c hc => by cases hc; rfl)]
    simp only [readTarget?, String.ofList_toList]
  | some l =>
    rw [toList_linked_some, readLink?_arrow hsource harrow (fun c hc => by cases hc; rfl)]
    simp only [readTarget?, readQuoted?_append (hlabel l rfl), String.ofList_toList]

/-- Behind its source, a link goes on with a blank. -/
theorem exists_toList_linked (source arrow target : String) (label : Option String) :
    ∃ rest, (linked source arrow label target).toList = source.toList ++ ' ' :: rest := by
  cases label with
  | none => exact ⟨_, toList_linked source arrow target⟩
  | some l => exact ⟨_, toList_linked_some source arrow l target⟩

/-- A word in front of a blank and something else than an arrow is no link. -/
theorem readLink?_word {word : String} (hword : IsIdentifier word) {rest : List Char}
    (hrest : ∀ c ∈ rest.head?, isStroke c = false) :
    readLink? (word.toList ++ ' ' :: rest) = none := by
  obtain ⟨-, hdrop⟩ := hword.split (' ' :: rest) (fun c hc => by cases hc; rfl)
  have hnone := (@split_run isStroke [] rest (fun _ h => nomatch h) hrest).1
  rw [List.nil_append] at hnone
  rw [readLink?, hdrop]
  simp only [hnone, List.isEmpty_nil, if_true]

/-! ### Indented lines -/

theorem blank_indent : ∀ c ∈ "    ".toList, c = ' ' :=
  fun _ hc => List.eq_of_mem_replicate (show _ ∈ List.replicate 4 ' ' from hc)

theorem blank_deepIndent : ∀ c ∈ "        ".toList, c = ' ' :=
  fun _ hc => List.eq_of_mem_replicate (show _ ∈ List.replicate 8 ' ' from hc)

section Indented

variable {indent : String} (hindent : ∀ c ∈ indent.toList, c = ' ')

include hindent

theorem readLine_indented {s : String}
    (hstart : ∀ c ∈ s.toList.head?, c ≠ ' ' ∧ isStroke c = false) :
    readLine (indent ++ s).toList =
      (readStatement? s.toList).getD (.other (indent ++ s)) := by
  have hblank := (@split_run (· = ' ') indent.toList s.toList
    (fun c hc => decide_eq_true (hindent c hc)) (fun c hc => decide_eq_false (hstart c hc).1)).2
  rw [readLine, String.toList_append, hblank, ← String.toList_append, String.ofList_toList]

theorem oneLine_indented {s : String} (h : '\n' ∉ s.toList) : '\n' ∉ (indent ++ s).toList := by
  rw [String.toList_append, List.mem_append, not_or]
  exact ⟨fun hc => absurd (hindent _ hc) (by decide), h⟩

theorem reads_node {id title : String} (hid : IsIdentifier id) (htitle : IsSafe title) :
    Reads (indent ++ titled id title) (.node id title) where
  oneLine := by
    refine oneLine_indented hindent ?_
    rw [toList_titled]
    simp [hid.oneLine, htitle.oneLine]
  statement := by
    have hstart := hid.start_ne ('[' :: '"' :: (title.toList ++ '"' :: [']']))
    rw [← toList_titled] at hstart
    rw [readLine_indented hindent hstart, readStatement?, readTitled?_titled hid htitle.quote]
    rfl
  safe := fun _ hl => List.mem_singleton.1 hl ▸ htitle

theorem reads_link {source arrow target : String} {label : Option String}
    (hsource : IsIdentifier source) (harrow : IsArrow arrow) (hlabel : ∀ l ∈ label, IsSafe l)
    (htarget : IsIdentifier target) :
    Reads (indent ++ linked source arrow label target) (.link source arrow label target) where
  oneLine := by
    have harrowline : '\n' ∉ arrow.toList := fun hc => by cases harrow.strokes _ hc
    refine oneLine_indented hindent ?_
    cases label with
    | none =>
      rw [toList_linked]
      simp [hsource.oneLine, harrowline, htarget.oneLine]
    | some l =>
      rw [toList_linked_some]
      simp [hsource.oneLine, harrowline, (hlabel l rfl).oneLine, htarget.oneLine]
  statement := by
    obtain ⟨rest, hrest⟩ := exists_toList_linked source arrow target label
    have hstart := hsource.start_ne (' ' :: rest)
    have hnode := readTitled?_blank hsource rest
    rw [← hrest] at hstart hnode
    rw [readLine_indented hindent hstart, readStatement?, hnode,
      readLink?_linked hsource harrow (fun l hl => (hlabel l hl).quote)]
    rfl
  safe := fun l hl => hlabel l (Option.mem_toList.1 hl)

/-- A line that begins with a word and has no arrow behind it. -/
theorem readLine_word {word : String} (hword : IsIdentifier word) {s : String}
    (hs : ∀ c ∈ s.toList.head?, isStroke c = false) :
    readLine (indent ++ (word ++ " " ++ s)).toList =
      (readFrame? (word ++ " " ++ s).toList).getD (.other (indent ++ (word ++ " " ++ s))) := by
  have htext : (word ++ " " ++ s).toList = word.toList ++ ' ' :: s.toList := by simp
  have hstart := hword.start_ne (' ' :: s.toList)
  have hnode := readTitled?_blank hword s.toList
  have hlink := readLink?_word hword hs
  rw [← htext] at hstart hnode hlink
  rw [readLine_indented hindent hstart, readStatement?, hnode, hlink]
  rfl

theorem reads_frame {id title : String} (hid : IsIdentifier id) (htitle : IsSafe title) :
    Reads (indent ++ ("subgraph" ++ " " ++ titled id title)) (.frame id title) where
  oneLine := by
    refine oneLine_indented hindent ?_
    rw [String.toList_append, toList_titled]
    simp [hid.oneLine, htitle.oneLine]
  statement := by
    have hword : IsIdentifier "subgraph" := by decide
    have hstart := hid.start_ne ('[' :: '"' :: (title.toList ++ '"' :: [']']))
    rw [← toList_titled] at hstart
    have htext : ("subgraph" ++ " " ++ titled id title).toList =
        frameWord ++ (titled id title).toList := by
      rw [String.toList_append]
      rfl
    rw [readLine_word hindent hword (fun c hc => (hstart c hc).2), readFrame?, htext,
      if_pos (List.isPrefixOf_iff_prefix.2 (List.prefix_append _ _)), List.drop_left,
      readTitled?_titled hid htitle.quote]
    rfl
  safe := fun _ hl => List.mem_singleton.1 hl ▸ htitle

/-- A line that gives a node its class. -/
theorem reads_class {id word : String} (hid : IsIdentifier id) (hword : '\n' ∉ word.toList) :
    Reads (indent ++ ("class" ++ " " ++ (id ++ " " ++ word)))
      (.other (indent ++ ("class" ++ " " ++ (id ++ " " ++ word)))) where
  oneLine := by
    refine oneLine_indented hindent ?_
    simp [hid.oneLine, hword]
  statement := by
    have hclass : IsIdentifier "class" := by decide
    have hstart := hid.start_ne (' ' :: word.toList)
    have htext : (id ++ " " ++ word).toList = id.toList ++ ' ' :: word.toList := by simp
    rw [← htext] at hstart
    have hframe : readFrame? ("class" ++ " " ++ (id ++ " " ++ word)).toList = none := by
      rw [readFrame?, String.toList_append]
      rfl
    rw [readLine_word hindent hclass (fun c hc => (hstart c hc).2), hframe]
    rfl
  safe := fun _ hl => absurd hl List.not_mem_nil

end Indented

/-! ### Charts -/

theorem splitAt_joinWith {lines : List String} (hne : lines ≠ [])
    (h : ∀ line ∈ lines, '\n' ∉ line.toList) :
    splitAt '\n' (joinWith "\n" lines).toList = lines.map String.toList := by
  induction lines with
  | nil => exact absurd rfl hne
  | cons line rest ih =>
    obtain ⟨hline, hrest⟩ := List.forall_mem_cons.1 h
    cases rest with
    | nil => exact FileTree.splitAt_of_notMem hline
    | cons next rest =>
      have htext : (joinWith "\n" (line :: next :: rest)).toList =
          line.toList ++ '\n' :: (joinWith "\n" (next :: rest)).toList := by
        rw [joinWith, String.intercalate_cons_cons, joinWith]
        simp
      rw [htext, FileTree.splitAt_append hline, ih (List.cons_ne_nil _ _) hrest, List.map_cons,
        List.map_cons, List.map_cons]

/-- A chart says what its lines say, one statement a line. -/
theorem readChart_joinWith {lines : List String} {read : List Statement}
    (h : List.Forall₂ Reads lines read) (hne : lines ≠ []) :
    readChart (joinWith "\n" lines) = read := by
  have hlines : ∀ line ∈ lines, '\n' ∉ line.toList := by
    intro line hline
    obtain ⟨s, -, hreads⟩ := exists_mem_of_forall₂ h hline
    exact hreads.oneLine
  rw [readChart, splitAt_joinWith hne hlines, List.map_map]
  clear hne hlines
  induction h with
  | nil => rfl
  | cons hfirst _ ih =>
    rw [List.map_cons, ih]
    exact congrArg (· :: _) hfirst.statement

/-- The chart says the statements. Its nodes, without the reserved ones, are the names under
identifiers of their own, its links are the pairs of names, and no label breaks it. -/
structure Shows (text : String) (read : List Statement) (id : String → String)
    (names : List String) (links : List (String × String)) (reserved : List String) : Prop where
  reads : readChart text = read
  apart : TellsApart id names reserved
  once : names.Nodup
  nodes : ((read.filterMap Statement.declared?).filter (· ∉ reserved)).Perm (names.map id)
  links : read.filterMap Statement.linked? = links.map (fun l => (id l.1, id l.2))
  ends : ∀ l ∈ read.filterMap Statement.linked?,
    l.1 ∈ read.filterMap Statement.declared? ∧ l.2 ∈ read.filterMap Statement.declared?
  frames : ∀ f ∈ read.filterMap Statement.framed?, f ∈ reserved
  safe : ∀ s ∈ read, ∀ l ∈ s.labels, IsSafe l

/-- Some lines of a chart, what they say, and the nodes, links and boxes among it. -/
structure Draws (lines : List String) (read : List Statement) (nodes : List String)
    (links : List (String × String)) (frames : List String) : Prop where
  reads : List.Forall₂ Reads lines read
  nodes : read.filterMap Statement.declared? = nodes
  links : read.filterMap Statement.linked? = links
  frames : read.filterMap Statement.framed? = frames

section Draws

variable {lines lines' : List String} {read read' : List Statement} {nodes nodes' : List String}
variable {links links' : List (String × String)} {frames frames' : List String}

theorem Draws.append (h : Draws lines read nodes links frames)
    (h' : Draws lines' read' nodes' links' frames') :
    Draws (lines ++ lines') (read ++ read') (nodes ++ nodes') (links ++ links')
      (frames ++ frames') where
  reads := List.rel_append h.reads h'.reads
  nodes := by rw [List.filterMap_append, h.nodes, h'.nodes]
  links := by rw [List.filterMap_append, h.links, h'.links]
  frames := by rw [List.filterMap_append, h.frames, h'.frames]

theorem draws_nil : Draws [] [] [] [] [] := ⟨.nil, rfl, rfl, rfl⟩

theorem draws_frame {line id title : String} (h : Reads line (.frame id title)) :
    Draws [line] [.frame id title] [] [] [id] :=
  ⟨.cons h .nil, rfl, rfl, rfl⟩

section Items

variable {α : Type} {items : List α} {line : α → String}

theorem forall₂_map_reads {statement : α → Statement}
    (h : ∀ x ∈ items, Reads (line x) (statement x)) :
    List.Forall₂ Reads (items.map line) (items.map statement) := by
  rw [List.forall₂_map_left_iff, List.forall₂_map_right_iff]
  exact List.forall₂_same.2 h

/-- One node a line. -/
theorem draws_nodes {id title : α → String}
    (h : ∀ x ∈ items, Reads (line x) (.node (id x) (title x))) :
    Draws (items.map line) (items.map (fun x => .node (id x) (title x))) (items.map id) [] [] where
  reads := forall₂_map_reads h
  nodes := by simp [List.filterMap_map, Function.comp_def, List.filterMap_eq_map']
  links := by simp [List.filterMap_map, Function.comp_def]
  frames := by simp [List.filterMap_map, Function.comp_def]

/-- One link a line. -/
theorem draws_links {source arrow target : α → String} {label : α → Option String}
    (h : ∀ x ∈ items, Reads (line x) (.link (source x) (arrow x) (label x) (target x))) :
    Draws (items.map line)
      (items.map (fun x => .link (source x) (arrow x) (label x) (target x))) []
      (items.map (fun x => (source x, target x))) [] where
  reads := forall₂_map_reads h
  nodes := by simp [List.filterMap_map, Function.comp_def]
  links := by simp [List.filterMap_map, Function.comp_def, List.filterMap_eq_map']
  frames := by simp [List.filterMap_map, Function.comp_def]

/-- At most one line for each item, which speaks for itself. -/
theorem draws_others {line? : α → Option String}
    (h : ∀ x ∈ items, ∀ l ∈ line? x, Reads l (.other l)) :
    Draws (items.filterMap line?) ((items.filterMap line?).map .other) [] [] [] where
  reads := by
    rw [List.forall₂_map_right_iff]
    refine List.forall₂_same.2 fun l hl => ?_
    obtain ⟨x, hx, hline⟩ := List.mem_filterMap.1 hl
    exact h x hx l hline
  nodes := by simp [List.filterMap_map, Function.comp_def]
  links := by simp [List.filterMap_map, Function.comp_def]
  frames := by simp [List.filterMap_map, Function.comp_def]

end Items

/-- A fixed line, which speaks for itself. -/
theorem draws_other {line : String} (h : Reads line (.other line)) :
    Draws [line] [.other line] [] [] [] :=
  ⟨.cons h .nil, rfl, rfl, rfl⟩

/-- Groups of nodes one after the other. -/
theorem draws_flatMap {α : Type} {keys : List α} {lines : α → List String}
    {read : α → List Statement} {nodes frames : α → List String}
    (h : ∀ k ∈ keys, Draws (lines k) (read k) (nodes k) [] (frames k)) :
    Draws (keys.flatMap lines) (keys.flatMap read) (keys.flatMap nodes) []
      (keys.flatMap frames) := by
  induction keys with
  | nil => exact draws_nil
  | cons k rest ih =>
    obtain ⟨hfirst, hrest⟩ := List.forall_mem_cons.1 h
    exact hfirst.append (ih hrest)

/-- The node that stands in for others if there are none. -/
theorem draws_note {p : Prop} [Decidable p] {line id title : String}
    (h : Reads line (.node id title)) :
    Draws (if p then [line] else []) (if p then [.node id title] else [])
      (if p then [id] else []) [] [] := by
  split
  · exact ⟨.cons h .nil, rfl, rfl, rfl⟩
  · exact draws_nil

/-- A whole chart shows the names and pairs that its lines draw. -/
theorem Draws.shows (h : Draws lines read nodes links frames) (hne : lines ≠ [])
    {id : String → String} {names notes reserved : List String} {pairs : List (String × String)}
    (hapart : TellsApart id names reserved) (honce : names.Nodup)
    (hnodes : nodes.Perm (names.map id ++ notes)) (hnotes : notes ⊆ reserved)
    (hlinks : links = pairs.map (fun l => (id l.1, id l.2)))
    (hends : ∀ l ∈ pairs, l.1 ∈ names ∧ l.2 ∈ names) (hframes : frames ⊆ reserved) :
    Shows (joinWith "\n" lines) read id names pairs reserved where
  reads := readChart_joinWith h.reads hne
  apart := hapart
  once := honce
  nodes := by
    have hfree : (names.map id).filter (· ∉ reserved) = names.map id := by
      refine List.filter_eq_self.2 fun i hi => ?_
      obtain ⟨n, hn, rfl⟩ := List.mem_map.1 hi
      exact decide_eq_true (hapart.free n hn)
    have hnone : notes.filter (· ∉ reserved) = [] := by
      refine List.filter_eq_nil_iff.2 fun i hi => ?_
      rw [decide_eq_true_iff, not_not]
      exact hnotes hi
    have hfiltered := hnodes.filter (· ∉ reserved)
    rw [List.filter_append, hfree, hnone, List.append_nil] at hfiltered
    rwa [h.nodes]
  links := h.links.trans hlinks
  ends := by
    have hdeclared : ∀ n ∈ names, id n ∈ nodes := fun n hn =>
      hnodes.mem_iff.2 (List.mem_append_left _ (List.mem_map_of_mem hn))
    intro l hl
    rw [h.links, hlinks] at hl
    rw [h.nodes]
    obtain ⟨pair, hpair, rfl⟩ := List.mem_map.1 hl
    exact ⟨hdeclared _ (hends pair hpair).1, hdeclared _ (hends pair hpair).2⟩
  frames := fun f hf => hframes (h.frames ▸ hf)
  safe := by
    intro s hs
    obtain ⟨line, -, hreads⟩ := exists_mem_of_forall₂ h.reads.flip hs
    exact hreads.safe

end Draws

end RepoAtlas.Diagram
