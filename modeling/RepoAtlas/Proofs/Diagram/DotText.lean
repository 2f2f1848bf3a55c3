import Mathlib.Data.List.Induction
import RepoAtlas.Diagram.Dot
import RepoAtlas.Proofs.Diagram.UniqueIds
import RepoAtlas.Proofs.Sorting

/-!
Reading DOT documents back. A document is scanned for quoted strings, where a quote behind a
backslash belongs to the string, and cut into statements at the semicolons between strings. Quotes
are written with a backslash, but backslashes are written as they are, so one at the end of a text
takes the quote behind the text into the string.
-/
namespace RepoAtlas.Diagram.Dot

open RepoAtlas.Text

/-- What a scan meets: quoted strings, and the characters between them. -/
inductive Token where
  | quoted (text : String)
  | mark (c : Char)
  deriving DecidableEq, Repr

/-- Scans a text, in the middle of a string if a part of one has been read. A quote ends the string
unless the character before it is a backslash. -/
def scanFrom? : Option (List Char) → List Char → Option (List Token)
  | none, [] => some []
  | some _, [] => none
  | none, c :: rest =>
    if c = '"' then scanFrom? (some []) rest else (scanFrom? none rest).map (.mark c :: ·)
  | some read, c :: rest =>
    if c = '"' ∧ read.getLast? ≠ some '\\' then
      (scanFrom? none rest).map (.quoted (String.ofList read) :: ·)
    else scanFrom? (some (read ++ [c])) rest

def Token.string? : Token → Option String
  | .quoted s => some s
  | .mark _ => none

/-- The strings among tokens. -/
def strings (tokens : List Token) : List String := tokens.filterMap Token.string?

/-- The statements of a text; none if a string has no end. -/
def readStatements? (text : String) : Option (List (List Token)) :=
  (scanFrom? none text.toList).map (List.splitOn (.mark ';'))

/-! ### What is to be read -/

def marks (s : String) : List Token := s.toList.map .mark

def nodeStatement (id label : String) : List Token :=
  marks "\n  " ++ [.quoted (escape id)] ++ marks " [label=" ++ [.quoted (escape label)] ++ marks "]"

def edgeStatement (e : Edge) : List Token :=
  marks "\n  " ++ [.quoted (escape e.source)] ++ marks " -> " ++ [.quoted (escape e.target)] ++
    marks " [label=" ++ [.quoted (escape e.label)] ++ marks "]"

/-- The statements for the nodes and the edges that are shown, and what stands around them. -/
def documentStatements (nodes : OrderedMap String String) (name : String) (shown : Selection) :
    List (List Token) :=
  marks ("digraph " ++ identifier name ++ " \x7b\n  rankdir=LR") ::
    (shown.nodes.map (fun n => nodeStatement n ((nodes.get? n).getD "")) ++
      shown.edges.map edgeStatement) ++ [marks "\n\x7d"]

/-- The document that shows a selection. -/
def documentText (nodes : OrderedMap String String) (name : String) (shown : Selection) : String :=
  joinWith "\n" (["digraph " ++ identifier name ++ " \x7b", "  rankdir=LR;"] ++
    shown.nodes.map (nodeLine nodes) ++ shown.edges.map edgeLine ++ ["\x7d"])

/-- The texts in the quotes of a document. -/
def shownTexts (nodes : OrderedMap String String) (shown : Selection) : List String :=
  shown.nodes.flatMap (fun n => [n, (nodes.get? n).getD ""]) ++
    shown.edges.flatMap (fun e => [e.source, e.target, e.label])

def EndsInBackslash (s : String) : Prop := s.toList.getLast? = some '\\'

instance (s : String) : Decidable (EndsInBackslash s) :=
  inferInstanceAs (Decidable (_ = _))

/-! ### Escaped texts -/

theorem escapeChars_cons (c : Char) (s : List Char) :
    escapeChars (c :: s) = (if c = '"' then ['\\', '"'] else [c]) ++ escapeChars s :=
  List.flatMap_cons

theorem escapeChars_append (s t : List Char) :
    escapeChars (s ++ t) = escapeChars s ++ escapeChars t :=
  List.flatMap_append

/-- An escaped text ends in a backslash just if the text does. -/
theorem getLast?_escapeChars (s : List Char) :
    (escapeChars s).getLast? = some '\\' ↔ s.getLast? = some '\\' := by
  induction s using List.reverseRecOn with
  | nil => rfl
  | append_singleton s c =>
    rw [escapeChars_append, escapeChars_cons]
    by_cases hc : c = '"'
    · subst hc
      simp [escapeChars]
    · simp [escapeChars, hc]

/-- No escaped text begins with a quote. -/
theorem head?_escapeChars (s : List Char) : (escapeChars s).head? ≠ some '"' := by
  cases s with
  | nil => exact nofun
  | cons c rest =>
    rw [escapeChars_cons]
    split
    next => simp
    next hc => simpa using hc

theorem escapeChars_injective : Function.Injective escapeChars := by
  intro s
  induction s with
  | nil =>
    intro t h
    cases t with
    | nil => rfl
    | cons d rest =>
      rw [escapeChars_cons] at h
      split at h <;> cases h
  | cons c s ih =>
    intro t h
    cases t with
    | nil =>
      rw [escapeChars_cons] at h
      split at h <;> cases h
    | cons d t =>
      rw [escapeChars_cons, escapeChars_cons] at h
      have hhead : ∀ u v : List Char, '\\' :: '"' :: u ≠ '\\' :: escapeChars v := by
        intro u v heq
        exact head?_escapeChars v (by rw [← (List.cons.inj heq).2]; rfl)
      split at h
      next hc =>
        split at h
        next hd =>
          rw [hc, hd, ih (List.append_cancel_left h)]
        next hd =>
          obtain rfl : '\\' = d := (List.cons.inj h).1
          exact absurd h (hhead _ _)
      next hc =>
        split at h
        next hd =>
          obtain rfl : c = '\\' := (List.cons.inj h).1
          exact absurd h.symm (hhead _ _)
        next hd =>
          obtain ⟨rfl, hrest⟩ := List.cons.inj h
          rw [ih hrest]

theorem escape_toList (s : String) : (escape s).toList = escapeChars s.toList :=
  String.toList_ofList

theorem endsInBackslash_escape {s : String} : EndsInBackslash (escape s) ↔ EndsInBackslash s := by
  rw [EndsInBackslash, escape_toList, getLast?_escapeChars, EndsInBackslash]

theorem escape_injective : Function.Injective escape := by
  intro s t h
  have hchars := congrArg String.toList h
  rw [escape_toList, escape_toList] at hchars
  exact String.toList_inj.1 (escapeChars_injective hchars)

/-! ### Scanning what was written -/

def Token.text : Token → List Char
  | .quoted s => '"' :: s.toList ++ ['"']
  | .mark c => [c]

def written (tokens : List Token) : List Char := tokens.flatMap Token.text

/-- Tokens as they are written: texts are escaped, and no quote stands between strings. -/
def Token.IsWritten : Token → Prop
  | .quoted s => ∃ t, s = escape t
  | .mark c => c ≠ '"'

/-- No quote of an escaped text ends the string. -/
theorem scanFrom?_escapeChars (read s rest : List Char) :
    scanFrom? (some read) (escapeChars s ++ rest) =
      scanFrom? (some (read ++ escapeChars s)) rest := by
  induction s generalizing read with
  | nil => rw [show escapeChars [] = [] from rfl, List.nil_append, List.append_nil]
  | cons c s ih =>
    rw [escapeChars_cons, ← List.append_assoc read, ← ih]
    split
    next => simp [scanFrom?]
    next hc => simp [scanFrom?, hc]

/-- Nothing is taken back of a string that is open. -/
theorem exists_of_scanFrom?_some {read text : List Char} {tokens : List Token}
    (h : scanFrom? (some read) text = some tokens) :
    ∃ more later, tokens = .quoted (String.ofList (read ++ more)) :: later := by
  induction text generalizing read with
  | nil => cases h
  | cons c rest ih =>
    rw [scanFrom?] at h
    split at h
    next =>
      obtain ⟨later, -, rfl⟩ := Option.map_eq_some_iff.1 h
      exact ⟨[], later, by rw [List.append_nil]⟩
    next =>
      obtain ⟨more, later, rfl⟩ := ih h
      exact ⟨c :: more, later, by rw [List.append_assoc, List.singleton_append]⟩

/-- A string is scanned as it was written unless it ends in a backslash; then it runs on. -/
theorem scanFrom?_quoted (s : String) (rest : List Char) :
    scanFrom? none (Token.text (.quoted (escape s)) ++ rest) =
      if EndsInBackslash s then scanFrom? (some ((escape s).toList ++ ['"'])) rest
      else (scanFrom? none rest).map (.quoted (escape s) :: ·) := by
  have hopen : scanFrom? none (Token.text (.quoted (escape s)) ++ rest) =
      scanFrom? (some (escape s).toList) ('"' :: rest) := by
    rw [Token.text, List.cons_append, List.cons_append, scanFrom?, if_pos rfl, List.append_assoc,
      escape_toList, scanFrom?_escapeChars, List.nil_append, List.singleton_append]
  rw [hopen, scanFrom?, String.ofList_toList]
  by_cases h : EndsInBackslash s
  · have hlast : (escape s).toList.getLast? = some '\\' := endsInBackslash_escape.2 h
    rw [if_neg (fun hc => hc.2 hlast), if_pos h]
  · have hlast : (escape s).toList.getLast? ≠ some '\\' := mt endsInBackslash_escape.1 h
    rw [if_pos ⟨rfl, hlast⟩, if_neg h]

theorem scanFrom?_mark {c : Char} (h : c ≠ '"') (rest : List Char) :
    scanFrom? none (Token.text (.mark c) ++ rest) = (scanFrom? none rest).map (.mark c :: ·) := by
  rw [Token.text, List.singleton_append, scanFrom?, if_neg h]

theorem map_cons_eq_some_iff {α : Type} {x : α} {found : Option (List α)} {xs : List α} :
    found.map (x :: ·) = some (x :: xs) ↔ found = some xs := by
  simp only [Option.map_eq_some_iff, List.cons.injEq, true_and, exists_eq_right]

/-- Tokens are scanned as they were written exactly if no string ends in a backslash. -/
theorem scanFrom?_written_iff {tokens : List Token} (h : ∀ t ∈ tokens, t.IsWritten) :
    scanFrom? none (written tokens) = some tokens ↔
      ∀ s ∈ strings tokens, ¬ EndsInBackslash s := by
  induction tokens with
  | nil => exact iff_of_true rfl (fun s hs => absurd hs List.not_mem_nil)
  | cons token tokens ih =>
    obtain ⟨hfirst, hrest⟩ := List.forall_mem_cons.1 h
    have ih := ih hrest
    rw [written, List.flatMap_cons, ← written]
    cases token with
    | mark c =>
      rw [scanFrom?_mark hfirst, map_cons_eq_some_iff, ih]
      rfl
    | quoted s =>
      obtain ⟨t, rfl⟩ := hfirst
      have hstrings : strings (.quoted (escape t) :: tokens) = escape t :: strings tokens := rfl
      rw [scanFrom?_quoted, hstrings, List.forall_mem_cons, endsInBackslash_escape]
      by_cases hlast : EndsInBackslash t
      · rw [if_pos hlast]
        refine iff_of_false (fun hscan => ?_) fun hall => hall.1 hlast
        -- The string that is scanned holds the quote that was to end it.
        obtain ⟨more, later, heq⟩ := exists_of_scanFrom?_some hscan
        have htext := congrArg String.toList (Token.quoted.inj (List.cons.inj heq).1)
        rw [String.toList_ofList, List.append_assoc] at htext
        exact absurd (List.self_eq_append_right.1 htext) (by simp)
      · rw [if_neg hlast, map_cons_eq_some_iff, ih]
        exact (and_iff_right hlast).symm

/-! ### Statements -/

theorem strings_append (s t : List Token) : strings (s ++ t) = strings s ++ strings t :=
  List.filterMap_append

theorem strings_flatMap {α : Type} (f : α → List Token) (xs : List α) :
    strings (xs.flatMap f) = xs.flatMap (fun x => strings (f x)) :=
  List.filterMap_flatMap

theorem intercalate_concat {α : Type} (x : α) (body : List (List α)) (last : List α) :
    [x].intercalate (body ++ [last]) = body.flatMap (· ++ [x]) ++ last := by
  induction body with
  | nil => simp
  | cons s rest ih =>
    obtain ⟨t, more, hmore⟩ := List.exists_cons_of_ne_nil (List.append_ne_nil_of_right_ne_nil rest
      (List.cons_ne_nil last []))
    rw [hmore] at ih
    rw [List.cons_append, hmore, List.intercalate_cons_cons, ih, List.flatMap_cons,
      List.append_assoc, List.append_assoc, List.append_assoc]

/-- Statements that are written with a semicolon behind all but the last are read back exactly if no
string ends in a backslash. -/
theorem readStatements?_iff {body : List (List Token)} {last : List Token} {text : String}
    (htext : text.toList = written (body.flatMap (· ++ [.mark ';']) ++ last))
    (hwritten : ∀ st ∈ body ++ [last], ∀ t ∈ st, t.IsWritten ∧ t ≠ .mark ';') :
    readStatements? text = some (body ++ [last]) ↔
      ∀ s ∈ (body ++ [last]).flatMap strings, ¬ EndsInBackslash s := by
  have hcut : List.splitOn (.mark ';') ([.mark ';'].intercalate (body ++ [last])) =
      body ++ [last] :=
    List.splitOn_intercalate _ (fun st hst hmem => (hwritten st hst _ hmem).2 rfl)
      (List.append_ne_nil_of_right_ne_nil _ (List.cons_ne_nil _ _))
  have hscan : readStatements? text = some (body ++ [last]) ↔
      scanFrom? none text.toList = some ([.mark ';'].intercalate (body ++ [last])) := by
    rw [readStatements?, Option.map_eq_some_iff]
    constructor
    · rintro ⟨tokens, htokens, hsplit⟩
      rw [← hsplit, List.intercalate_splitOn, htokens]
    · exact fun h => ⟨_, h, hcut⟩
  rw [hscan, htext, intercalate_concat, scanFrom?_written_iff]
  · have hstrings : strings (body.flatMap (· ++ [.mark ';']) ++ last) =
        (body ++ [last]).flatMap strings := by
      have hsemicolon : strings [.mark ';'] = [] := rfl
      simp only [strings_append, strings_flatMap, hsemicolon, List.append_nil, List.flatMap_append,
        List.flatMap_singleton]
    rw [hstrings]
  · intro t ht
    rcases List.mem_append.1 ht with hbody | hlast
    · obtain ⟨st, hst, ht⟩ := List.mem_flatMap.1 hbody
      rcases List.mem_append.1 ht with ht | ht
      · exact (hwritten st (List.mem_append_left _ hst) t ht).1
      · rw [List.mem_singleton.1 ht]
        exact (by decide : ';' ≠ '"')
    · exact (hwritten last (List.mem_append_right _ (List.mem_singleton_self _)) t hlast).1

/-! ### Documents -/

section Written

theorem written_append (s t : List Token) : written (s ++ t) = written s ++ written t :=
  List.flatMap_append

theorem written_flatMap {α : Type} (f : α → List Token) (xs : List α) :
    written (xs.flatMap f) = xs.flatMap (fun x => written (f x)) :=
  List.flatMap_assoc

theorem written_marks (s : String) : written (marks s) = s.toList := by
  rw [written, marks, List.flatMap_map]
  exact List.flatMap_singleton' _

theorem written_quoted (s : String) : written [.quoted s] = '"' :: s.toList ++ ['"'] :=
  List.flatMap_singleton _ _

theorem written_semicolon : written [.mark ';'] = [';'] := rfl

theorem written_nodeStatement (nodes : OrderedMap String String) (n : String) :
    written (nodeStatement n ((nodes.get? n).getD "")) ++ [';'] =
      '\n' :: (nodeLine nodes n).toList := by
  simp only [nodeStatement, written_append, written_marks, written_quoted]
  simp [nodeLine]

theorem written_edgeStatement (e : Edge) :
    written (edgeStatement e) ++ [';'] = '\n' :: (edgeLine e).toList := by
  simp only [edgeStatement, written_append, written_marks, written_quoted]
  simp [edgeLine]

/-- Tokens as they are written, none of which ends a statement. -/
def AreWritten (st : List Token) : Prop := ∀ t ∈ st, t.IsWritten ∧ t ≠ .mark ';'

theorem AreWritten.append {s t : List Token} (hs : AreWritten s) (ht : AreWritten t) :
    AreWritten (s ++ t) := by
  intro token hmem
  exact (List.mem_append.1 hmem).elim (hs token) (ht token)

theorem areWritten_marks {s : String} (h : s.toList.all (fun c => c != '"' && c != ';') = true) :
    AreWritten (marks s) := by
  intro t ht
  obtain ⟨c, hc, rfl⟩ := List.mem_map.1 ht
  have hchar := List.all_eq_true.1 h c hc
  rw [Bool.and_eq_true, bne_iff_ne, bne_iff_ne] at hchar
  exact ⟨hchar.1, fun heq => hchar.2 (Token.mark.inj heq)⟩

theorem areWritten_quoted (s : String) : AreWritten [.quoted (escape s)] := by
  intro t ht
  rw [List.mem_singleton.1 ht]
  exact ⟨⟨s, rfl⟩, nofun⟩

theorem areWritten_nodeStatement (id label : String) : AreWritten (nodeStatement id label) :=
  ((((areWritten_marks (by decide)).append (areWritten_quoted id)).append
    (areWritten_marks (by decide))).append (areWritten_quoted label)).append
    (areWritten_marks (by decide))

theorem areWritten_edgeStatement (e : Edge) : AreWritten (edgeStatement e) :=
  ((((((areWritten_marks (by decide)).append (areWritten_quoted e.source)).append
    (areWritten_marks (by decide))).append (areWritten_quoted e.target)).append
    (areWritten_marks (by decide))).append (areWritten_quoted e.label)).append
    (areWritten_marks (by decide))

theorem areWritten_opening (name : String) :
    AreWritten (marks ("digraph " ++ identifier name ++ " \x7b\n  rankdir=LR")) := by
  refine areWritten_marks ?_
  rw [String.toList_append, String.toList_append, List.all_append, List.all_append,
    Bool.and_eq_true, Bool.and_eq_true]
  refine ⟨⟨by decide, List.all_eq_true.2 fun c hc => ?_⟩, by decide⟩
  have hchar := (isIdentifier_identifier name).chars c hc
  rw [Bool.and_eq_true, bne_iff_ne, bne_iff_ne]
  constructor
  · rintro rfl
    cases hchar
  · rintro rfl
    cases hchar

end Written

section Document

variable (nodes : OrderedMap String String) (name : String) (shown : Selection)

theorem joinWith_cons (line : String) (rest : List String) :
    (joinWith "\n" (line :: rest)).toList =
      line.toList ++ rest.flatMap (fun l => '\n' :: l.toList) := by
  induction rest generalizing line with
  | nil => simp [joinWith]
  | cons next rest ih =>
    rw [joinWith, String.intercalate_cons_cons, ← joinWith]
    simp [ih]

/-- The lines of a document are its statements with a semicolon behind each. -/
theorem toList_documentText : (documentText nodes name shown).toList =
    written ((marks ("digraph " ++ identifier name ++ " \x7b\n  rankdir=LR") ::
      (shown.nodes.map (fun n => nodeStatement n ((nodes.get? n).getD "")) ++
        shown.edges.map edgeStatement)).flatMap (· ++ [.mark ';']) ++ marks "\n\x7d") := by
  rw [documentText]
  simp only [List.cons_append, List.nil_append, joinWith_cons, List.flatMap_cons,
    List.flatMap_append, List.flatMap_map, List.flatMap_nil, written_append, written_flatMap,
    written_nodeStatement, written_edgeStatement, written_marks, written_semicolon]
  simp

theorem strings_marks (s : String) : strings (marks s) = [] := by
  rw [strings, List.filterMap_eq_nil_iff]
  intro t ht
  obtain ⟨c, -, rfl⟩ := List.mem_map.1 ht
  rfl

/-- The strings of a document are the texts that are shown, escaped. -/
theorem strings_document :
    (documentStatements nodes name shown).flatMap strings =
      (shownTexts nodes shown).map escape := by
  simp only [documentStatements, shownTexts, List.flatMap_append, List.flatMap_cons,
    List.flatMap_map, List.flatMap_nil, strings_marks, nodeStatement, edgeStatement,
    strings_append, List.map_append, List.map_flatMap, List.cons_append, List.nil_append,
    List.append_nil]
  rfl

theorem areWritten_document :
    ∀ st ∈ documentStatements nodes name shown, AreWritten st := by
  intro st hst
  rw [documentStatements, List.mem_append, List.mem_cons, List.mem_append, List.mem_map,
    List.mem_map, List.mem_singleton] at hst
  rcases hst with (rfl | ⟨n, -, rfl⟩ | ⟨e, -, rfl⟩) | rfl
  · exact areWritten_opening name
  · exact areWritten_nodeStatement n _
  · exact areWritten_edgeStatement e
  · exact areWritten_marks (by decide)

/-- A document is read back exactly if no text in it ends in a backslash. -/
theorem readStatements?_documentText :
    readStatements? (documentText nodes name shown) =
        some (documentStatements nodes name shown) ↔
      ∀ s ∈ shownTexts nodes shown, ¬ EndsInBackslash s := by
  have hread := readStatements?_iff (toList_documentText nodes name shown)
    (areWritten_document nodes name shown)
  rw [← documentStatements, strings_document, List.forall_mem_map] at hread
  simpa only [endsInBackslash_escape] using hread

end Document

/-- Without a focus every node is shown, and every edge between nodes. -/
theorem select_all (nodes : OrderedMap String String) (edges : List Edge) :
    (select nodes edges "").nodes.Perm nodes.keys ∧
      (select nodes edges "").edges =
        edges.filter (fun e => e.source ∈ nodes.keys ∧ e.target ∈ nodes.keys) := by
  have hselect : select nodes edges "" =
      ⟨sortTexts nodes.keys,
        edges.filter (fun e => nodes.contains e.source && nodes.contains e.target)⟩ := rfl
  rw [hselect]
  refine ⟨sortTexts_perm _, List.filter_congr fun e _ => ?_⟩
  rw [Bool.eq_iff_iff, Bool.and_eq_true, OrderedMap.contains_iff, OrderedMap.contains_iff,
    decide_eq_true_iff]

/-- A document is scanned, statement by statement, as the nodes with their labels and the edges that
it shows, exactly if none of their texts ends in a backslash. Without a focus these are all nodes
and all edges between nodes, and no two names are written alike. -/
theorem render_readsBack_iff (nodes : OrderedMap String String) (edges : List Edge)
    (focus name : String) :
    (readStatements? (render nodes edges focus name) =
        some (documentStatements nodes name (select nodes edges focus)) ↔
      ∀ s ∈ shownTexts nodes (select nodes edges focus), ¬ EndsInBackslash s) ∧
    ((select nodes edges "").nodes.Perm nodes.keys ∧
      (select nodes edges "").edges =
        edges.filter (fun e => e.source ∈ nodes.keys ∧ e.target ∈ nodes.keys)) ∧
    Function.Injective escape :=
  ⟨readStatements?_documentText nodes name (select nodes edges focus), select_all nodes edges,
    escape_injective⟩

/-- A name that ends in a backslash runs on past its string, and its label is a statement. -/
theorem render_backslash :
    readStatements? (render ⟨[("a\\", "; evil; \"")]⟩ []) = some
      [marks "digraph Ecosystem \x7b\n  rankdir=LR",
        marks "\n  " ++ [.quoted "a\\\" [label="], marks " evil",
        marks " \\" ++ [.quoted ""] ++ marks "]", marks "\n\x7d"] := by
  decide +kernel

end RepoAtlas.Diagram.Dot
