import RepoAtlas.Proofs.Diagram.Chart
import RepoAtlas.Proofs.Sorting
import RepoAtlas.Types.ClassDiagram

/-!
Class diagrams are closed and keep the most important definitions. What is read back from the text
of a diagram, line by line, is one class for each definition that is drawn and one line for each
relationship between two of them.
-/
namespace RepoAtlas.Types

open RepoAtlas.Diagram RepoAtlas.Text

/-- What one line of a class diagram says. -/
inductive ClassLine where
  | block (id : String)
  | relation (kind : RelationKind) (source target : String) (via : Option String)
  | other (line : String)
  deriving DecidableEq, Repr

namespace ClassLine

/-- The identifier that a line opens a class for. -/
@[simp]
def declared? : ClassLine → Option String
  | .block id => some id
  | _ => none

/-- The identifiers that a line joins. -/
@[simp]
def ends? : ClassLine → Option (String × String)
  | .relation _ source target _ => some (source, target)
  | _ => none

end ClassLine

/-! ### Reading a line -/

def kindOfArrow? (word : List Char) : Option RelationKind :=
  [RelationKind.parent, .interface, .contains, .collection].find? (fun k => (arrow k).toList = word)

def classWord : List Char := "class ".toList

/-- The opening line of a class. -/
def readBlock? (s : List Char) : Option ClassLine :=
  if classWord.isPrefixOf s ∧ (s.drop classWord.length).dropWhile isIdChar = [' ', '\x7b'] then
    some (.block (String.ofList ((s.drop classWord.length).takeWhile isIdChar)))
  else none

/-- The source of a relationship, and the field behind it. -/
def readSource? (kind : RelationKind) (target : String) (s : List Char) : Option ClassLine :=
  let source := String.ofList (s.takeWhile isIdChar)
  match s.dropWhile isIdChar with
  | [] => some (.relation kind source target none)
  | ' ' :: ':' :: ' ' :: via => some (.relation kind source target (some (String.ofList via)))
  | _ => none

def readRelation? (s : List Char) : Option ClassLine :=
  match s.dropWhile isIdChar with
  | ' ' :: rest =>
    match kindOfArrow? (rest.takeWhile (· ≠ ' ')), rest.dropWhile (· ≠ ' ') with
    | some kind, ' ' :: source => readSource? kind (String.ofList (s.takeWhile isIdChar)) source
    | _, _ => none
  | _ => none

def classIndent : List Char := "    ".toList

/-- Classes and relationships stand behind four blanks; any other line speaks for itself. -/
def readClassLine (line : List Char) : ClassLine :=
  if classIndent.isPrefixOf line then
    ((readBlock? (line.drop classIndent.length)).or
      (readRelation? (line.drop classIndent.length))).getD (.other (String.ofList line))
  else .other (String.ofList line)

def readClasses (text : String) : List ClassLine := (splitAt '\n' text.toList).map readClassLine

/-- The line is one line and says the statement. -/
structure ReadsClass (line : String) (s : ClassLine) : Prop where
  oneLine : '\n' ∉ line.toList
  statement : readClassLine line.toList = s

/-! ### What is drawn -/

/-- Of some candidates as many as may be are drawn, and none that is left out is more important than
one that is drawn. -/
structure KeepsMostImportant (maxTypes : Nat) (candidates drawn : List TypeDefinition) : Prop where
  count : drawn.length = min maxTypes candidates.length
  leftOut : ∃ rest, (drawn ++ rest).Perm candidates ∧
    ∀ t ∈ drawn, ∀ u ∈ rest, importance u ≤ importance t

/-- The focus and the choice of entities allow a definition. -/
structure IsCandidate (rels : List Relationship) (focus : String) (entitiesOnly : Bool)
    (t : TypeDefinition) : Prop where
  involved : focus = "" ∨ ∃ r ∈ rels, r.source = t.name ∨ r.target = t.name
  entity : entitiesOnly = true → isEntity t = true

instance (rels : List Relationship) (focus : String) (entitiesOnly : Bool) (t : TypeDefinition) :
    Decidable (IsCandidate rels focus entitiesOnly t) :=
  decidable_of_iff ((focus = "" ∨ ∃ r ∈ rels, r.source = t.name ∨ r.target = t.name) ∧
    (entitiesOnly = true → isEntity t = true)) ⟨fun h => ⟨h.1, h.2⟩, fun h => ⟨h.involved, h.entity⟩⟩

/-- The field that a relationship comes from, as it is shown. -/
def viaLabel? (r : Relationship) : Option String :=
  match r.viaField with
  | some name => if name.isEmpty then none else some (labelWithin 40 name)
  | none => none

/-- The text says that there is a class for each definition and a line for each relationship, under
identifiers that tell the names of the definitions apart. -/
structure ShowsClasses (text : String) (id : String → String) (drawn : List TypeDefinition)
    (rels : List Relationship) : Prop where
  apart : TellsApart id (drawn.map (·.name)) []
  blocks : (readClasses text).filterMap ClassLine.declared? = (drawn.map (·.name)).map id
  relations : (readClasses text).filter (fun s => s.ends?.isSome) =
    rels.map (fun r => .relation r.kind (id r.source) (id r.target) (viaLabel? r))
  ends : ∀ e ∈ (readClasses text).filterMap ClassLine.ends?,
    e.1 ∈ (readClasses text).filterMap ClassLine.declared? ∧
      e.2 ∈ (readClasses text).filterMap ClassLine.declared?

/-! ### The definitions that are drawn -/

theorem keepsMostImportant_take (maxTypes : Nat) (candidates : List TypeDefinition) :
    KeepsMostImportant maxTypes candidates
      ((candidates.mergeSort (fun a b => importance b ≤ importance a)).take maxTypes) := by
  have hkey : ∀ a b : TypeDefinition, decide (importance b ≤ importance a) = true ↔
      -(importance a : Int) ≤ -(importance b : Int) := by
    intro a b
    rw [decide_eq_true_iff]
    omega
  have hsorted := pairwise_mergeSort_key hkey candidates
  have hperm := List.mergeSort_perm candidates (fun a b => importance b ≤ importance a)
  generalize candidates.mergeSort (fun a b => importance b ≤ importance a) = sorted at hsorted hperm
  constructor
  · rw [List.length_take, hperm.length_eq]
  · refine ⟨sorted.drop maxTypes, ?_, ?_⟩
    · rwa [List.take_append_drop]
    · intro t ht u hu
      rw [← List.take_append_drop maxTypes sorted, List.pairwise_append] at hsorted
      have hle := hsorted.2.2 t ht u hu
      omega

theorem candidates_eq (facts : TypeFacts) (focus : String) (entitiesOnly : Bool) :
    candidates facts focus entitiesOnly = facts.types.filter (fun t =>
      IsCandidate (touching focus facts.relationships) focus entitiesOnly t) := by
  refine List.filter_congr fun t _ => ?_
  have hinvolved : ∀ rels : List Relationship,
      (rels.map (·.source) ++ rels.map (·.target)).contains t.name = true ↔
        ∃ r ∈ rels, r.source = t.name ∨ r.target = t.name := by
    intro rels
    simp only [List.contains_iff_mem, List.mem_append, List.mem_map, ← exists_or, ← and_or_left]
  rw [Bool.eq_iff_iff, decide_eq_true_iff, Bool.and_eq_true, Bool.or_eq_true, String.isEmpty_iff,
    hinvolved, Bool.or_eq_true, Bool.not_eq_true']
  constructor
  · rintro ⟨hfocus, hentity⟩
    exact ⟨hfocus, fun h => hentity.resolve_left (by simp [h])⟩
  · rintro ⟨hfocus, hentity⟩
    refine ⟨hfocus, ?_⟩
    cases entitiesOnly
    · exact Or.inl rfl
    · exact Or.inr (hentity rfl)

/-! ### Lines that read back -/

section Lines

variable {id source target : String}

theorem toList_indented (s : String) : ("    " ++ s).toList = classIndent ++ s.toList :=
  String.toList_append

/-- Behind its blanks a line is read by itself. -/
theorem readClassLine_indented (s : String) : readClassLine ("    " ++ s).toList =
    ((readBlock? s.toList).or (readRelation? s.toList)).getD (.other ("    " ++ s)) := by
  rw [readClassLine, toList_indented, List.drop_left, if_pos (by simp), ← toList_indented,
    String.ofList_toList]

/-- The lines inside a class are indented more deeply. -/
theorem readsClass_deep {s : String} (h : '\n' ∉ s.toList) :
    ReadsClass ("        " ++ s) (.other ("        " ++ s)) where
  oneLine := by
    rw [String.toList_append, List.mem_append, not_or]
    exact ⟨by decide, h⟩
  statement := by
    have htext : "        " ++ s = "    " ++ ("    " ++ s) := by
      rw [← String.append_assoc]
      rfl
    rw [htext, readClassLine_indented, String.toList_append]
    rfl

theorem readsClass_block (hid : IsIdentifier id) :
    ReadsClass ("    class " ++ id ++ " \x7b") (.block id) := by
  have htext : "    class " ++ id ++ " \x7b" = "    " ++ ("class " ++ (id ++ " \x7b")) := by
    simp only [← String.append_assoc]
    rfl
  have hlist : ("class " ++ (id ++ " \x7b")).toList = classWord ++ (id.toList ++ [' ', '\x7b']) := by
    rw [String.toList_append, String.toList_append]
    rfl
  obtain ⟨htake, hdrop⟩ := hid.split [' ', '\x7b'] (fun c hc => by cases hc; rfl)
  rw [htext]
  constructor
  · rw [toList_indented, hlist]
    simp [hid.oneLine, classWord, classIndent]
  · rw [readClassLine_indented, readBlock?, hlist, List.drop_left, hdrop, htake, String.ofList_toList,
      if_pos ⟨List.isPrefixOf_iff_prefix.2 (List.prefix_append _ _), rfl⟩]
    rfl

theorem kindOfArrow?_arrow (kind : RelationKind) : kindOfArrow? (arrow kind).toList = some kind := by
  cases kind <;> decide

/-- A relationship is not taken for a class, not even one with a target of that name. -/
theorem readBlock?_relation (htarget : IsIdentifier target) (kind : RelationKind)
    (rest : List Char) :
    readBlock? (target.toList ++ ' ' :: ((arrow kind).toList ++ ' ' :: rest)) = none := by
  rw [readBlock?, if_neg]
  rintro ⟨hword, hbrace⟩
  obtain ⟨more, hmore⟩ := List.isPrefixOf_iff_prefix.1 hword
  have hclass : IsIdentifier "class" := by decide
  have hsame : more = (arrow kind).toList ++ ' ' :: rest := by
    have hleft := (hclass.split (' ' :: more) (fun c hc => by cases hc; rfl)).2
    have hright := (htarget.split (' ' :: ((arrow kind).toList ++ ' ' :: rest))
      (fun c hc => by cases hc; rfl)).2
    have hfront : "class".toList ++ ' ' :: more = classWord ++ more := rfl
    rw [hfront, hmore, hright] at hleft
    exact (List.cons.inj hleft).2.symm
  rw [← hmore, List.drop_left, hsame] at hbrace
  cases kind <;> cases hbrace

theorem readSource?_via (hsource : IsIdentifier source) (kind : RelationKind) (target : String)
    (via : Option String) :
    readSource? kind target (source.toList ++ ((via.map (" : " ++ ·)).getD "").toList) =
      some (.relation kind source target via) := by
  have hbehind : ∀ c ∈ ((via.map (" : " ++ ·)).getD "").toList.head?, isIdChar c = false := by
    cases via with
    | none => exact fun c hc => nomatch hc
    | some label =>
      intro c hc
      rw [Option.map_some, Option.getD_some, String.toList_append] at hc
      cases hc
      rfl
  obtain ⟨htake, hdrop⟩ := hsource.split _ hbehind
  rw [readSource?, htake, hdrop, String.ofList_toList]
  cases via with
  | none => rfl
  | some label =>
    rw [Option.map_some, Option.getD_some, String.toList_append]
    exact congrArg (fun l => some (ClassLine.relation kind source target (some l)))
      String.ofList_toList

theorem noBlank_arrow (kind : RelationKind) :
    (arrow kind).toList.all (fun c => c ≠ ' ') = true := by
  cases kind <;> decide

theorem readRelation?_relation (hsource : IsIdentifier source) (htarget : IsIdentifier target)
    (kind : RelationKind) (via : Option String) :
    readRelation? (target.toList ++ ' ' :: ((arrow kind).toList ++
        ' ' :: (source.toList ++ ((via.map (" : " ++ ·)).getD "").toList))) =
      some (.relation kind source target via) := by
  obtain ⟨htake, hdrop⟩ := htarget.split (' ' :: ((arrow kind).toList ++
    ' ' :: (source.toList ++ ((via.map (" : " ++ ·)).getD "").toList))) (fun c hc => by cases hc; rfl)
  obtain ⟨harrow, hbehind⟩ := @split_run (· ≠ ' ') (arrow kind).toList
    (' ' :: (source.toList ++ ((via.map (" : " ++ ·)).getD "").toList))
    (List.all_eq_true.1 (noBlank_arrow kind)) (fun c hc => by cases hc; rfl)
  rw [readRelation?, hdrop, htake]
  simp only [harrow, hbehind, kindOfArrow?_arrow, String.ofList_toList,
    readSource?_via hsource kind target via]

theorem relationLine_eq (ids : OrderedMap String String) (r : Relationship) :
    relationLine ids r = "    " ++ (idOf ids r.target ++ " " ++ arrow r.kind ++ " " ++
      idOf ids r.source ++ ((viaLabel? r).map (" : " ++ ·)).getD "") := by
  rw [relationLine, viaLabel?]
  cases r.viaField with
  | none => simp [String.append_assoc]
  | some name => by_cases h : name = "" <;> simp [h, String.append_assoc]

theorem isSafe_viaLabel {r : Relationship} : ∀ l ∈ viaLabel? r, IsSafe l := by
  intro l hl
  rw [viaLabel?] at hl
  split at hl
  · split at hl
    · cases hl
    · obtain rfl := Option.some.inj hl
      exact isSafe_labelWithin _ _
  · cases hl

theorem readsClass_relation {ids : OrderedMap String String} {r : Relationship}
    (hsource : IsIdentifier (idOf ids r.source)) (htarget : IsIdentifier (idOf ids r.target)) :
    ReadsClass (relationLine ids r)
      (.relation r.kind (idOf ids r.source) (idOf ids r.target) (viaLabel? r)) := by
  have hlist : (idOf ids r.target ++ " " ++ arrow r.kind ++ " " ++ idOf ids r.source ++
      ((viaLabel? r).map (" : " ++ ·)).getD "").toList = (idOf ids r.target).toList ++
        ' ' :: ((arrow r.kind).toList ++ ' ' :: ((idOf ids r.source).toList ++
          (((viaLabel? r).map (" : " ++ ·)).getD "").toList)) := by
    simp
  rw [relationLine_eq]
  constructor
  · have harrow : '\n' ∉ (arrow r.kind).toList := by cases r.kind <;> decide
    have hvia : '\n' ∉ (((viaLabel? r).map (" : " ++ ·)).getD "").toList := by
      cases h : viaLabel? r with
      | none => simp
      | some label => simp [(isSafe_viaLabel label h).oneLine]
    rw [toList_indented, hlist]
    simp [htarget.oneLine, hsource.oneLine, harrow, hvia, classIndent]
  · rw [readClassLine_indented, hlist, readBlock?_relation htarget,
      readRelation?_relation hsource htarget]
    rfl

/-- The lines of a class behind its first one. -/
def detailLines (t : TypeDefinition) : List String :=
  (if hasStereotype t.kind then ["        <<" ++ t.kind.text ++ ">>"] else []) ++
    (t.fields.take 8).map fieldLine ++ ["    \x7d"]

theorem classLines_eq (ids : OrderedMap String String) (t : TypeDefinition) :
    classLines ids t = ("    class " ++ idOf ids t.name ++ " \x7b") :: detailLines t := by
  simp [classLines, detailLines]

theorem readsClass_detail {t : TypeDefinition} : ∀ l ∈ detailLines t, ReadsClass l (.other l) := by
  intro l hl
  rw [detailLines, List.mem_append, List.mem_append, List.mem_singleton] at hl
  rcases hl with (hkind | hfield) | rfl
  · split at hkind
    · obtain rfl := List.mem_singleton.1 hkind
      have htext : "        <<" ++ t.kind.text ++ ">>" =
          "        " ++ ("<<" ++ t.kind.text ++ ">>") := by
        simp only [← String.append_assoc]
        rfl
      rw [htext]
      exact readsClass_deep (by cases t.kind <;> decide)
    · cases hkind
  · obtain ⟨f, -, rfl⟩ := List.mem_map.1 hfield
    rw [fieldLine, String.append_assoc, String.append_assoc]
    refine readsClass_deep ?_
    simp [(isSafe_labelWithin 40 f.typeRef.name).oneLine, (isIdentifier_identifier f.name).oneLine]
  · exact ⟨by decide, by decide⟩

end Lines

/-! ### Diagrams -/

/-- A text of lines is read line by line. -/
theorem readClasses_joinWith {lines : List String} (hne : lines ≠ [])
    (h : ∀ l ∈ lines, '\n' ∉ l.toList) :
    readClasses (joinWith "\n" lines) = lines.map (fun l => readClassLine l.toList) := by
  rw [readClasses, splitAt_joinWith hne h, List.map_map]
  rfl

/-- The lines of one class say that there is a class, and nothing else. -/
theorem map_readClassLine_classLines {ids : OrderedMap String String} {t : TypeDefinition}
    (hid : IsIdentifier (idOf ids t.name)) :
    (classLines ids t).map (fun l => readClassLine l.toList) =
      .block (idOf ids t.name) :: (detailLines t).map .other := by
  rw [classLines_eq, List.map_cons, (readsClass_block hid).statement]
  exact congrArg (_ :: ·) (List.map_congr_left fun l hl => (readsClass_detail l hl).statement)

theorem oneLine_classLines {ids : OrderedMap String String} {t : TypeDefinition}
    (hid : IsIdentifier (idOf ids t.name)) : ∀ l ∈ classLines ids t, '\n' ∉ l.toList := by
  rw [classLines_eq, List.forall_mem_cons]
  exact ⟨(readsClass_block hid).oneLine, fun l hl => (readsClass_detail l hl).oneLine⟩

/-- What a diagram of some definitions and relationships says. -/
theorem readClasses_diagram {ids : OrderedMap String String} {drawn : List TypeDefinition}
    {rels : List Relationship} (hids : TellsApart (idOf ids) (drawn.map (·.name)) [])
    (hends : ∀ r ∈ rels, r.source ∈ drawn.map (·.name) ∧ r.target ∈ drawn.map (·.name)) :
    readClasses (joinWith "\n" (["classDiagram"] ++ drawn.flatMap (classLines ids) ++
        rels.map (relationLine ids))) =
      [.other "classDiagram"] ++
        drawn.flatMap (fun t => .block (idOf ids t.name) :: (detailLines t).map .other) ++
        rels.map (fun r => .relation r.kind (idOf ids r.source) (idOf ids r.target) (viaLabel? r)) := by
  have hvalid : ∀ t ∈ drawn, IsIdentifier (idOf ids t.name) :=
    fun t ht => hids.valid _ (List.mem_map_of_mem ht)
  have hreads : ∀ r ∈ rels, ReadsClass (relationLine ids r)
      (.relation r.kind (idOf ids r.source) (idOf ids r.target) (viaLabel? r)) :=
    fun r hr => readsClass_relation (hids.valid _ (hends r hr).1) (hids.valid _ (hends r hr).2)
  rw [readClasses_joinWith (by simp)]
  · rw [List.map_append, List.map_append, List.map_flatMap, List.map_map]
    congr 1
    · congr 1
      exact List.flatMap_congr fun t ht => map_readClassLine_classLines (hvalid t ht)
    · exact List.map_congr_left fun r hr => (hreads r hr).statement
  · intro l hl
    simp only [List.mem_append, List.mem_flatMap, List.mem_map, List.mem_singleton] at hl
    rcases hl with (rfl | ⟨t, ht, hl⟩) | ⟨r, hr, rfl⟩
    · decide
    · exact oneLine_classLines (hvalid t ht) l hl
    · exact (hreads r hr).oneLine

/-- Some lines that say so are the classes and the relationships of a diagram. -/
theorem showsClasses_of_read {text : String} {id : String → String} {drawn : List TypeDefinition}
    {rels : List Relationship} (hid : TellsApart id (drawn.map (·.name)) [])
    (hends : ∀ r ∈ rels, r.source ∈ drawn.map (·.name) ∧ r.target ∈ drawn.map (·.name))
    (hread : readClasses text = .other "classDiagram" ::
      (drawn.flatMap (fun t => .block (id t.name) :: (detailLines t).map .other) ++
        rels.map (fun r => .relation r.kind (id r.source) (id r.target) (viaLabel? r)))) :
    ShowsClasses text id drawn rels := by
  have hblocks : (readClasses text).filterMap ClassLine.declared? =
      (drawn.map (·.name)).map id := by
    rw [hread, List.filterMap_cons_none rfl, List.filterMap_append, List.filterMap_flatMap,
      List.filterMap_map, List.map_map, List.map_eq_flatMap]
    simp [List.filterMap_map, Function.comp_def]
  have hlinks : (readClasses text).filterMap ClassLine.ends? =
      rels.map (fun r => (id r.source, id r.target)) := by
    rw [hread, List.filterMap_cons_none rfl, List.filterMap_append, List.filterMap_flatMap,
      List.filterMap_map]
    simp [Function.comp_def, List.filterMap_eq_map']
  refine ⟨hid, hblocks, ?_, ?_⟩
  · rw [hread]
    simp [List.filter_flatMap, List.filter_map, Function.comp_def]
  · rw [hblocks, hlinks]
    intro e he
    obtain ⟨r, hr, rfl⟩ := List.mem_map.1 he
    exact ⟨List.mem_map_of_mem (hends r hr).1, List.mem_map_of_mem (hends r hr).2⟩

theorem shownRelations_eq (facts : TypeFacts) (focus : String) (names : List String) :
    shownRelations facts focus names = (touching focus facts.relationships).filter (fun r =>
      r.source ∈ names ∧ r.target ∈ names) := by
  apply List.filter_congr
  intro r _
  rw [Bool.eq_iff_iff, Bool.and_eq_true, List.contains_iff_mem, List.contains_iff_mem,
    decide_eq_true_iff]

end RepoAtlas.Types
