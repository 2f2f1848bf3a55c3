import RepoAtlas.Proofs.OrderedMap
import RepoAtlas.Settings.File

/-!
The text of a settings file. Sections of scalars whose names and keys need no quotes are written one
after another, a header for each section and a line for each value. They come back if the reader
finds them in that text.
-/
namespace RepoAtlas

/-! ### Documents that are the same -/

namespace Doc

mutual

/-- Whether two documents are the same in every part. -/
def equals : Doc → Doc → Bool
  | .null, .null => true
  | .bool a, .bool b => a == b
  | .int a, .int b => a == b
  | .float a, .float b => a == b
  | .text a, .text b => a == b
  | .foreign a, .foreign b => a == b
  | .list as, .list bs => itemsEqual as bs
  | .object as, .object bs => membersEqual as bs
  | _, _ => false

def itemsEqual : List Doc → List Doc → Bool
  | [], [] => true
  | a :: as, b :: bs => equals a b && itemsEqual as bs
  | _, _ => false

def membersEqual : List (String × Doc) → List (String × Doc) → Bool
  | [], [] => true
  | (j, a) :: as, (k, b) :: bs => j == k && equals a b && membersEqual as bs
  | _, _ => false

end

mutual

theorem eq_of_equals : (a b : Doc) → a.equals b = true → a = b
  | .list as, b, h => by
    cases b with
    | list bs => exact congrArg Doc.list (eq_of_itemsEqual as bs (by simpa [equals] using h))
    | _ => simp [equals] at h
  | .object as, b, h => by
    cases b with
    | object bs => exact congrArg Doc.object (eq_of_membersEqual as bs (by simpa [equals] using h))
    | _ => simp [equals] at h
  | .null, b, h | .bool _, b, h | .int _, b, h | .float _, b, h | .text _, b, h
  | .foreign _, b, h => by cases b <;> simp_all [equals]

theorem eq_of_itemsEqual : (as bs : List Doc) → itemsEqual as bs = true → as = bs
  | [], bs, h => by cases bs <;> simp_all [itemsEqual]
  | a :: as, bs, h => by
    cases bs with
    | nil => simp [itemsEqual] at h
    | cons b bs =>
      rw [itemsEqual, Bool.and_eq_true] at h
      rw [eq_of_equals a b h.1, eq_of_itemsEqual as bs h.2]

theorem eq_of_membersEqual : (as bs : List (String × Doc)) → membersEqual as bs = true → as = bs
  | [], bs, h => by cases bs <;> simp_all [membersEqual]
  | (j, a) :: as, bs, h => by
    cases bs with
    | nil => simp [membersEqual] at h
    | cons e bs =>
      obtain ⟨k, b⟩ := e
      rw [membersEqual, Bool.and_eq_true, Bool.and_eq_true, beq_iff_eq] at h
      rw [h.1.1, eq_of_equals a b h.1.2, eq_of_membersEqual as bs h.2]

end

end Doc

namespace Settings

open Toml

/-- Sections as the tables of a document. -/
def asTables (sections : OrderedMap String Section) : List (String × Doc) :=
  (sections.mapValues (fun values => .object values.entries)).entries

/-- A file that the tables are written to holds them. -/
def ComesBack (tables : List (String × Doc)) : Prop :=
  ∃ text, Toml.encode tables = .ok text ∧
    (SettingsFile.mk (some (.file (.text text)))).tables = .ok tables

/-! ### Scalars -/

/-- A value that stands on one line. -/
inductive IsScalar : Doc → Prop where
  | bool (b : Bool) : IsScalar (.bool b)
  | int (i : Int) : IsScalar (.int i)
  | float (x : Binary64) : IsScalar (.float x)
  | text (s : String) : IsScalar (.text s)

/-- A scalar that has a text, under a key that needs no quotes. -/
structure IsEntry (e : String × Doc) : Prop where
  key : keyText e.1 = .ok e.1
  scalar : IsScalar e.2
  text : ∃ text, valueText e.2 = .ok text

/-- A section of such entries, under a header that needs no quotes. -/
structure IsPlain (e : String × Section) : Prop where
  header : keyText e.1 = .ok e.1
  entries : ∀ x ∈ e.2.entries, IsEntry x

theorem keyText_of_isBareKey {s : String} (h : isBareKey s = true) : keyText s = .ok s :=
  if_pos h

theorem isPlain_singleton {name key text : String} {v : Doc} (hname : isBareKey name = true)
    (hkey : isBareKey key = true) (hscalar : IsScalar v) (htext : valueText v = .ok text) :
    IsPlain (name, ⟨[(key, v)]⟩) := by
  refine ⟨keyText_of_isBareKey hname, ?_⟩
  intro x hx
  obtain rfl := List.mem_singleton.1 hx
  exact ⟨keyText_of_isBareKey hkey, hscalar, text, htext⟩

/-! ### Lines and sections -/

def withLine (text : String) (e : String × Doc) : String :=
  text ++ e.1 ++ " = " ++ (valueText e.2).toOption.getD "" ++ "\n"

/-- A text with one more section, a blank line behind the others. -/
def withSection (text : String) (e : String × Section) : String :=
  text ++ ((if text.isEmpty || "\n\n".toList.isSuffixOf text.toList then "" else "\n") ++
    "[" ++ e.1 ++ "]\n" ++ e.2.entries.foldl withLine "")

theorem writtenMember_isEntry {e : String × Doc} (h : IsEntry e) (fuel : Nat) (path : String)
    (w : Written) : writtenMember fuel path w e.1 e.2 =
      .ok { w with lines := withLine w.lines e } := by
  obtain ⟨key, v⟩ := e
  obtain ⟨hkey, hscalar, text, htext⟩ := h
  dsimp only at hkey hscalar htext ⊢
  have hline : withLine w.lines (key, v) = w.lines ++ key ++ " = " ++ text ++ "\n" := by
    rw [withLine, htext]
    rfl
  rw [hline]
  cases hscalar <;>
    simp only [writtenMember, hkey, htext, bind, Except.bind, pure, Except.pure]

theorem writtenTable_plain {e : String × Section} (h : IsPlain e) (fuel : Nat) :
    writtenTable (fuel + 1) e.1 e.2.entries =
      .ok { lines := e.2.entries.foldl withLine "" } := by
  have hentries : ∀ (entries : List (String × Doc)) (w : Written), (∀ x ∈ entries, IsEntry x) →
      entries.foldlM
          (fun w x => writtenMember fuel (if e.1.isEmpty then "" else e.1 ++ ".") w x.1 x.2) w =
        .ok { w with lines := entries.foldl withLine w.lines } := by
    intro entries
    induction entries with
    | nil => exact fun w _ => rfl
    | cons x rest ih =>
      intro w hplain
      obtain ⟨hx, hrest⟩ := List.forall_mem_cons.1 hplain
      rw [List.foldlM_cons, writtenMember_isEntry hx]
      exact ih _ hrest
  rw [writtenTable]
  exact hentries _ {} h.entries

theorem writtenSection_plain {e : String × Section} (h : IsPlain e) (text : String) :
    writtenSection (text, []) (e.1, e.2.entries) = .ok (withSection text e, []) := by
  rw [writtenSection, writtenTable_plain h]
  simp [Except.bind, bind, pure, Except.pure, Written.own, withSection]

variable {sections : List (String × Section)}

/-- The sections are inner tables of the document, in their order. -/
theorem writtenMembers (done : List (String × Section)) {rest : List (String × Section)} (fuel : Nat)
    (hnames : ((done ++ rest).map (·.1)).Nodup) (h : ∀ e ∈ rest, IsPlain e) :
    (asTables ⟨rest⟩).foldlM (fun w e => writtenMember fuel "" w e.1 e.2)
        ({ inner := done.map (fun e => (e.1, e.2.entries)) } : Written) =
      .ok { inner := (done ++ rest).map (fun e => (e.1, e.2.entries)) } := by
  induction rest generalizing done with
  | nil =>
    rw [List.append_nil]
    rfl
  | cons e rest ih =>
    obtain ⟨hplain, hrest⟩ := List.forall_mem_cons.1 h
    have hnew : e.1 ∉ (done.map (fun e => (e.1, e.2.entries))).map (·.1) := by
      rw [List.map_append, List.nodup_append] at hnames
      intro hmem
      simp only [List.map_map, List.mem_map] at hmem
      obtain ⟨e', he', heq⟩ := hmem
      exact hnames.2.2 e'.1 (List.mem_map_of_mem he') e.1 (by simp) heq
    have hstep : writtenMember fuel "" { inner := done.map (fun e => (e.1, e.2.entries)) } e.1
        (.object e.2.entries) =
          .ok { inner := (done ++ [e]).map (fun e => (e.1, e.2.entries)) } := by
      rw [writtenMember, hplain.header, List.map_append, List.map_singleton,
        ← OrderedMap.updateEntries_of_notMem (f := fun _ => e.2.entries) hnew]
      rfl
    have hnext := ih (done ++ [e]) (by simpa using hnames) hrest
    rw [List.append_assoc, List.singleton_append] at hnext
    rw [← hnext, asTables, OrderedMap.mapValues, List.map_cons, List.foldlM_cons, hstep]
    rfl

theorem writtenSections_plain (h : ∀ e ∈ sections, IsPlain e) (text : String) :
    (sections.map (fun e => (e.1, e.2.entries))).foldlM writtenSection (text, []) =
      .ok (sections.foldl withSection text, []) := by
  induction sections generalizing text with
  | nil => rfl
  | cons e rest ih =>
    obtain ⟨hplain, hrest⟩ := List.forall_mem_cons.1 h
    rw [List.map_cons, List.foldlM_cons, writtenSection_plain hplain]
    exact ih hrest _

/-- Sections of scalars are written one after another, a line for each value. -/
theorem encode_asTables (hnames : (sections.map (·.1)).Nodup) (h : ∀ e ∈ sections, IsPlain e) :
    Toml.encode (asTables ⟨sections⟩) = .ok (sections.foldl withSection "") := by
  have hinner : ∀ fuel, writtenTable (fuel + 1) "" (asTables ⟨sections⟩) =
      .ok { inner := sections.map (fun e => (e.1, e.2.entries)) } := by
    intro fuel
    rw [writtenTable]
    exact writtenMembers [] fuel hnames h
  have hsections : ∀ fuel, writtenSections (fuel + 2) ""
      (sections.map (fun e => (e.1, e.2.entries))) = .ok (sections.foldl withSection "") := by
    intro fuel
    rw [writtenSections, writtenSections_plain h]
    cases sections <;> rfl
  rw [encode, hinner]
  exact hsections _

/-- The reader finds the tables in a file with the text. -/
def readsBack (text : String) (tables : List (String × Doc)) : Bool :=
  match (SettingsFile.mk (some (.file (.text text)))).tables with
  | .ok found => Doc.membersEqual found tables
  | .error _ => false

theorem tables_of_readsBack {text : String} {tables : List (String × Doc)}
    (h : readsBack text tables = true) :
    (SettingsFile.mk (some (.file (.text text)))).tables = .ok tables := by
  rw [readsBack] at h
  split at h
  next found hfound => rw [hfound, Doc.eq_of_membersEqual found _ h]
  next => cases h

/-- Sections of scalars come back if they are read from their text. -/
theorem comesBack_of_text (text : String) (hnames : (sections.map (·.1)).Nodup)
    (h : ∀ e ∈ sections, IsPlain e) (htext : sections.foldl withSection "" = text)
    (hreads : readsBack text (asTables ⟨sections⟩) = true) : ComesBack (asTables ⟨sections⟩) := by
  have hencode : Toml.encode (asTables ⟨sections⟩) = .ok text := by
    rw [encode_asTables hnames h, htext]
  exact ⟨text, hencode, tables_of_readsBack hreads⟩

end Settings

end RepoAtlas
