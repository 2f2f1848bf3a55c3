import RepoAtlas.Proofs.OrderedMap
import RepoAtlas.Settings.Basic

/-!
Settings in memory. Dictionaries hold their sections by reference, so a section that two of them
shared would change in both. Loading copies the defaults into sections of their own before it lays
the tables of a file over them, and no change to what was loaded shows in any other dictionary.
-/
namespace RepoAtlas.Settings

/-- The sections in memory, and the dictionaries that refer to them by their places. -/
structure Memory where
  sections : List Section := []
  dictionaries : List (OrderedMap String Nat) := []
  deriving Repr

namespace Memory

section Definitions

variable (m : Memory)

def sectionAt (r : Nat) : Section := m.sections.getD r {}

def dictionary (a : Nat) : OrderedMap String Nat := m.dictionaries.getD a {}

/-- The settings that a dictionary amounts to. -/
def view (a : Nat) : Settings := ⟨(m.dictionary a).mapValues m.sectionAt⟩

/-- A new dictionary, with a new section for each one of the settings. -/
def alloc (s : Settings) : Memory where
  sections := m.sections ++ s.sections.values
  dictionaries := m.dictionaries ++
    [⟨(s.sections.entries.zipIdx m.sections.length).map (fun e => (e.1.1, e.2))⟩]

/-- Values laid over a section where it lies. A section that is missing is made first. -/
def overlay (a : Nat) (name : String) (values : List (String × Doc)) : Memory :=
  match (m.dictionary a).get? name with
  | some r => { m with sections := m.sections.set r ((m.sectionAt r).insertAll values) }
  | none =>
    { sections := m.sections ++ [({} : Section).insertAll values]
      dictionaries :=
        m.dictionaries.set a ((m.dictionary a).insert name m.sections.length) }

/-- The tables of a document laid over a dictionary; other members do not count. -/
def overlayAll (a : Nat) (tables : List (String × Doc)) : Memory :=
  tables.foldl
    (fun m t => match t.2 with
      | .object values => m.overlay a t.1 values
      | _ => m) m

/-- Loading makes one more dictionary: a copy of the defaults under the tables of the file. -/
def load (defaults : Nat) (tables : List (String × Doc)) : Memory :=
  (m.alloc (m.view defaults)).overlayAll m.dictionaries.length tables

end Definitions

/-- Every section belongs to one dictionary, and stands there under one name. -/
structure Separate (m : Memory) : Prop where
  placed : ∀ a, ∀ r ∈ (m.dictionary a).values, r < m.sections.length
  once : ∀ a, (m.dictionary a).values.Nodup
  apart : ∀ a b, a ≠ b → ∀ r ∈ (m.dictionary a).values, r ∉ (m.dictionary b).values

variable {m : Memory} {a b r : Nat} {name : String}

theorem separate_empty : Separate {} where
  placed a r hr := by cases hr
  once a := List.nodup_nil
  apart a b _ r hr := by cases hr

theorem mem_values_of_get? {d : OrderedMap String Nat} (h : d.get? name = some r) :
    r ∈ d.values :=
  List.mem_map.2 ⟨(name, r), OrderedMap.mem_of_lookup h, rfl⟩

/-- A dictionary reads the same as long as its references and their sections do. -/
theorem view_congr {m' : Memory} (hdict : m'.dictionary b = m.dictionary b)
    (hsections : ∀ r ∈ (m.dictionary b).values, m'.sectionAt r = m.sectionAt r) :
    m'.view b = m.view b := by
  rw [view, view, hdict, OrderedMap.mapValues_congr hsections]

theorem sectionAt_append_of_lt {xs : List Section} (ds : List (OrderedMap String Nat))
    (h : r < m.sections.length) : (Memory.mk (m.sections ++ xs) ds).sectionAt r = m.sectionAt r := by
  simp [sectionAt, List.getElem?_append_left h]

/-! ### A new dictionary -/

section Alloc

variable {s : Settings}

theorem dictionary_alloc_of_ne (h : b ≠ m.dictionaries.length) :
    (m.alloc s).dictionary b = m.dictionary b := by
  simp only [dictionary, alloc, List.getD_eq_getElem?_getD]
  by_cases hb : b < m.dictionaries.length
  · rw [List.getElem?_append_left hb]
  · rw [List.getElem?_eq_none (by simp; omega), List.getElem?_eq_none (by omega)]

theorem dictionary_alloc : (m.alloc s).dictionary m.dictionaries.length =
    ⟨(s.sections.entries.zipIdx m.sections.length).map (fun e => (e.1.1, e.2))⟩ := by
  simp [dictionary, alloc]

/-- The references of the new dictionary are the places behind the sections there were. -/
theorem values_alloc : ((m.alloc s).dictionary m.dictionaries.length).values =
    List.range' m.sections.length s.sections.entries.length := by
  rw [dictionary_alloc, OrderedMap.values, List.map_map]
  exact List.zipIdx_map_snd _ _

theorem view_alloc_of_ne (hm : m.Separate) (h : b ≠ m.dictionaries.length) :
    (m.alloc s).view b = m.view b := by
  apply view_congr (dictionary_alloc_of_ne h)
  intro r hr
  exact sectionAt_append_of_lt _ (hm.placed b r hr)

/-- Places that are numbered one after another hold the sections in their order. -/
theorem map_zipIdx_getD (done : List Section) (entries : List (String × Section)) :
    (entries.zipIdx done.length).map
      (fun e => (e.1.1, (done ++ entries.map (·.2)).getD e.2 {})) = entries := by
  induction entries generalizing done with
  | nil => rfl
  | cons e rest ih =>
    have hrest := ih (done ++ [e.2])
    rw [List.length_append, List.length_singleton, List.append_assoc, List.singleton_append]
      at hrest
    rw [List.zipIdx_cons, List.map_cons, List.map_cons, hrest]
    simp

@[simp] theorem view_alloc : (m.alloc s).view m.dictionaries.length = s := by
  rw [view, dictionary_alloc, OrderedMap.mapValues, List.map_map]
  exact congrArg (fun entries => Settings.mk ⟨entries⟩)
    (map_zipIdx_getD m.sections s.sections.entries)

theorem separate_alloc (hm : m.Separate) (s : Settings) : (m.alloc s).Separate := by
  have hlength : (m.alloc s).sections.length =
      m.sections.length + s.sections.entries.length := by
    simp [alloc, OrderedMap.values]
  constructor
  · intro b r hr
    by_cases hb : b = m.dictionaries.length
    · rw [hb, values_alloc, List.mem_range'_1] at hr
      omega
    · rw [dictionary_alloc_of_ne hb] at hr
      have hplaced := hm.placed b r hr
      omega
  · intro b
    by_cases hb : b = m.dictionaries.length
    · rw [hb, values_alloc]
      exact List.nodup_range'
    · rw [dictionary_alloc_of_ne hb]
      exact hm.once b
  · intro b c hne r hrb hrc
    by_cases hb : b = m.dictionaries.length
    · have hc : c ≠ m.dictionaries.length := by omega
      rw [hb, values_alloc, List.mem_range'_1] at hrb
      rw [dictionary_alloc_of_ne hc] at hrc
      have hplaced := hm.placed c r hrc
      omega
    · rw [dictionary_alloc_of_ne hb] at hrb
      by_cases hc : c = m.dictionaries.length
      · rw [hc, values_alloc, List.mem_range'_1] at hrc
        have hplaced := hm.placed b r hrb
        omega
      · rw [dictionary_alloc_of_ne hc] at hrc
        exact hm.apart b c hne r hrb hrc

end Alloc

/-! ### Values laid over a section -/

section Overlay

variable {values : List (String × Doc)}

theorem overlay_some (h : (m.dictionary a).get? name = some r) : m.overlay a name values =
    { m with sections := m.sections.set r ((m.sectionAt r).insertAll values) } := by
  rw [overlay, h]

theorem overlay_none (h : (m.dictionary a).get? name = none) : m.overlay a name values =
    { sections := m.sections ++ [({} : Section).insertAll values]
      dictionaries :=
        m.dictionaries.set a ((m.dictionary a).insert name m.sections.length) } := by
  rw [overlay, h]

theorem length_dictionaries_overlay :
    (m.overlay a name values).dictionaries.length = m.dictionaries.length := by
  cases h : (m.dictionary a).get? name with
  | some r => rw [overlay_some h]
  | none => rw [overlay_none h, List.length_set]

theorem dictionary_overlay_of_ne (h : b ≠ a) :
    (m.overlay a name values).dictionary b = m.dictionary b := by
  cases hname : (m.dictionary a).get? name with
  | some r =>
    rw [overlay_some hname]
    rfl
  | none =>
    rw [overlay_none hname]
    simp [dictionary, List.getElem?_set_ne (Ne.symm h)]

theorem length_sections_le_overlay :
    m.sections.length ≤ (m.overlay a name values).sections.length := by
  cases hname : (m.dictionary a).get? name with
  | some r => simp [overlay_some hname]
  | none => simp [overlay_none hname]

theorem entries_insert_of_get?_eq_none {d : OrderedMap String Nat} (h : d.get? name = none) :
    (d.insert name r).entries = d.entries ++ [(name, r)] := by
  apply OrderedMap.updateEntries_of_notMem
  rw [← OrderedMap.lookup_isSome_iff]
  simpa [OrderedMap.get?] using h

/-- A section that is made lies behind the others. -/
theorem values_overlay (m : Memory) (a : Nat) (name : String) (values : List (String × Doc)) :
    ((m.overlay a name values).dictionary a).values = (m.dictionary a).values ∨
    ((m.overlay a name values).dictionary a).values =
        (m.dictionary a).values ++ [m.sections.length] ∧
      m.sections.length < (m.overlay a name values).sections.length := by
  cases hname : (m.dictionary a).get? name with
  | some r =>
    left
    rw [overlay_some hname]
    rfl
  | none =>
    rw [overlay_none hname]
    by_cases ha : a < m.dictionaries.length
    · right
      constructor
      · have hentries := entries_insert_of_get?_eq_none (r := m.sections.length) hname
        simp only [dictionary, List.getD_eq_getElem?_getD] at hentries ⊢
        simp [OrderedMap.values, List.getElem?_set_self ha, hentries]
      · simp
    · left
      rw [dictionary, dictionary, List.set_eq_of_length_le (by omega)]

theorem mem_values_overlay (h : r ∈ ((m.overlay a name values).dictionary b).values) :
    r ∈ (m.dictionary b).values ∨
      b = a ∧ r = m.sections.length ∧ r < (m.overlay a name values).sections.length := by
  by_cases hb : b = a
  · subst hb
    rcases values_overlay m b name values with hsame | ⟨hmore, hlength⟩
    · left
      rwa [hsame] at h
    · rw [hmore, List.mem_append, List.mem_singleton] at h
      rcases h with h | rfl
      · exact Or.inl h
      · exact Or.inr ⟨rfl, rfl, hlength⟩
  · left
    rwa [dictionary_overlay_of_ne hb] at h

theorem separate_overlay (hm : m.Separate) : (m.overlay a name values).Separate := by
  constructor
  · intro b r hr
    have hlength : m.sections.length ≤ (m.overlay a name values).sections.length :=
      length_sections_le_overlay
    rcases mem_values_overlay hr with hold | ⟨-, -, hnew⟩
    · have hplaced := hm.placed b r hold
      omega
    · exact hnew
  · intro b
    by_cases hb : b = a
    · subst hb
      rcases values_overlay m b name values with hsame | ⟨hmore, -⟩
      · rw [hsame]
        exact hm.once b
      · rw [hmore, List.nodup_append]
        have hnew : ∀ r ∈ (m.dictionary b).values, r ≠ m.sections.length :=
          fun r hr => Nat.ne_of_lt (hm.placed b r hr)
        exact ⟨hm.once b, by simp, by simpa using hnew⟩
    · rw [dictionary_overlay_of_ne hb]
      exact hm.once b
  · intro b c hne r hrb hrc
    rcases mem_values_overlay hrb with hb | ⟨rfl, rfl, -⟩
    · rcases mem_values_overlay hrc with hc | ⟨rfl, rfl, -⟩
      · exact hm.apart b c hne r hb hc
      · exact absurd (hm.placed b _ hb) (Nat.lt_irrefl _)
    · rcases mem_values_overlay hrc with hc | ⟨rfl, -, -⟩
      · exact absurd (hm.placed c _ hc) (Nat.lt_irrefl _)
      · exact hne rfl

theorem sectionAt_set (ds : List (OrderedMap String Nat)) (t : Section) (r' : Nat) :
    (Memory.mk (m.sections.set r t) ds).sectionAt r' =
      if r' = r ∧ r < m.sections.length then t else m.sectionAt r' := by
  simp only [sectionAt, List.getD_eq_getElem?_getD, List.getElem?_set]
  by_cases heq : r' = r
  · subst heq
    by_cases hr : r' < m.sections.length <;> simp [hr]
  · simp [heq, Ne.symm heq]

/-- No other dictionary sees the change. -/
theorem view_overlay_of_ne (hm : m.Separate) (h : b ≠ a) :
    (m.overlay a name values).view b = m.view b := by
  apply view_congr (dictionary_overlay_of_ne h)
  intro r hr
  cases hname : (m.dictionary a).get? name with
  | some r' =>
    have hne : r ≠ r' := by
      rintro rfl
      exact hm.apart a b (Ne.symm h) r (mem_values_of_get? hname) hr
    rw [overlay_some hname, sectionAt_set, if_neg (fun hand => hne hand.1)]
  | none =>
    rw [overlay_none hname]
    exact sectionAt_append_of_lt _ (hm.placed b r hr)

/-- The dictionary itself reads as the settings with the values laid over them. -/
theorem view_overlay (hm : m.Separate) (ha : a < m.dictionaries.length) :
    (m.overlay a name values).view a = (m.view a).overlay name values := by
  rw [view, view, Settings.overlay, Settings.mk.injEq]
  cases hname : (m.dictionary a).get? name with
  | some r =>
    have hplaced := hm.placed a r (mem_values_of_get? hname)
    rw [overlay_some hname]
    apply OrderedMap.mapValues_eq_update (hm.once a) hname
    · rw [sectionAt_set, if_pos ⟨rfl, hplaced⟩]
      rfl
    · intro r' hne
      rw [sectionAt_set, if_neg (fun hand => hne hand.1)]
  | none =>
    have hdict : (m.overlay a name values).dictionary a =
        (m.dictionary a).insert name m.sections.length := by
      rw [overlay_none hname]
      simp [dictionary, List.getElem?_set_self ha]
    have hold : (m.dictionary a).mapValues m.sectionAt =
        (m.dictionary a).mapValues (m.overlay a name values).sectionAt := by
      apply OrderedMap.mapValues_congr
      intro r hr
      rw [overlay_none hname]
      exact (sectionAt_append_of_lt _ (hm.placed a r hr)).symm
    rw [hdict, hold, OrderedMap.insert, OrderedMap.update_mapValues]
    rw [hname, overlay_none hname]
    simp [sectionAt]

end Overlay

/-! ### Loading -/

/-- The dictionary at one place amounts to some settings now, and all others to what they did. -/
structure Changed (m m' : Memory) (a : Nat) (s : Settings) : Prop where
  separate : m'.Separate
  view : m'.view a = s
  others : ∀ b, b ≠ a → m'.view b = m.view b

theorem Changed.trans {m' m'' : Memory} {s s' : Settings} (h : Changed m m' a s)
    (h' : Changed m' m'' a s') : Changed m m'' a s' where
  separate := h'.separate
  view := h'.view
  others b hb := (h'.others b hb).trans (h.others b hb)

theorem changed_alloc (hm : m.Separate) (s : Settings) :
    Changed m (m.alloc s) m.dictionaries.length s where
  separate := separate_alloc hm s
  view := view_alloc
  others _ hb := view_alloc_of_ne hm hb

theorem changed_overlay (hm : m.Separate) (ha : a < m.dictionaries.length) (name : String)
    (values : List (String × Doc)) :
    Changed m (m.overlay a name values) a ((m.view a).overlay name values) where
  separate := separate_overlay hm
  view := view_overlay hm ha
  others _ hb := view_overlay_of_ne hm hb

theorem length_dictionaries_overlayAll (tables : List (String × Doc)) :
    (m.overlayAll a tables).dictionaries.length = m.dictionaries.length := by
  induction tables generalizing m with
  | nil => rfl
  | cons t rest ih =>
    obtain ⟨name, d⟩ := t
    cases d with
    | object values => exact ih.trans length_dictionaries_overlay
    | _ => exact ih

theorem changed_overlayAll (hm : m.Separate) (ha : a < m.dictionaries.length)
    (tables : List (String × Doc)) :
    Changed m (m.overlayAll a tables) a ((m.view a).overlayAll tables) := by
  induction tables generalizing m with
  | nil => exact ⟨hm, rfl, fun _ _ => rfl⟩
  | cons t rest ih =>
    obtain ⟨name, d⟩ := t
    cases d with
    | object values =>
      have hfirst := changed_overlay hm ha name values
      have hrest := ih hfirst.separate (by rwa [length_dictionaries_overlay])
      rw [hfirst.view] at hrest
      exact hfirst.trans hrest
    | _ => exact ih hm ha

theorem length_dictionaries_alloc (s : Settings) :
    (m.alloc s).dictionaries.length = m.dictionaries.length + 1 := by
  simp [alloc]

theorem length_dictionaries_load (defaults : Nat) (tables : List (String × Doc)) :
    (m.load defaults tables).dictionaries.length = m.dictionaries.length + 1 := by
  rw [load, length_dictionaries_overlayAll, length_dictionaries_alloc]

/-- Loading changes no dictionary that there was, the defaults no more than any other. -/
theorem changed_load (hm : m.Separate) (defaults : Nat) (tables : List (String × Doc)) :
    Changed m (m.load defaults tables) m.dictionaries.length
      ((m.view defaults).overlayAll tables) := by
  have hcopy := changed_alloc hm (m.view defaults)
  have hlaid := changed_overlayAll hcopy.separate (a := m.dictionaries.length)
    (by rw [length_dictionaries_alloc]; omega) tables
  rw [hcopy.view] at hlaid
  exact hcopy.trans hlaid

end Memory

end RepoAtlas.Settings
