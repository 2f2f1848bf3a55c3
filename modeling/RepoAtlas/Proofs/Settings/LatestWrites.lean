import Mathlib.Data.List.Infix
import RepoAtlas.Proofs.Settings.Memory
import RepoAtlas.Proofs.Settings.WrittenText

/-!
Settings are the defaults under the latest writes. Each step of a run reads the file, changes one
value and writes the file again, or empties it; loading lays what is in the file over a copy of the
defaults. If tables come back as they were written, then what a run leaves for a name is the last
value that was saved under it and not dropped, and the defaults in memory are what they were.
-/
namespace RepoAtlas.Settings

/-- What can be done with settings: values are saved to the file, the file is emptied, settings are
loaded, and a value of settings that were loaded is set in memory. -/
inductive Step where
  | save (name key : String) (v : Doc)
  | reset
  | load
  | edit (loaded : Nat) (name key : String) (v : Doc)
  deriving Repr

/-- The settings file and the dictionaries in memory. The first dictionary holds the defaults, and
each load adds one. -/
structure State where
  file : SettingsFile := {}
  memory : Memory := ({} : Memory).alloc defaults
  deriving Repr

namespace State

/-- What a step answers, and the state behind it. -/
def step (s : State) : Step → Result Bool × State
  | .save name key v => ((s.file.set name key v).1, { s with file := (s.file.set name key v).2 })
  | .reset => (s.file.reset.1, { s with file := s.file.reset.2 })
  | .load =>
    match s.file.tables with
    | .ok tables => (.ok true, { s with memory := s.memory.load 0 tables })
    | .error why => (.error why, s)
  | .edit loaded name key v =>
    (.ok true, { s with memory := s.memory.overlay (loaded + 1) name [(key, v)] })

/-- The settings that one more load gives. -/
def loaded (s : State) : Result Settings := do
  let tables ← s.file.tables
  return (s.memory.load 0 tables).view s.memory.dictionaries.length

end State

/-- A run begins without a file. -/
def run (steps : List Step) : State := steps.foldl (fun s step => (s.step step).2) {}

/-! ### What a run should leave -/

/-- The value last saved under a name and a key, unless it was dropped since; the steps are read
from the last one back. -/
def latestIn (name key : String) : List Step → Option Doc
  | [] => none
  | .reset :: _ => none
  | .save n k v :: earlier => if n = name ∧ k = key then some v else latestIn name key earlier
  | _ :: earlier => latestIn name key earlier

def latest (name key : String) (steps : List Step) : Option Doc :=
  latestIn name key steps.reverse

/-- The settings are the defaults under the latest writes of the steps. -/
structure FollowsWrites (steps : List Step) (s : Settings) : Prop where
  value : ∀ name key, s.value? name key = (latest name key steps).or (defaults.value? name key)
  sections : ∀ name, s.sections.contains name = true ↔
    defaults.sections.contains name = true ∨ ∃ key, (latest name key steps).isSome = true

/-- Two settings with the same sections and values, in any order. -/
structure Same (s s' : Settings) : Prop where
  value : ∀ name key, s.value? name key = s'.value? name key
  sections : ∀ name, s.sections.contains name = s'.sections.contains name

/-! ### What a run writes -/

/-- The sections in the file behind one more step. -/
def storedStep (stored : OrderedMap String Section) : Step → OrderedMap String Section
  | .save name key v => stored.update name (fun found => (found.getD {}).insert key v)
  | .reset => {}
  | _ => stored

def stored (steps : List Step) : OrderedMap String Section := steps.foldl storedStep {}

/-- Whatever is written in the course of the steps comes back. -/
def KeepsTables (steps : List Step) : Prop :=
  ∀ before, before <+: steps → ComesBack (asTables (stored before))

theorem stored_append_singleton (steps : List Step) (x : Step) :
    stored (steps ++ [x]) = storedStep (stored steps) x := by
  simp [stored]

theorem run_append_singleton (steps : List Step) (x : Step) :
    run (steps ++ [x]) = ((run steps).step x).2 := by
  simp [run]

theorem KeepsTables.of_prefix {before steps : List Step} (h : KeepsTables steps)
    (hbefore : before <+: steps) : KeepsTables before :=
  fun front hfront => h front (hfront.trans hbefore)

theorem KeepsTables.comesBack {steps : List Step} (h : KeepsTables steps) :
    ComesBack (asTables (stored steps)) :=
  h steps List.prefix_rfl

/-- Setting a value in the tables of some sections sets it in the sections. -/
theorem withValue_asTables (sections : OrderedMap String Section) (name key : String) (v : Doc) :
    SettingsFile.withValue (asTables sections) name key v =
      .ok (asTables (storedStep sections (.save name key v))) := by
  let shown : Section → Doc := fun values => .object values.entries
  have hfound : OrderedMap.lookup name (asTables sections) = (sections.get? name).map shown :=
    OrderedMap.get?_mapValues name
  have hinsert : ∀ found : Option Section, found = sections.get? name →
      ((sections.mapValues shown).insert name (shown ((found.getD {}).insert key v))).entries =
        asTables (storedStep sections (.save name key v)) := by
    rintro found rfl
    rw [OrderedMap.insert, OrderedMap.update_mapValues (g := fun found =>
      (found.getD {}).insert key v) rfl]
    rfl
  rw [SettingsFile.withValue, hfound]
  cases h : sections.get? name with
  | none => exact congrArg Except.ok (hinsert none h.symm)
  | some values => exact congrArg Except.ok (hinsert (some values) h.symm)

/-! ### The file -/

/-- Tables that come back are there once they are written, unless there is a folder in the way. -/
theorem write_comesBack {f : SettingsFile} {tables : List (String × Doc)}
    (hplain : f.item ≠ some .folder) (h : ComesBack tables) :
    (f.write tables).1 = .ok true ∧ (f.write tables).2.tables = .ok tables ∧
      (f.write tables).2.item ≠ some .folder := by
  obtain ⟨text, hencode, hback⟩ := h
  have hwrite : f.write tables = (.ok true, ⟨some (.file (.text text))⟩) := by
    rw [SettingsFile.write]
    split
    next hfolder => exact absurd hfolder hplain
    next => rw [hencode]
  rw [hwrite]
  exact ⟨rfl, hback, by simp⟩

/-- The file holds the sections. -/
structure Holds (f : SettingsFile) (sections : OrderedMap String Section) : Prop where
  plain : f.item ≠ some .folder
  tables : f.tables = .ok (asTables sections)

theorem holds_empty : Holds {} {} where
  plain := by simp
  tables := rfl

/-- One step: a file that holds some sections holds what the step makes of them. -/
theorem Holds.step {s : State} {sections : OrderedMap String Section} {x : Step}
    (h : Holds s.file sections) (hback : ComesBack (asTables (storedStep sections x))) :
    (s.step x).1 = .ok true ∧ Holds (s.step x).2.file (storedStep sections x) := by
  cases x with
  | save name key v =>
    have hset : s.file.set name key v =
        s.file.write (asTables (storedStep sections (.save name key v))) := by
      rw [SettingsFile.set, h.tables]
      simp only [Except.bind, withValue_asTables]
    obtain ⟨hanswer, htables, hplain⟩ := write_comesBack h.plain hback
    rw [← hset] at hanswer htables hplain
    exact ⟨hanswer, hplain, htables⟩
  | reset =>
    obtain ⟨hanswer, htables, hplain⟩ := write_comesBack h.plain hback
    exact ⟨hanswer, hplain, htables⟩
  | load =>
    rw [State.step, h.tables]
    exact ⟨rfl, h⟩
  | edit loaded name key v => exact ⟨rfl, h⟩

theorem holds_run {steps : List Step} (h : KeepsTables steps) :
    Holds (run steps).file (stored steps) := by
  induction steps using List.reverseRecOn with
  | nil => exact holds_empty
  | append_singleton steps x ih =>
    have hback := h.comesBack
    rw [stored_append_singleton] at hback ⊢
    rw [run_append_singleton]
    exact ((ih (h.of_prefix (List.prefix_append _ _))).step hback).2

/-- Every step of a run succeeds. -/
theorem step_answer {before steps : List Step} {x : Step} (h : KeepsTables steps)
    (hbefore : before ++ [x] <+: steps) : ((run before).step x).1 = .ok true := by
  have hback := h _ hbefore
  rw [stored_append_singleton] at hback
  have hrun := holds_run (h.of_prefix ((List.prefix_append before [x]).trans hbefore))
  exact (hrun.step hback).1

/-! ### The defaults in memory -/

/-- The first dictionary holds the defaults. -/
structure KeepsDefaults (m : Memory) : Prop where
  separate : m.Separate
  first : 0 < m.dictionaries.length
  view : m.view 0 = defaults

theorem keepsDefaults_start : KeepsDefaults (({} : Memory).alloc defaults) where
  separate := Memory.separate_alloc Memory.separate_empty defaults
  first := by simp [Memory.alloc]
  view := Memory.view_alloc

theorem KeepsDefaults.load {m : Memory} (h : KeepsDefaults m) (tables : List (String × Doc)) :
    KeepsDefaults (m.load 0 tables) := by
  have hloaded := Memory.changed_load h.separate 0 tables
  have hne := Nat.ne_of_lt h.first
  refine ⟨hloaded.separate, ?_, (hloaded.others 0 hne).trans h.view⟩
  have hlength := Memory.length_dictionaries_load (m := m) 0 tables
  omega

theorem KeepsDefaults.edit {m : Memory} (h : KeepsDefaults m) (loaded : Nat) (name : String)
    (values : List (String × Doc)) : KeepsDefaults (m.overlay (loaded + 1) name values) where
  separate := Memory.separate_overlay h.separate
  first := by
    rw [Memory.length_dictionaries_overlay]
    exact h.first
  view := (Memory.view_overlay_of_ne h.separate (Nat.succ_ne_zero loaded).symm).trans h.view

theorem KeepsDefaults.step {s : State} (h : KeepsDefaults s.memory) (x : Step) :
    KeepsDefaults (s.step x).2.memory := by
  cases x with
  | save name key v => exact h
  | reset => exact h
  | load =>
    rw [State.step]
    split
    · exact h.load _
    · exact h
  | edit loaded name key v => exact h.edit loaded name _

/-- Whatever is done with settings, the defaults stay what they are. -/
theorem keepsDefaults_run (steps : List Step) : KeepsDefaults (run steps).memory := by
  induction steps using List.reverseRecOn with
  | nil => exact keepsDefaults_start
  | append_singleton steps x ih =>
    rw [run_append_singleton]
    exact ih.step x

/-- As the defaults in memory are the defaults, what is loaded is what the file makes of them. -/
theorem loaded_eq_settings {s : State} (h : KeepsDefaults s.memory) :
    s.loaded = s.file.settings := by
  rw [State.loaded, SettingsFile.settings]
  apply bind_congr
  intro tables
  rw [(Memory.changed_load h.separate 0 tables).view, h.view]

/-! ### Values under the tables of a file -/

/-- Sections with distinct names, each with distinct keys and a value. -/
structure Regular (sections : OrderedMap String Section) : Prop where
  names : sections.keys.Nodup
  keys : ∀ name values, sections.get? name = some values → values.keys.Nodup
  filled : ∀ name values, sections.get? name = some values → ∃ key, (values.get? key).isSome = true

theorem regular_empty : Regular {} where
  names := List.nodup_nil
  keys name values h := by cases h
  filled name values h := by cases h

theorem Regular.step {sections : OrderedMap String Section} (h : Regular sections) (x : Step) :
    Regular (storedStep sections x) := by
  cases x with
  | save name key v =>
    constructor
    · exact OrderedMap.nodup_keys_update h.names _ _
    · intro other values hvalues
      rw [storedStep, OrderedMap.get?_update] at hvalues
      split at hvalues
      next =>
        obtain rfl := Option.some.inj hvalues
        apply OrderedMap.nodup_keys_update
        cases hfound : sections.get? name with
        | none => exact List.nodup_nil
        | some found => exact h.keys name found hfound
      next => exact h.keys other values hvalues
    · intro other values hvalues
      rw [storedStep, OrderedMap.get?_update] at hvalues
      split at hvalues
      next =>
        obtain rfl := Option.some.inj hvalues
        exact ⟨key, by simp⟩
      next => exact h.filled other values hvalues
  | reset => exact regular_empty
  | load => exact h
  | edit loaded name key v => exact h

theorem regular_stored (steps : List Step) : Regular (stored steps) := by
  induction steps using List.reverseRecOn with
  | nil => exact regular_empty
  | append_singleton steps x ih =>
    rw [stored_append_singleton]
    exact ih.step x

/-- Tables with distinct names are laid over their own sections. -/
theorem get?_overlayAll {entries : List (String × Section)} (h : (entries.map (·.1)).Nodup)
    (s : Settings) (name : String) :
    (s.overlayAll (entries.map (fun e => (e.1, .object e.2.entries)))).sections.get? name =
      ((OrderedMap.lookup name entries).map
        (fun values => (s.section? name).insertAll values.entries)).or (s.sections.get? name) := by
  induction entries generalizing s with
  | nil => rfl
  | cons e rest ih =>
    obtain ⟨other, values⟩ := e
    obtain ⟨hnew, hrest⟩ := List.nodup_cons.1 h
    have hstep := ih hrest (s.overlay other values.entries)
    rw [List.map_cons, overlayAll, List.foldl_cons, ← overlayAll, hstep, get?_overlay,
      OrderedMap.lookup, section?, get?_overlay]
    by_cases hname : name = other
    · subst hname
      have hnone : OrderedMap.lookup name rest = none := by
        rw [← Option.not_isSome_iff_eq_none, OrderedMap.lookup_isSome_iff]
        exact hnew
      simp [hnone]
    · simp [hname, Ne.symm hname, section?]

/-- A value in the sections counts, and else the settings' own. -/
theorem value?_overlayAll {sections : OrderedMap String Section} (h : Regular sections)
    (s : Settings) (name key : String) :
    (s.overlayAll (asTables sections)).value? name key =
      ((sections.get? name).bind (·.get? key)).or (s.value? name key) := by
  have hsection := get?_overlayAll h.names s name
  rw [← OrderedMap.get?] at hsection
  rw [value?, section?, asTables, OrderedMap.mapValues, hsection]
  cases hvalues : sections.get? name with
  | none => rfl
  | some values => exact OrderedMap.get?_insertAll (h.keys name values hvalues) _ key

theorem contains_overlayAll {sections : OrderedMap String Section} (h : Regular sections)
    (s : Settings) (name : String) :
    (s.overlayAll (asTables sections)).sections.contains name = true ↔
      s.sections.contains name = true ∨
        ∃ key, ((sections.get? name).bind (·.get? key)).isSome = true := by
  have hsection := get?_overlayAll h.names s name
  rw [← OrderedMap.get?] at hsection
  rw [OrderedMap.contains, OrderedMap.contains, asTables, OrderedMap.mapValues, hsection]
  cases hvalues : sections.get? name with
  | none => simp
  | some values =>
    have hfilled := h.filled name values hvalues
    simp [hfilled]

/-! ### The latest writes -/

theorem latest_append_singleton (name key : String) (steps : List Step) (x : Step) :
    latest name key (steps ++ [x]) = latestIn name key (x :: steps.reverse) := by
  simp [latest]

/-- What is in the file under a name and a key is the value saved last. -/
theorem get?_stored (steps : List Step) (name key : String) :
    ((stored steps).get? name).bind (·.get? key) = latest name key steps := by
  induction steps using List.reverseRecOn with
  | nil => rfl
  | append_singleton steps x ih =>
    rw [stored_append_singleton, latest_append_singleton]
    cases x with
    | save n k v =>
      rw [storedStep, latestIn, OrderedMap.get?_update]
      by_cases hname : name = n
      · subst hname
        have hfound : (((stored steps).get? name).getD {}).get? key = latest name key steps := by
          rw [← ih]
          cases (stored steps).get? name <;> rfl
        rw [if_pos rfl, Option.bind_some, OrderedMap.get?_insert, hfound]
        by_cases hkey : key = k
        · simp [hkey]
        · simp [hkey, Ne.symm hkey, latest]
      · rw [if_neg hname, ih, if_neg (fun hand => hname hand.1.symm)]
        rfl
    | reset => rfl
    | load => exact ih
    | edit loaded n k v => exact ih

/-- Steps that leave the same latest writes do so whatever comes behind them. -/
theorem latest_append_congr {steps steps' : List Step}
    (h : ∀ name key, latest name key steps = latest name key steps') (after : List Step)
    (name key : String) : latest name key (steps ++ after) = latest name key (steps' ++ after) := by
  induction after using List.reverseRecOn with
  | nil => simpa using h name key
  | append_singleton after x ih =>
    rw [← List.append_assoc, ← List.append_assoc, latest_append_singleton, latest_append_singleton]
    cases x with
    | save n k v =>
      rw [latestIn, latestIn]
      split
      · rfl
      · exact ih
    | reset => rfl
    | load => exact ih
    | edit loaded n k v => exact ih

theorem latest_save_of_ne {name key other otherKey : String} (steps : List Step) (v : Doc)
    (h : ¬ (name = other ∧ key = otherKey)) :
    latest other otherKey (steps ++ [.save name key v]) = latest other otherKey steps := by
  rw [latest_append_singleton, latestIn, if_neg h]
  rfl

/-! ### What loading gives -/

/-- Nothing but the value of one name and key has changed, and the section that holds it. -/
structure ChangesOnly (name key : String) (s s' : Settings) : Prop where
  value : ∀ other otherKey, ¬ (name = other ∧ key = otherKey) →
    s'.value? other otherKey = s.value? other otherKey
  sections : ∀ other, other ≠ name → s'.sections.contains other = s.sections.contains other

theorem FollowsWrites.same {steps steps' : List Step} {s s' : Settings} (h : FollowsWrites steps s)
    (h' : FollowsWrites steps' s')
    (hlatest : ∀ name key, latest name key steps = latest name key steps') : Same s s' where
  value name key := by rw [h.value, h'.value, hlatest]
  sections name := by
    rw [Bool.eq_iff_iff, h.sections, h'.sections]
    simp only [hlatest]

theorem FollowsWrites.changesOnly {steps : List Step} {s s' : Settings} {name key : String}
    {v : Doc} (h : FollowsWrites steps s) (h' : FollowsWrites (steps ++ [.save name key v]) s') :
    ChangesOnly name key s s' where
  value other otherKey hne := by rw [h.value, h'.value, latest_save_of_ne steps v hne]
  sections other hne := by
    have hlatest : ∀ otherKey, latest other otherKey (steps ++ [.save name key v]) =
        latest other otherKey steps :=
      fun otherKey => latest_save_of_ne steps v (fun hand => hne hand.1.symm)
    rw [Bool.eq_iff_iff, h.sections, h'.sections]
    simp only [hlatest]

/-- What loading gives at the end of a run, if tables come back as they are written. -/
theorem loaded_run {steps : List Step} (h : KeepsTables steps) :
    ∃ s, (run steps).loaded = .ok s ∧ (run steps).file.settings = .ok s ∧
      FollowsWrites steps s := by
  have hloaded := loaded_eq_settings (keepsDefaults_run steps)
  have hregular := regular_stored steps
  have hsettings : (run steps).file.settings =
      .ok (defaults.overlayAll (asTables (stored steps))) := by
    rw [SettingsFile.settings, (holds_run h).tables]
    rfl
  refine ⟨_, hloaded.trans hsettings, hsettings, ?_, ?_⟩
  · intro name key
    rw [value?_overlayAll hregular, get?_stored]
  · intro name
    simp only [contains_overlayAll hregular, get?_stored]

theorem latest_swap {name key name' key' : String} (hne : ¬ (name = name' ∧ key = key'))
    (before after : List Step) (v v' : Doc) (other otherKey : String) :
    latest other otherKey (before ++ .save name key v :: .save name' key' v' :: after) =
      latest other otherKey (before ++ .save name' key' v' :: .save name key v :: after) := by
  have hpair : ∀ other otherKey,
      latest other otherKey (before ++ [.save name key v, .save name' key' v']) =
        latest other otherKey (before ++ [.save name' key' v', .save name key v]) := by
    intro other otherKey
    simp only [latest, List.reverse_append, List.reverse_cons, List.reverse_nil, List.nil_append,
      List.cons_append, latestIn]
    by_cases hfirst : name = other ∧ key = otherKey
    · have hsecond : ¬ (name' = other ∧ key' = otherKey) :=
        fun hand => hne ⟨hfirst.1.trans hand.1.symm, hfirst.2.trans hand.2.symm⟩
      rw [if_neg hsecond, if_pos hfirst, if_pos hfirst]
    · rw [if_neg hfirst, if_neg hfirst]
  have hrest := latest_append_congr hpair after other otherKey
  simpa using hrest

/-! ### Two saves in either order -/

/-- One save is dropped again, settings are loaded and changed in memory, and two saves follow. -/
def savedTwice (first second : Step) : List Step :=
  [.save "scoring" "contract_floor" (.int 75), .reset, .load,
    .edit 0 "impact" "max_nodes" (.int 999), first, second]

def saveOwner : Step := .save "ownership" "billing-worker" (.text "billing")

def saveDepth : Step := .save "impact" "max_depth" (.int 3)

theorem keepsTables_savedTwice {first second : Step}
    (hfirst : ComesBack (asTables (stored [first])))
    (hboth : ComesBack (asTables (stored [first, second]))) :
    KeepsTables (savedTwice first second) := by
  have hnone : ComesBack (asTables (stored [])) :=
    comesBack_of_text "" List.nodup_nil (List.forall_mem_nil _) rfl (by decide +kernel)
  have hplain : IsPlain ("scoring", ⟨[("contract_floor", .int 75)]⟩) :=
    isPlain_singleton (by decide +kernel) (by decide +kernel) (.int 75) rfl
  have hfloor : ComesBack (asTables (stored [.save "scoring" "contract_floor" (.int 75)])) :=
    comesBack_of_text "[scoring]\ncontract_floor = 75\n" (by decide)
      (List.forall_mem_singleton.2 hplain) (by decide +kernel) (by decide +kernel)
  intro before hbefore
  rw [← List.mem_inits] at hbefore
  simp only [savedTwice, List.inits, List.map_cons, List.map_nil, List.mem_cons,
    List.not_mem_nil, or_false] at hbefore
  rcases hbefore with rfl | rfl | rfl | rfl | rfl | rfl | rfl
  · exact hnone
  · exact hfloor
  · exact hnone
  · exact hnone
  · exact hnone
  · exact hfirst
  · exact hboth

theorem isPlain_owner : IsPlain ("ownership", ⟨[("billing-worker", .text "billing")]⟩) :=
  isPlain_singleton (by decide +kernel) (by decide +kernel) (.text "billing") rfl

theorem isPlain_depth : IsPlain ("impact", ⟨[("max_depth", .int 3)]⟩) :=
  isPlain_singleton (by decide +kernel) (by decide +kernel) (.int 3) rfl

theorem keepsTables_ownerFirst : KeepsTables (savedTwice saveOwner saveDepth) := by
  apply keepsTables_savedTwice
  · exact comesBack_of_text "[ownership]\nbilling-worker = \"billing\"\n" (by decide)
      (List.forall_mem_singleton.2 isPlain_owner) (by decide +kernel) (by decide +kernel)
  · exact comesBack_of_text
      "[ownership]\nbilling-worker = \"billing\"\n\n[impact]\nmax_depth = 3\n" (by decide)
      (List.forall_mem_cons.2 ⟨isPlain_owner, List.forall_mem_singleton.2 isPlain_depth⟩)
      (by decide +kernel) (by decide +kernel)

theorem keepsTables_depthFirst : KeepsTables (savedTwice saveDepth saveOwner) := by
  apply keepsTables_savedTwice
  · exact comesBack_of_text "[impact]\nmax_depth = 3\n" (by decide)
      (List.forall_mem_singleton.2 isPlain_depth) (by decide +kernel) (by decide +kernel)
  · exact comesBack_of_text
      "[impact]\nmax_depth = 3\n\n[ownership]\nbilling-worker = \"billing\"\n" (by decide)
      (List.forall_mem_cons.2 ⟨isPlain_depth, List.forall_mem_singleton.2 isPlain_owner⟩)
      (by decide +kernel) (by decide +kernel)

/-! ### The latest writes count -/

/-- Settings behave as the defaults under the latest writes, if tables come back as they are
written. Every step succeeds. Loading gives for each name and key the value saved last and not
dropped since, or else the default, or else none. A save changes nothing else, two saves of
different values may change places, and the defaults in memory are what they were, whatever is done
with settings that were loaded. -/
theorem loaded_follows_writes (steps : List Step) (h : KeepsTables steps) :
    (∀ before x, before ++ [x] <+: steps → ((run before).step x).1 = .ok true) ∧
    (run steps).memory.view 0 = defaults ∧
    (∃ s, (run steps).loaded = .ok s ∧ (run steps).file.settings = .ok s ∧
      FollowsWrites steps s) ∧
    (∀ before name key v, before ++ [.save name key v] <+: steps →
      ∃ s s', (run before).loaded = .ok s ∧ (run (before ++ [.save name key v])).loaded = .ok s' ∧
        ChangesOnly name key s s') ∧
    (∀ before after name key v name' key' v', ¬ (name = name' ∧ key = key') →
      steps = before ++ .save name key v :: .save name' key' v' :: after →
      KeepsTables (before ++ .save name' key' v' :: .save name key v :: after) →
      ∃ s s', (run steps).loaded = .ok s ∧
        (run (before ++ .save name' key' v' :: .save name key v :: after)).loaded = .ok s' ∧
        Same s s') := by
  refine ⟨fun before x hbefore => step_answer h hbefore, (keepsDefaults_run steps).view,
    loaded_run h, ?_, ?_⟩
  · intro before name key v hbefore
    obtain ⟨s, hloaded, -, hfollows⟩ :=
      loaded_run (h.of_prefix ((List.prefix_append before _).trans hbefore))
    obtain ⟨s', hloaded', -, hfollows'⟩ := loaded_run (h.of_prefix hbefore)
    exact ⟨s, s', hloaded, hloaded', hfollows.changesOnly hfollows'⟩
  · intro before after name key v name' key' v' hne hsteps hswapped
    obtain ⟨s, hloaded, -, hfollows⟩ := loaded_run h
    obtain ⟨s', hloaded', -, hfollows'⟩ := loaded_run hswapped
    subst hsteps
    exact ⟨s, s', hloaded, hloaded', hfollows.same hfollows' (latest_swap hne before after v v')⟩

/-- The dropped value is the default again, what was saved last is there, and the two saves may
change places. -/
theorem loaded_follows_writes_savedTwice :
    KeepsTables (savedTwice saveOwner saveDepth) ∧
    ∃ s s', (run (savedTwice saveOwner saveDepth)).loaded = .ok s ∧
      (run (savedTwice saveDepth saveOwner)).loaded = .ok s' ∧ Same s s' ∧
      s.value? "scoring" "contract_floor" = some (.int 60) ∧
      s.value? "impact" "max_nodes" = some (.int 50) ∧
      s.value? "impact" "max_depth" = some (.int 3) ∧
      s.value? "ownership" "billing-worker" = some (.text "billing") := by
  obtain ⟨-, -, ⟨s, hloaded, -, hfollows⟩, -, hswap⟩ :=
    loaded_follows_writes (savedTwice saveOwner saveDepth) keepsTables_ownerFirst
  obtain ⟨s₁, s', hloaded₁, hloaded', hsame⟩ :=
    hswap ((savedTwice saveOwner saveDepth).take 4) [] "ownership" "billing-worker"
      (.text "billing") "impact" "max_depth" (.int 3) (by decide) rfl keepsTables_depthFirst
  obtain rfl : s = s₁ := Except.ok.inj (hloaded.symm.trans hloaded₁)
  refine ⟨keepsTables_ownerFirst, s, s', hloaded, hloaded', hsame, ?_, ?_, ?_, ?_⟩
  · rw [hfollows.value]
    rfl
  · rw [hfollows.value]
    rfl
  · rw [hfollows.value]
    rfl
  · rw [hfollows.value]
    rfl

end RepoAtlas.Settings
