import Mathlib.Data.List.Perm.Basic
import RepoAtlas.Proofs.Files.Folders
import RepoAtlas.Proofs.OrderedMap
import RepoAtlas.Proofs.Sorting
import RepoAtlas.Types.Relations

/-!
Modules group the definitions of a repository by directory. Relationships are assigned by the name
at which they start, so one that starts at a name of several directories stands in all their modules,
and each relationship stands once, with its own file, exactly if no name is shared like that.
-/
namespace RepoAtlas.Types

open RepoAtlas.OrderedMap

/-! ### Directories -/

/-- The file stands in the directory. A file without a directory, or right below the root, stands
in `/`. -/
def LiesIn (file path : String) : Prop :=
  ∃ name : String, '/' ∉ name.toList ∧
    (path ≠ "" ∧ file = path ++ "/" ++ name ∨ path = "/" ∧ (file = name ∨ file = "/" ++ name))

theorem directory_of_notMem {file : String} (h : '/' ∉ file.toList) : directory file = "/" := by
  rw [directory, FileTree.splitAt_of_notMem h]
  rfl

theorem directory_append {name : String} (h : '/' ∉ name.toList) (path : String) :
    directory (path ++ "/" ++ name) = if path = "" then "/" else path := by
  have hparts : (Text.splitAt '/' (path ++ "/" ++ name).toList).dropLast =
      Text.splitAt '/' path.toList := by
    have htext : (path ++ "/" ++ name).toList = path.toList ++ '/' :: name.toList := by simp
    rw [htext, FileTree.splitAt_join, FileTree.splitAt_of_notMem h, List.dropLast_concat]
  rw [directory, hparts, Text.intercalate_splitAt, String.ofList_toList]
  simp only [String.isEmpty_iff]

/-- A text with slashes, cut at the last one. -/
theorem exists_append_name {file : String} (h : '/' ∈ file.toList) :
    ∃ path name : String, '/' ∉ name.toList ∧ file = path ++ "/" ++ name := by
  obtain ⟨back, front, hsplit, hback⟩ := List.eq_append_cons_of_mem (List.mem_reverse.2 h)
  refine ⟨String.ofList front.reverse, String.ofList back.reverse, by simpa using hback, ?_⟩
  rw [← String.toList_inj, ← List.reverse_inj, hsplit]
  simp

/-- A file stands in one directory. -/
theorem liesIn_iff {file path : String} : LiesIn file path ↔ directory file = path := by
  constructor
  · rintro ⟨name, hname, ⟨hpath, rfl⟩ | ⟨rfl, rfl | rfl⟩⟩
    · rw [directory_append hname, if_neg hpath]
    · exact directory_of_notMem hname
    · have htop := directory_append hname ""
      rwa [if_pos rfl, String.empty_append] at htop
  · rintro rfl
    by_cases hslash : '/' ∈ file.toList
    · obtain ⟨path, name, hname, rfl⟩ := exists_append_name hslash
      rw [directory_append hname]
      split
      next hpath =>
        rw [hpath, String.empty_append]
        exact ⟨name, hname, Or.inr ⟨rfl, Or.inr rfl⟩⟩
      next hpath => exact ⟨name, hname, Or.inl ⟨hpath, rfl⟩⟩
    · rw [directory_of_notMem hslash]
      exact ⟨file, hslash, Or.inr ⟨rfl, Or.inl rfl⟩⟩

theorem liesIn_directory (file : String) : LiesIn file (directory file) :=
  liesIn_iff.2 rfl

instance (file path : String) : Decidable (LiesIn file path) :=
  decidable_of_iff _ liesIn_iff.symm

/-- Some definition of the name stands in the directory. -/
def Declares (types : List TypeDefinition) (path name : String) : Prop :=
  ∃ t ∈ types, t.name = name ∧ LiesIn t.file path

instance (types : List TypeDefinition) (path name : String) : Decidable (Declares types path name) :=
  List.decidableBEx _ types

/-- The modules are the directories with definitions, in ascending order, each with the names of
what is defined there. -/
structure GroupsTypes (types : List TypeDefinition) (found : List TypeModule) : Prop where
  ascending : (found.map (·.path)).Pairwise (· < ·)
  once : ∀ t ∈ types, ∃! m, m ∈ found ∧ LiesIn t.file m.path
  names : ∀ m ∈ found, m.types ≠ [] ∧
    m.types = (types.filter (fun t => LiesIn t.file m.path)).map (·.name)

/-- A module lists what starts at one of its names, apart by where it leads. -/
structure FollowsNames (types : List TypeDefinition) (rels : List Relationship)
    (found : List TypeModule) : Prop where
  inner : ∀ m ∈ found, m.inner = rels.filter (fun r =>
    Declares types m.path r.source ∧ Declares types m.path r.target)
  outer : ∀ m ∈ found, m.outer = rels.filter (fun r =>
    Declares types m.path r.source ∧ ¬ Declares types m.path r.target)

/-- Each relationship stands once in all modules together, in that of its own file, and inside it
exactly if the directory declares its target. -/
structure PartsRelations (types : List TypeDefinition) (rels : List Relationship)
    (found : List TypeModule) : Prop where
  once : (found.flatMap (fun m => m.inner ++ m.outer)).Perm rels
  own : ∀ m ∈ found, ∀ r ∈ m.inner ++ m.outer, LiesIn r.file m.path
  inner : ∀ m ∈ found, ∀ r ∈ m.inner, Declares types m.path r.target
  outer : ∀ m ∈ found, ∀ r ∈ m.outer, ¬ Declares types m.path r.target

/-! ### What the modules hold -/

section Found

variable {types : List TypeDefinition} {rels : List Relationship}

/-- The module of a directory. -/
def moduleIn (types : List TypeDefinition) (rels : List Relationship) (path : String) :
    TypeModule :=
  moduleOf rels path (types.filter (fun t => LiesIn t.file path))

@[simp]
theorem path_moduleIn (path : String) : (moduleIn types rels path).path = path := rfl

/-- The names in a directory are those that it declares. -/
theorem contains_names_iff {path name : String} :
    ((types.filter (fun t => LiesIn t.file path)).map (·.name)).contains name = true ↔
      Declares types path name := by
  rw [List.contains_iff_mem, List.mem_map]
  constructor
  · rintro ⟨t, ht, rfl⟩
    obtain ⟨hmem, hlies⟩ := List.mem_filter.1 ht
    exact ⟨t, hmem, rfl, of_decide_eq_true hlies⟩
  · rintro ⟨t, ht, rfl, hlies⟩
    exact ⟨t, List.mem_filter.2 ⟨ht, decide_eq_true hlies⟩, rfl⟩

theorem inner_moduleIn (path : String) : (moduleIn types rels path).inner =
    rels.filter (fun r => Declares types path r.source ∧ Declares types path r.target) := by
  refine List.filter_filter.trans (List.filter_congr fun r _ => ?_)
  rw [Bool.eq_iff_iff, Bool.and_eq_true, decide_eq_true_iff, contains_names_iff,
    contains_names_iff, and_comm]

theorem outer_moduleIn (path : String) : (moduleIn types rels path).outer =
    rels.filter (fun r => Declares types path r.source ∧ ¬ Declares types path r.target) := by
  refine List.filter_filter.trans (List.filter_congr fun r _ => ?_)
  rw [Bool.eq_iff_iff, Bool.and_eq_true, decide_eq_true_iff, Bool.not_eq_true',
    ← Bool.not_eq_true, contains_names_iff, contains_names_iff, and_comm]

/-- A module lists all that starts at one of its names. -/
theorem perm_moduleIn (path : String) :
    ((moduleIn types rels path).inner ++ (moduleIn types rels path).outer).Perm
      (rels.filter (fun r => Declares types path r.source)) := by
  have hnames : ∀ r : Relationship, ((types.filter (fun t => LiesIn t.file path)).map
      (·.name)).contains r.source = decide (Declares types path r.source) := fun r => by
    rw [Bool.eq_iff_iff, decide_eq_true_iff, contains_names_iff]
  rw [← List.filter_congr fun r _ => hnames r]
  exact List.filter_append_perm _ _

theorem mem_modules_iff {m : TypeModule} : m ∈ modules types rels ↔
    ∃ path, (∃ t ∈ types, LiesIn t.file path) ∧ m = moduleIn types rels path := by
  have hgroup : ∀ path, types.filter (fun t => directory t.file = path) =
      types.filter (fun t => LiesIn t.file path) :=
    fun path => List.filter_congr fun t _ => decide_eq_decide.2 liesIn_iff.symm
  rw [modules, List.mem_mergeSort, List.mem_map]
  constructor
  · rintro ⟨⟨path, group⟩, hentry, rfl⟩
    obtain ⟨rfl, hne⟩ := (mem_entries_groupedBy _).1 hentry
    obtain ⟨t, ht⟩ := List.exists_mem_of_ne_nil _ hne
    rw [hgroup] at ht ⊢
    obtain ⟨hmem, hlies⟩ := List.mem_filter.1 ht
    exact ⟨path, ⟨t, hmem, of_decide_eq_true hlies⟩, rfl⟩
  · rintro ⟨path, ⟨t, ht, hlies⟩, rfl⟩
    refine ⟨(path, _), (mem_entries_groupedBy _).2 ⟨(hgroup path).symm, ?_⟩, rfl⟩
    exact List.ne_nil_of_mem (List.mem_filter.2 ⟨ht, decide_eq_true hlies⟩)

theorem moduleIn_mem {t : TypeDefinition} (ht : t ∈ types) {path : String}
    (hlies : LiesIn t.file path) : moduleIn types rels path ∈ modules types rels :=
  mem_modules_iff.2 ⟨path, ⟨t, ht, hlies⟩, rfl⟩

theorem pairwise_modules (types : List TypeDefinition) (rels : List Relationship) :
    ((modules types rels).map (·.path)).Pairwise (· < ·) := by
  rw [List.pairwise_map]
  refine strict_mergeSort_key (fun _ _ => decide_eq_true_iff) ?_
  rw [List.map_map]
  exact nodup_keys_groupedBy _ _

theorem groupsTypes_modules (types : List TypeDefinition) (rels : List Relationship) :
    GroupsTypes types (modules types rels) where
  ascending := pairwise_modules types rels
  once := by
    intro t ht
    have hlies := liesIn_directory t.file
    refine ⟨moduleIn types rels (directory t.file), ⟨moduleIn_mem ht hlies, ?_⟩, ?_⟩
    · rwa [path_moduleIn]
    rintro m ⟨hm, hother⟩
    obtain ⟨path, -, rfl⟩ := mem_modules_iff.1 hm
    rw [path_moduleIn, liesIn_iff] at hother
    rw [hother]
  names := by
    intro m hm
    obtain ⟨path, ⟨t, ht, hlies⟩, rfl⟩ := mem_modules_iff.1 hm
    exact ⟨List.ne_nil_of_mem (List.mem_map_of_mem
      (List.mem_filter.2 ⟨ht, decide_eq_true hlies⟩)), rfl⟩

theorem followsNames_modules (types : List TypeDefinition) (rels : List Relationship) :
    FollowsNames types rels (modules types rels) where
  inner := by
    intro m hm
    obtain ⟨path, -, rfl⟩ := mem_modules_iff.1 hm
    exact inner_moduleIn path
  outer := by
    intro m hm
    obtain ⟨path, -, rfl⟩ := mem_modules_iff.1 hm
    exact outer_moduleIn path

/-- What starts at a name stands in the module of each directory that declares it. -/
theorem mem_listed_iff {path : String} {r : Relationship} :
    r ∈ (moduleIn types rels path).inner ++ (moduleIn types rels path).outer ↔
      r ∈ rels ∧ Declares types path r.source := by
  rw [(perm_moduleIn path).mem_iff, List.mem_filter, decide_eq_true_iff]

end Found

/-! ### Relationships and their files -/

/-- A relationship was derived from a definition. -/
theorem exists_source_of_mem_relations {types : List TypeDefinition} {r : Relationship}
    (h : r ∈ relations types) : ∃ t ∈ types, t.name = r.source ∧ t.file = r.file := by
  obtain ⟨t, ht, hr⟩ := List.mem_flatMap.1 h
  refine ⟨t, ht, ?_⟩
  rw [relationsOf, List.mem_append, List.mem_append, List.mem_map, List.mem_map,
    List.mem_flatMap] at hr
  rcases hr with (⟨p, -, rfl⟩ | ⟨i, -, rfl⟩) | ⟨f, -, hf⟩
  · exact ⟨rfl, rfl⟩
  · exact ⟨rfl, rfl⟩
  · obtain ⟨target, -, rfl⟩ := List.mem_map.1 hf
    exact ⟨rfl, rfl⟩

section Parts

variable {types : List TypeDefinition} {r : Relationship}

/-- The directory of its file declares the name at which a relationship starts. -/
theorem declares_source (h : r ∈ relations types) {path : String} (hlies : LiesIn r.file path) :
    Declares types path r.source := by
  obtain ⟨t, ht, hname, hfile⟩ := exists_source_of_mem_relations h
  exact ⟨t, ht, hname, hfile ▸ hlies⟩

theorem PartsRelations.liesIn
    (h : PartsRelations types (relations types) (modules types (relations types)))
    (hr : r ∈ relations types) {path : String} (hsource : Declares types path r.source) :
    LiesIn r.file path := by
  have hlisted := mem_listed_iff.2 ⟨hr, hsource⟩
  obtain ⟨t, ht, -, hlies⟩ := hsource
  exact h.own _ (moduleIn_mem ht hlies) r hlisted

/-- Where only the directory of its file declares the name at which a relationship starts, its file
alone decides where it stands. -/
theorem partsRelations_modules
    (h : ∀ r ∈ relations types, ∀ path, Declares types path r.source → LiesIn r.file path) :
    PartsRelations types (relations types) (modules types (relations types)) where
  once := by
    have hfound : ∀ m ∈ modules types (relations types), (m.inner ++ m.outer).Perm
        ((relations types).filter (fun r => directory r.file == m.path)) := by
      intro m hm
      obtain ⟨path, -, rfl⟩ := mem_modules_iff.1 hm
      refine (perm_moduleIn path).trans (List.Perm.of_eq (List.filter_congr fun r hr => ?_))
      rw [Bool.eq_iff_iff, decide_eq_true_iff, beq_iff_eq]
      exact ⟨fun hsource => liesIn_iff.1 (h r hr path hsource),
        fun heq => declares_source hr (liesIn_iff.2 heq)⟩
    have hknown : ∀ r ∈ relations types,
        directory r.file ∈ (modules types (relations types)).map (·.path) := by
      intro r hr
      obtain ⟨t, ht, -, hfile⟩ := exists_source_of_mem_relations hr
      refine List.mem_map.2 ⟨_, moduleIn_mem ht (liesIn_directory t.file), ?_⟩
      rw [path_moduleIn, hfile]
    have hall := flatMap_filter_perm (fun r : Relationship => directory r.file)
      (pairwise_modules types (relations types)).nodup hknown
    rw [List.flatMap_map] at hall
    exact (List.Perm.flatMap_left _ hfound).trans hall
  own := by
    intro m hm r hr
    obtain ⟨path, -, rfl⟩ := mem_modules_iff.1 hm
    obtain ⟨hmem, hsource⟩ := mem_listed_iff.1 hr
    exact h r hmem path hsource
  inner := by
    intro m hm r hr
    rw [(followsNames_modules types _).inner m hm, List.mem_filter, decide_eq_true_iff] at hr
    exact hr.2.2
  outer := by
    intro m hm r hr
    rw [(followsNames_modules types _).outer m hm, List.mem_filter, decide_eq_true_iff] at hr
    exact hr.2.2

end Parts

/-- The modules of a repository group its definitions by directory, and list every relationship
under the name at which it starts. Each relationship stands once, with its own file, exactly if no
relationship starts at a name that another directory declares as well. -/
theorem modules_group (types : List TypeDefinition) (calls : List CallEdge) :
    GroupsTypes types (factsOf types calls).modules ∧
    FollowsNames types (factsOf types calls).relationships (factsOf types calls).modules ∧
    (PartsRelations types (factsOf types calls).relationships (factsOf types calls).modules ↔
      ∀ r ∈ (factsOf types calls).relationships, ∀ path, Declares types path r.source →
        LiesIn r.file path) :=
  ⟨groupsTypes_modules types _, followsNames_modules types _,
    fun h _ hr _ hsource => h.liesIn hr hsource, partsRelations_modules⟩

/-- Two directories with a type of one name, which has a parent in one of them. -/
def twoUsers : List TypeDefinition :=
  [{ name := "User", kind := .class_, file := "shop/user.py",
     parents := [{ name := "Base", raw := "Base" }] },
   { name := "User", kind := .class_, file := "bank/user.py" }]

/-- The parent of the one type is also listed for the other. -/
theorem not_partsRelations_twoUsers :
    ¬ PartsRelations twoUsers (factsOf twoUsers).relationships (factsOf twoUsers).modules := by
  intro h
  have hparent : ⟨.parent, "User", "Base", "shop/user.py", none⟩ ∈ relations twoUsers :=
    List.mem_cons_self
  have hbank : Declares twoUsers "bank" "User" := by decide
  exact absurd (h.liesIn hparent hbank) (by decide)

end RepoAtlas.Types
