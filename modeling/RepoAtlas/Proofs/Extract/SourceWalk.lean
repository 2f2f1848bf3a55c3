import Mathlib.Data.List.Lex
import Mathlib.Order.Lex
import RepoAtlas.Extract.Capture
import RepoAtlas.Proofs.Files.SameFiles
import RepoAtlas.Proofs.Sorting

/-!
The walk over a working tree finds each source file once, in an order that depends on the paths
only. A file that is taken away leaves the others in their order.
-/
namespace RepoAtlas.SourceWalk

open FileTree

variable {t u : FileTree} {root : Path}

/-! ### The order of paths -/

/-- The names on a path, each with whether it is that of a folder. -/
def walkKey : Path → List (Bool ×ₗ String)
  | [] => []
  | name :: rest => toLex (!rest.isEmpty, name) :: walkKey rest

/-- A file comes before the folders beside it. -/
theorem walkKey_cons_lt_iff {a b : String} {p q : Path} :
    walkKey (a :: p) < walkKey (b :: q) ↔
      p = [] ∧ q ≠ [] ∨ (p = [] ↔ q = []) ∧ (a < b ∨ a = b ∧ walkKey p < walkKey q) := by
  rw [walkKey, walkKey, List.cons_lt_cons_iff, Prod.Lex.toLex_lt_toLex, toLex_inj, Prod.mk.injEq]
  cases p <;> cases q <;> simp

theorem before_iff (p q : Path) : before p q = true ↔ walkKey p ≤ walkKey q := by
  rw [← not_lt]
  fun_induction before p q with
  | case1 q => exact iff_of_true rfl (List.not_lt_nil _)
  | case2 p hp =>
    cases p with
    | nil => exact absurd rfl hp
    | cons a rest => exact iff_of_false Bool.false_ne_true (not_not.2 (List.nil_lt_cons _ _))
  | case3 a b =>
    rw [walkKey_cons_lt_iff, decide_eq_true_iff, ← not_lt]
    simp
  | case4 a q hq hmany =>
    cases q with
    | nil => exact absurd rfl hq
    | cons b rest =>
      have hrest : rest ≠ [] := fun h => hmany b (by rw [h])
      rw [walkKey_cons_lt_iff]
      simp [hrest]
  | case5 p b hp hmany =>
    cases p with
    | nil => exact absurd rfl hp
    | cons a rest =>
      have hrest : rest ≠ [] := fun h => hmany a (by rw [h])
      rw [walkKey_cons_lt_iff]
      simp [hrest]
  | case6 p b q hfiles hp hq ih =>
    have hp' : p ≠ [] := hp
    have hq' : q ≠ [] := hq
    rw [ih, walkKey_cons_lt_iff]
    simp [hp', hq']
  | case7 a p b q hfiles hp hq hne =>
    have hp' : p ≠ [] := hp
    have hq' : q ≠ [] := hq
    have hflip : a < b ↔ ¬ b < a := ⟨lt_asymm, (lt_or_gt_of_ne hne).resolve_right⟩
    rw [walkKey_cons_lt_iff, decide_eq_true_iff, hflip]
    simp [hp', hq', Ne.symm hne]

theorem map_walkKey (p : Path) : (walkKey p).map (fun k => (ofLex k).2) = p := by
  induction p with
  | nil => rfl
  | cons name rest ih => rw [walkKey, List.map_cons, ih, ofLex_toLex]

theorem walkKey_injective : Function.Injective walkKey :=
  Function.LeftInverse.injective map_walkKey

/-- A file that the walk finds before another. -/
def Precedes (f g : Path × FileContent) : Prop := walkKey f.1 < walkKey g.1

instance : Std.Irrefl Precedes := ⟨fun _ => lt_irrefl _⟩

instance : Std.Asymm Precedes := ⟨fun _ _ => lt_asymm⟩

/-! ### The walk -/

/-- A file is one of the source files below a folder if it is there and its path is that of a
source. -/
theorem mem_sourceFiles (ht : t.Distinct) {path : Path} {content : FileContent} :
    (path, content) ∈ sourceFiles t root ↔
      t.file? (root ++ path) = some content ∧ isSource path = true := by
  rw [sourceFiles, List.mem_mergeSort, List.mem_filter]
  refine and_congr_left fun hsource => mem_filesBelow ht ?_
  rintro rfl
  exact absurd (show isSource [] = true from hsource) (by decide)

theorem ne_nil_of_mem_sourceFiles (ht : t.Distinct) {f : Path × FileContent}
    (hf : f ∈ sourceFiles t root) : f.1 ≠ [] := by
  intro hnil
  have hsource := ((mem_sourceFiles ht).1 hf).2
  rw [hnil] at hsource
  exact absurd hsource (by decide)

theorem mem_keys_of_mem_sourceFiles (ht : t.Distinct) {f : Path × FileContent}
    (hf : f ∈ sourceFiles t root) : root ++ f.1 ∈ t.items.keys := by
  have hne := ne_nil_of_mem_sourceFiles ht hf
  have hfile := file?_eq_some_iff.1 ((mem_sourceFiles ht).1 hf).1
  rw [← find?_isSome_iff (by simp [hne]), hfile]
  rfl

/-- The files come in the order of the walk, each once. -/
theorem pairwise_sourceFiles (ht : t.Distinct) (root : Path) :
    (sourceFiles t root).Pairwise Precedes := by
  refine strict_mergeSort_key (fun f g => before_iff f.1 g.1) ?_
  have hpaths : (((t.filesBelow root).filter (fun f => isSource f.1)).map (·.1)).Nodup :=
    (nodup_filesBelow ht root).sublist (List.filter_sublist.map _)
  rw [← List.nodup_map_iff walkKey_injective, List.map_map] at hpaths
  exact hpaths

/-- Without one of the files, the walk finds the others. -/
theorem sourceFiles_without (ht : t.Distinct) (hu : u.Distinct) {path : Path}
    (h : t.LeavesOut u (root ++ path)) :
    sourceFiles u root = (sourceFiles t root).filter (fun f => f.1 ≠ path) := by
  refine (pairwise_sourceFiles hu root).eq_of_mem_iff
    ((pairwise_sourceFiles ht root).sublist List.filter_sublist) ?_
  rintro ⟨other, content⟩
  rw [mem_sourceFiles hu, List.mem_filter, mem_sourceFiles ht, h _, decide_eq_true_iff]
  by_cases hsame : other = path
  · simp [hsame]
  · simp [hsame]

/-! ### Folder by folder -/

/-- The source files that lie in a folder itself, by name. -/
def filesIn (t : FileTree) (root : Path) : List (Path × FileContent) :=
  (sortedSet (t.children root)).filterMap (fun name =>
    if isSource [name] then (t.file? (root ++ [name])).map (fun content => ([name], content))
    else none)

/-- The folders in a folder that the walk goes into, by name. -/
def subfolders (t : FileTree) (root : Path) : List String :=
  (sortedSet (t.children root)).filter (fun name =>
    t.isFolder (root ++ [name]) && !isSkipped name)

theorem isSource_folder {folder : String} {path : Path} (h : path ≠ []) :
    isSource (folder :: path) = true ↔ isSkipped folder = false ∧ isSource path = true := by
  obtain ⟨name, rest, rfl⟩ := List.exists_cons_of_ne_nil h
  simp [isSource, and_assoc]

theorem mem_filesIn {path : Path} {content : FileContent} :
    (path, content) ∈ filesIn t root ↔
      ∃ name, path = [name] ∧ t.file? (root ++ path) = some content ∧ isSource path = true := by
  rw [filesIn, List.mem_filterMap]
  constructor
  · rintro ⟨name, -, hfile⟩
    split at hfile
    next hsource =>
      obtain ⟨found, hfound, hsame⟩ := Option.map_eq_some_iff.1 hfile
      obtain ⟨rfl, rfl⟩ := Prod.mk.inj hsame
      exact ⟨name, rfl, hfound, hsource⟩
    next => cases hfile
  · rintro ⟨name, rfl, hfile, hsource⟩
    refine ⟨name, ?_, by rw [if_pos hsource, hfile, Option.map_some]⟩
    rw [mem_sortedSet, mem_children, file?_eq_some_iff.1 hfile]
    rfl

theorem mem_subfolders {folder : String} :
    folder ∈ subfolders t root ↔
      t.find? (root ++ [folder]) = some .folder ∧ isSkipped folder = false := by
  rw [subfolders, List.mem_filter, mem_sortedSet, mem_children, isFolder, Bool.and_eq_true,
    beq_iff_eq, Bool.not_eq_true']
  refine and_iff_right_of_imp fun h => ?_
  rw [h.1]
  rfl

theorem pairwise_filesIn (t : FileTree) (root : Path) :
    (filesIn t root).Pairwise Precedes := by
  rw [filesIn, List.pairwise_filterMap]
  refine (pairwise_sortedSet _).imp fun hlt f hf g hg => ?_
  split at hf
  · obtain ⟨_, -, rfl⟩ := Option.map_eq_some_iff.1 hf
    split at hg
    · obtain ⟨_, -, rfl⟩ := Option.map_eq_some_iff.1 hg
      exact walkKey_cons_lt_iff.2 (Or.inr ⟨.rfl, Or.inl hlt⟩)
    · cases hg
  · cases hf

/-- The walk finds the files of a folder first, then those of its subfolders, one subfolder after
the other. -/
theorem sourceFiles_eq_walk (ht : t.Distinct) (hground : t.Grounded) (root : Path) :
    sourceFiles t root = filesIn t root ++ (subfolders t root).flatMap (fun folder =>
      (sourceFiles t (root ++ [folder])).map (fun f => (folder :: f.1, f.2))) := by
  have hdeep : ∀ folder, ∀ f ∈ sourceFiles t (root ++ [folder]), f.1 ≠ [] :=
    fun _ _ hf => ne_nil_of_mem_sourceFiles ht hf
  refine (pairwise_sourceFiles ht root).eq_of_mem_iff ?_ ?_
  · rw [List.pairwise_append, List.pairwise_flatMap]
    refine ⟨pairwise_filesIn t root, ⟨fun folder _ => ?_, ?_⟩, ?_⟩
    · rw [List.pairwise_map]
      refine (pairwise_sourceFiles ht _).imp_of_mem fun hf hg hlt => ?_
      exact walkKey_cons_lt_iff.2 (Or.inr
        ⟨iff_of_false (hdeep _ _ hf) (hdeep _ _ hg), Or.inr ⟨rfl, hlt⟩⟩)
    · refine ((pairwise_sortedSet _).sublist List.filter_sublist).imp fun hlt f hf g hg => ?_
      obtain ⟨_, hf', rfl⟩ := List.mem_map.1 hf
      obtain ⟨_, hg', rfl⟩ := List.mem_map.1 hg
      exact walkKey_cons_lt_iff.2 (Or.inr
        ⟨iff_of_false (hdeep _ _ hf') (hdeep _ _ hg'), Or.inl hlt⟩)
    · intro f hf g hg
      obtain ⟨name, hname, -⟩ := mem_filesIn.1 hf
      obtain ⟨folder, -, hg⟩ := List.mem_flatMap.1 hg
      obtain ⟨_, hg', rfl⟩ := List.mem_map.1 hg
      rw [Precedes, hname]
      exact walkKey_cons_lt_iff.2 (Or.inl ⟨rfl, hdeep _ _ hg'⟩)
  · rintro ⟨path, content⟩
    rw [List.mem_append, mem_sourceFiles ht, mem_filesIn, List.mem_flatMap]
    constructor
    · rintro ⟨hfile, hsource⟩
      cases path with
      | nil => exact absurd hsource (by decide)
      | cons folder rest =>
        by_cases hrest : rest = []
        · exact Or.inl ⟨folder, by rw [hrest], hfile, hsource⟩
        · obtain ⟨hskip, hsource⟩ := (isSource_folder hrest).1 hsource
          refine Or.inr ⟨folder, mem_subfolders.2 ⟨?_, hskip⟩, List.mem_map.2
            ⟨(rest, content), (mem_sourceFiles ht).2 ⟨?_, hsource⟩, rfl⟩⟩
          · refine hground.find?_above hrest ?_
            rw [List.append_assoc, List.singleton_append, file?_eq_some_iff.1 hfile]
            rfl
          · rwa [List.append_assoc]
    · rintro (⟨name, -, h⟩ | ⟨folder, hfolder, hfile⟩)
      · exact h
      · obtain ⟨⟨rest, _⟩, hrest, hsame⟩ := List.mem_map.1 hfile
        obtain ⟨rfl, rfl⟩ := Prod.mk.inj hsame
        have hne := hdeep _ _ hrest
        obtain ⟨hfile, hsource⟩ := (mem_sourceFiles ht).1 hrest
        rw [List.append_assoc] at hfile
        exact ⟨hfile, (isSource_folder hne).2 ⟨(mem_subfolders.1 hfolder).2, hsource⟩⟩

/-- A walk that goes down to some depth: the source files of a folder, and then what is found in its
subfolders, one after the other. What is skipped is never looked into. -/
def walk (t : FileTree) : Nat → Path → List (Path × FileContent)
  | 0, _ => []
  | depth + 1, root => filesIn t root ++ (subfolders t root).flatMap (fun folder =>
      (walk t depth (root ++ [folder])).map (fun f => (folder :: f.1, f.2)))

/-- A walk that goes down to the end of every path finds all the source files. -/
theorem walk_eq_sourceFiles (ht : t.Distinct) (hground : t.Grounded) {depth : Nat}
    (hdepth : ∀ path ∈ t.items.keys, path.length ≤ root.length + depth) :
    walk t depth root = sourceFiles t root := by
  induction depth generalizing root with
  | zero =>
    symm
    rw [walk, List.eq_nil_iff_forall_not_mem]
    rintro ⟨path, content⟩ hf
    have hpos : 0 < path.length := List.length_pos_iff.2 (ne_nil_of_mem_sourceFiles ht hf)
    have hlength := hdepth (root ++ path) (mem_keys_of_mem_sourceFiles ht hf)
    rw [List.length_append] at hlength
    omega
  | succ depth ih =>
    rw [walk, sourceFiles_eq_walk ht hground]
    congr 1
    apply List.flatMap_congr
    intro folder _
    rw [ih]
    intro path hpath
    have hlength := hdepth path hpath
    rw [List.length_append, List.length_singleton]
    omega

end RepoAtlas.SourceWalk
