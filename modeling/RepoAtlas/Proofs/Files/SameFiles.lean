import RepoAtlas.Proofs.Files.Folders
import RepoAtlas.Proofs.OrderedMap

/-!
Which files a tree holds and what they say. Making folders leaves the files alone, and writing a
file leaves the folders alone: where a path text leads depends on the folders only.
-/
namespace RepoAtlas.FileTree

variable {t u : FileTree} {here path : Path}

/-- What the file at a path holds, if there is one. -/
def file? (t : FileTree) (path : Path) : Option FileContent :=
  match t.find? path with
  | some (.file content) => some content
  | _ => none

/-- The trees hold the same files, each with the same content. -/
def SameFiles (t u : FileTree) : Prop := ∀ path, u.file? path = t.file? path

/-- The trees have the same folders. -/
def SameFolders (t u : FileTree) : Prop :=
  ∀ path, u.find? path = some .folder ↔ t.find? path = some .folder

theorem file?_congr (h : u.find? path = t.find? path) : u.file? path = t.file? path := by
  rw [file?, file?, h]

theorem file?_eq_some_iff {path : Path} {content : FileContent} :
    t.file? path = some content ↔ t.find? path = some (.file content) := by
  rw [file?]
  cases t.find? path with
  | none => simp
  | some item => cases item <;> simp

theorem file?_eq_none_of_folder (h : t.find? path = some .folder) : t.file? path = none := by
  rw [file?, h]

/-! ### Files -/

theorem file?_put (content : FileContent) (hpath : path ≠ []) (other : Path) :
    (t.put path (.file content)).file? other =
      if other = path then some content else t.file? other := by
  by_cases hnil : other = []
  · rw [hnil, if_neg hpath.symm]
    rfl
  · rw [file?, find?_put _ _ hnil]
    by_cases hsame : other = path
    · rw [if_pos hsame, if_pos hsame]
    · rw [if_neg hsame, if_neg hsame]
      rfl

theorem file?_erase (hpath : path ≠ []) (other : Path) :
    (t.erase path).file? other = if path <+: other then none else t.file? other := by
  by_cases hnil : other = []
  · rw [hnil, if_neg (fun h => hpath (List.prefix_nil.1 h))]
    rfl
  · rw [file?, find?_erase _ hnil]
    by_cases hbelow : path <+: other
    · rw [if_pos hbelow, if_pos hbelow]
    · rw [if_neg hbelow, if_neg hbelow]
      rfl

/-- The second tree has all the files of the first but one. -/
def LeavesOut (t u : FileTree) (path : Path) : Prop :=
  ∀ other, u.file? other = if other = path then none else t.file? other

/-- A file that is erased is left out, and no other, because nothing is below a file. -/
theorem Grounded.leavesOut_erase (ht : t.Grounded) {content : FileContent}
    (h : t.file? path = some content) : t.LeavesOut (t.erase path) path := by
  have hfile := file?_eq_some_iff.1 h
  have hpath : path ≠ [] := by
    rintro rfl
    cases hfile
  intro other
  rw [file?_erase hpath]
  by_cases hsame : other = path
  · rw [if_pos hsame, if_pos (hsame ▸ List.prefix_rfl)]
  rw [if_neg hsame]
  split
  next hbelow =>
    obtain ⟨below, rfl⟩ := hbelow
    have hne : below ≠ [] := by
      rintro rfl
      exact hsame (List.append_nil _)
    cases hother : t.file? (path ++ below) with
    | none => rfl
    | some found =>
      have hfolder := ht.find?_above hne (by rw [file?_eq_some_iff.1 hother]; rfl)
      rw [hfile] at hfolder
      cases hfolder
  next => rfl

theorem SameFiles.put_folder (h : SameFiles t u) (hnone : u.find? path = none) :
    SameFiles t (u.put path .folder) := by
  intro other
  rw [← h other]
  by_cases hsame : other = path
  · subst hsame
    have hnil : other ≠ [] := by
      rintro rfl
      cases hnone
    have hfolder : (u.put other .folder).find? other = some .folder := by
      rw [find?_put _ _ hnil, if_pos rfl]
    rw [file?_eq_none_of_folder hfolder, file?, hnone]
  · by_cases hnil : other = []
    · rw [hnil]
      rfl
    · exact file?_congr (by rw [find?_put _ _ hnil, if_neg hsame])

/-- Folders are made where nothing stands. -/
theorem SameFiles.makeFolders {names : List String} {next : FileTree} (h : SameFiles t u)
    (hmake : FileTree.makeFolders here names u = .ok next) : SameFiles t next := by
  induction names generalizing here u with
  | nil =>
    cases hmake
    exact h
  | cons name rest ih =>
    rw [FileTree.makeFolders] at hmake
    split at hmake
    · cases hmake
    · split at hmake
      next => exact ih h hmake
      next => cases hmake
      next hnone => exact ih (h.put_folder hnone) hmake

/-! ### Folders -/

theorem SameFolders.put_file (h : SameFolders t u) (hpath : u.find? path ≠ some .folder)
    (content : FileContent) : SameFolders t (u.put path (.file content)) := by
  intro other
  rw [← h other]
  by_cases hnil : other = []
  · rw [hnil]
    rfl
  · rw [find?_put _ _ hnil]
    by_cases hsame : other = path
    · rw [if_pos hsame, hsame]
      exact iff_of_false (by simp) hpath
    · rw [if_neg hsame]

/-- Names lead to the same place where the folders are the same. -/
theorem SameFolders.follow_eq_ok_iff (h : SameFolders t u) {names : List String} :
    u.follow here names = .ok path ↔ t.follow here names = .ok path := by
  induction names generalizing here with
  | nil => exact Iff.rfl
  | cons name rest ih =>
    rw [follow, follow]
    split
    · exact Iff.rfl
    · dsimp only
      split
      · exact Iff.rfl
      · generalize (if name = ".." then here.dropLast else here ++ [name]) = next
        have hnext := h next
        by_cases hfolder : t.find? next = some .folder
        · rw [hfolder, hnext.2 hfolder]
          exact ih
        · have hfolder' := mt hnext.1 hfolder
          constructor
          · intro hfollow
            split at hfollow
            next heq => exact absurd heq hfolder'
            next => cases hfollow
            next => cases hfollow
          · intro hfollow
            split at hfollow
            next heq => exact absurd heq hfolder
            next => cases hfollow
            next => cases hfollow

theorem SameFolders.resolve_eq_ok_iff (h : SameFolders t u) {text : String} :
    u.resolve here text = .ok path ↔ t.resolve here text = .ok path := by
  rw [resolve, resolve]
  split
  · exact Iff.rfl
  · dsimp only
    generalize (if text.toList.head? = some '/' then [] else here) = start
    have hfollow := @SameFolders.follow_eq_ok_iff t u start path h (pathParts text)
    constructor
    · intro hresolve
      split at hresolve
      next heq =>
        cases hresolve
        rw [hfollow.1 heq]
      next => cases hresolve
    · intro hresolve
      split at hresolve
      next heq =>
        cases hresolve
        rw [hfollow.2 heq]
      next => cases hresolve

/-! ### Files below a folder -/

theorem mem_filesBelow_entry {e : Path × TreeItem} {f : Path × FileContent} :
    (match e.2 with
      | .file content => if here.isPrefixOf e.1 then some (e.1.drop here.length, content) else none
      | .folder => none) = some f ↔ e = (here ++ f.1, .file f.2) := by
  obtain ⟨path, content⟩ := f
  obtain ⟨p, _ | found⟩ := e
  · simp
  · dsimp only
    split
    next hbelow =>
      obtain ⟨rest, rfl⟩ := List.isPrefixOf_iff_prefix.1 hbelow
      simp
    next hbelow =>
      refine iff_of_false (by simp) ?_
      rintro ⟨⟩
      exact hbelow (List.isPrefixOf_iff_prefix.2 (List.prefix_append _ _))

theorem mem_filesBelow (ht : t.Distinct) {path : Path} {content : FileContent}
    (hpath : path ≠ []) :
    (path, content) ∈ t.filesBelow here ↔ t.file? (here ++ path) = some content := by
  have hentry : t.file? (here ++ path) = some content ↔
      (here ++ path, .file content) ∈ t.items.entries := by
    rw [file?_eq_some_iff, OrderedMap.mem_entries_iff ht, find?, if_neg (by simp [hpath])]
  rw [hentry, filesBelow, List.mem_filterMap]
  exact (exists_congr fun e => and_congr_right fun _ => mem_filesBelow_entry).trans
    exists_eq_right

theorem nodup_filesBelow (ht : t.Distinct) (here : Path) :
    ((t.filesBelow here).map (·.1)).Nodup := by
  rw [List.Nodup, List.pairwise_map, filesBelow, List.pairwise_filterMap]
  refine (List.pairwise_map.1 ht).imp fun hne f hf g hg hsame => hne ?_
  rw [mem_filesBelow_entry.1 hf, mem_filesBelow_entry.1 hg, hsame]

end RepoAtlas.FileTree
