import RepoAtlas.Proofs.Store.Saving

/-!
Which paths a save touches, however it ends: the folder of the repository, the folder of the
snapshot and the files in it. All other paths lead where they led before.
-/
namespace RepoAtlas

namespace FileTree

variable {t next : FileTree} {here path : Path} {names : List String}

/-- What every new folder upholds is upheld by making folders. -/
theorem makeFolders_upholds (holds : FileTree → Prop)
    (hput : ∀ u made, made <+: names → made ≠ [] → holds u → holds (u.put (here ++ made) .folder))
    (h : makeFolders here names t = .ok next) (ht : holds t) : holds next := by
  induction names generalizing here t with
  | nil =>
    cases h
    exact ht
  | cons name rest ih =>
    have hrest : ∀ u made, made <+: rest → made ≠ [] → holds u →
        holds (u.put (here ++ [name] ++ made) .folder) := by
      intro u made hmade _ hu
      rw [List.append_assoc]
      exact hput u _ ((List.prefix_cons_inj name).2 hmade) (by simp) hu
    rw [makeFolders] at h
    split at h
    · cases h
    · split at h
      · exact ih hrest h ht
      · cases h
      · have hfirst : [name] <+: name :: rest := (List.prefix_cons_inj name).2 List.nil_prefix
        exact ih hrest h (hput t [name] hfirst (by simp) ht)

/-- Plain names lead nowhere but to the path that they spell. -/
theorem follow_eq_ok (hnames : ∀ name ∈ names, IsName name)
    (h : t.follow here names = .ok path) : path = here ++ names := by
  induction names generalizing here with
  | nil =>
    cases h
    exact (List.append_nil _).symm
  | cons name rest ih =>
    rw [follow, if_neg (hnames name List.mem_cons_self).ne_dots] at h
    split at h
    · cases h
    · dsimp only at h
      split at h
      next hlast =>
        cases h
        rw [List.isEmpty_iff.1 hlast]
      next =>
        split at h
        · rw [ih (fun n hn => hnames n (List.mem_cons_of_mem name hn)) h, List.append_assoc]
          rfl
        · cases h
        · cases h

theorem resolve_joined_eq_ok (hnames : ∀ name ∈ names, IsName name)
    (h : t.resolve [] (joined names) = .ok path) : path = names := by
  rw [resolve_joined t hnames] at h
  split at h
  next found hfollow =>
    cases h
    exact follow_eq_ok hnames hfollow
  next => cases h

theorem writeAt_eq_ok {content : FileContent} (h : t.writeAt path content = .ok next) :
    next = t.put path (.file content) := by
  unfold writeAt at h
  split at h
  · cases h
  · cases h
    rfl
  · cases h
  · cases h

theorem removeFolder_eq_ok (h : t.removeFolder path = .ok next) : next = t.erase path := by
  unfold removeFolder at h
  split at h
  · cases h
    rfl
  · cases h
  · cases h

end FileTree

namespace Store

/-! ### What a change upholds -/

namespace Change

variable {α β : Type} {holds : FileTree → Prop}

/-- What holds of the tree before a change holds after it, also if the change fails. -/
def Upholds (holds : FileTree → Prop) (c : Change α) : Prop :=
  ∀ store : Store, holds store.tree → holds (c.run store).2.tree

theorem upholds_pure (a : α) : Upholds holds (pure a : Change α) := fun _ h => h

theorem upholds_get : Upholds holds (get : Change FileTree) := fun _ h => h

theorem upholds_lift (r : Result α) : Upholds holds (lift r) := by
  intro store h
  cases r with
  | ok a => exact h
  | error fault => exact h

theorem upholds_step {f : FileTree → Result FileTree}
    (hf : ∀ t next, f t = .ok next → holds t → holds next) : Upholds holds (step f) := by
  intro store h
  cases hstep : f store.tree with
  | ok next =>
    rw [run_step_ok hstep]
    exact hf _ _ hstep h
  | error fault =>
    rw [run_step_error hstep]
    exact h

theorem Upholds.bind {c : Change α} {f : α → Change β} (hc : Upholds holds c)
    (hf : ∀ a, Upholds holds (f a)) : Upholds holds (c >>= f) := by
  intro store h
  have hfirst := hc store h
  rw [run_bind]
  split
  next a next hrun =>
    rw [hrun] at hfirst
    exact hf a next hfirst
  next fault next hrun =>
    rw [hrun] at hfirst
    exact hfirst

theorem upholds_forM {f : α → Change Unit} {items : List α}
    (hf : ∀ a ∈ items, Upholds holds (f a)) : Upholds holds (items.forM f) := by
  induction items with
  | nil => exact upholds_pure ()
  | cons a rest ih =>
    rw [List.forM]
    refine (hf a List.mem_cons_self).bind fun _ => ih ?_
    exact fun b hb => hf b (List.mem_cons_of_mem a hb)

end Change

/-! ### The footprint of a save -/

section Footprint

variable {t u next : FileTree} {repo folder name : String} {s : Snapshot}

/-- The trees agree outside one folder and but for the one around it, and no path is longer than
that of a file in the folder. -/
structure Beside (t next : FileTree) (repo folder : String) : Prop where
  outside : ∀ path, path ≠ [repo] → ¬ [repo, folder] <+: path → next.find? path = t.find? path
  shallow : ∀ path, 3 < path.length → next.find? path = none

theorem Beside.other_folder (h : Beside t next repo folder) {r f : String}
    (hother : ¬ (r = repo ∧ f = folder)) (below : Path) :
    next.find? (r :: f :: below) = t.find? (r :: f :: below) := by
  refine h.outside _ (by simp) ?_
  rintro ⟨tail, heq⟩
  simp only [List.cons_append, List.nil_append, List.cons.injEq] at heq
  exact hother ⟨heq.1.symm, heq.2.1.symm⟩

theorem Beside.start (h : ∀ path, 3 < path.length → t.find? path = none) :
    Beside t t repo folder := ⟨fun _ _ _ => rfl, h⟩

/-- Something is put in the place of the repository or of the folder, or into the folder. -/
theorem Beside.put (h : Beside t u repo folder) {place : Path}
    (hplace : place = [repo] ∨ [repo, folder] <+: place) (hshort : place.length ≤ 3)
    (item : TreeItem) : Beside t (u.put place item) repo folder where
  outside := by
    intro path htop hpath
    by_cases hnil : path = []
    · rw [hnil]
      rfl
    · have hother : path ≠ place := by
        rintro rfl
        exact hplace.elim htop hpath
      rw [FileTree.find?_put _ _ hnil, if_neg hother, h.outside path htop hpath]
  shallow := by
    intro path hlong
    have hnil : path ≠ [] := List.ne_nil_of_length_pos (by omega)
    have hother : path ≠ place := by
      rintro rfl
      omega
    rw [FileTree.find?_put _ _ hnil, if_neg hother, h.shallow path hlong]

theorem Beside.erase (h : Beside t u repo folder) :
    Beside t (u.erase [repo, folder]) repo folder where
  outside := by
    intro path htop hpath
    by_cases hnil : path = []
    · rw [hnil]
      rfl
    · rw [FileTree.find?_erase _ hnil, if_neg hpath, h.outside path htop hpath]
  shallow := by
    intro path hlong
    have hnil : path ≠ [] := List.ne_nil_of_length_pos (by omega)
    rw [FileTree.find?_erase _ hnil]
    split
    · rfl
    · exact h.shallow path hlong

theorem Beside.makeFolder (h : Beside t u repo folder) {names : List String}
    (hnames : names <+: [repo, folder]) (hmake : u.makeFolder names = .ok next) :
    Beside t next repo folder := by
  refine FileTree.makeFolders_upholds (Beside t · repo folder) ?_ hmake h
  intro v made hmade hne hv
  rw [List.nil_append]
  obtain ⟨tail, hsplit⟩ := hmade.trans hnames
  match made with
  | [] => exact absurd rfl hne
  | [one] =>
    obtain rfl : one = repo := (List.cons.inj hsplit).1
    exact hv.put (Or.inl rfl) (Nat.le_add_left 1 2) .folder
  | [one, two] =>
    simp only [List.cons_append, List.nil_append, List.cons.injEq] at hsplit
    obtain ⟨rfl, rfl, -⟩ := hsplit
    exact hv.put (Or.inr List.prefix_rfl) (Nat.le_succ 2) .folder
  | one :: two :: three :: rest => simp at hsplit

theorem Beside.writeDocument {refType : RefType} {ref : String} {d : Doc}
    (h : Beside t u repo (folderName refType.text ref)) (hrepo : isRepoName repo = true)
    (hname : IsName name)
    (hwrite : writeDocument (folderText repo refType.text ref) name d u = .ok next) :
    Beside t next repo (folderName refType.text ref) := by
  unfold Store.writeDocument at hwrite
  split at hwrite
  · cases hwrite
  · obtain ⟨path, hpath, hwritten⟩ := bind_eq_ok_iff.1 hwrite
    rw [folderText_joined] at hpath
    obtain rfl := FileTree.resolve_joined_eq_ok (names_plain hrepo hname) hpath
    rw [FileTree.writeAt_eq_ok hwritten]
    exact h.put (Or.inr ⟨[name], rfl⟩) (Nat.le_refl 3) _

theorem upholds_makeFolder {names : List String} (hnames : names <+: [repo, folder]) :
    Change.Upholds (Beside t · repo folder) (Change.step (·.makeFolder names)) := by
  refine Change.upholds_step ?_
  intro u next hmake hu
  exact hu.makeFolder hnames hmake

theorem upholds_removeIfThere :
    Change.Upholds (Beside t · repo folder) (Change.step (removeIfThere [repo, folder])) := by
  refine Change.upholds_step ?_
  intro u next hremove hu
  unfold removeIfThere at hremove
  split at hremove
  · rw [FileTree.removeFolder_eq_ok hremove]
    exact hu.erase
  · cases hremove
    exact hu

theorem upholds_writeDocument (hrepo : isRepoName s.repo = true) (hname : IsName name) (d : Doc) :
    Change.Upholds (Beside t · s.repo (folderOf s))
      (Change.step (writeDocument (folderText s.repo s.refType.text s.ref) name d)) := by
  refine Change.upholds_step ?_
  intro u next hwrite hu
  exact hu.writeDocument hrepo hname hwrite

/-- However a save ends, it has touched nothing else. -/
theorem save_beside (hrepo : isRepoName s.repo = true)
    (hfiles : ∀ f ∈ s.facts, IsName (domainFile f.1))
    (ht : ∀ path, 3 < path.length → t.find? path = none) :
    Beside t ((save s).run ⟨t⟩).2.tree s.repo (folderOf s) := by
  have hsave : Change.Upholds (Beside t · s.repo (folderOf s)) (save s) := by
    unfold save
    refine (Change.upholds_lift _).bind fun _ => ?_
    refine Change.upholds_get.bind fun u => ?_
    refine (Change.upholds_lift _).bind fun old => ?_
    split
    · exact Change.upholds_pure false
    · refine upholds_removeIfThere.bind fun _ => ?_
      refine (upholds_makeFolder ⟨[folderOf s], rfl⟩).bind fun _ => ?_
      refine (upholds_makeFolder List.prefix_rfl).bind fun _ => ?_
      refine (Change.upholds_forM ?_).bind fun _ => ?_
      · exact fun f hf => upholds_writeDocument hrepo (hfiles f hf) f.2
      · refine (upholds_writeDocument hrepo isName_manifestName _).bind fun _ => ?_
        exact Change.upholds_pure true
  exact hsave ⟨t⟩ (Beside.start ht)

end Footprint

end Store

end RepoAtlas
