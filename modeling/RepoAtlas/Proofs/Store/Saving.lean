import RepoAtlas.Proofs.Store.Change

/-!
What `save` does to a tree of snapshots. A folder is emptied, then its files are written one after
the other and the manifest comes last, so a save that fails on the way leaves a folder without a
manifest.
-/
namespace RepoAtlas

namespace Store

/-! ### Writing files -/

section Writing

variable {t next : FileTree} {repo ref name : String} {refType : RefType} {d : Doc}

/-- A folder that is there and holds files only. -/
structure Open (t : FileTree) (repo folder : String) : Prop where
  distinct : t.Distinct
  top : t.find? [repo] = some .folder
  here : t.find? [repo, folder] = some .folder
  files : ∀ name, t.find? [repo, folder, name] ≠ some .folder

/-- What can be written as a file. -/
def Writable (f : String × Doc) : Prop := Fits f.1 ∧ f.2.isSpelt = true

/-- What keeps a value from being written as a file. -/
def fileFault? (name : String) (d : Doc) : Option Fault :=
  if (Json.encode? d).isNone then some .notJson
  else if Fits name then none else some (.file .nameTooLong)

theorem fileFault?_eq_none_iff (hd : d.isSpelt = true ∨ Json.encode? d = none) :
    fileFault? name d = none ↔ Writable (name, d) := by
  rw [fileFault?, Writable]
  rcases hd with hspelt | hnone
  · rw [encode?_textOf hspelt]
    simp [hspelt]
  · have hnot : d.isSpelt ≠ true := fun hspelt => by
      rw [encode?_textOf hspelt] at hnone
      cases hnone
    simp [hnone, hnot]

/-- What the first payload that cannot be written fails at. -/
def firstFault? (facts : List (String × Doc)) : Option Fault :=
  (filesOf facts).findSome? (fun f => fileFault? f.1 f.2)

theorem Open.resolve (h : Open t repo (folderName refType.text ref))
    (hrepo : isRepoName repo = true) (hfits : Fits (folderName refType.text ref))
    (hname : IsName name) :
    t.resolve [] (folderText repo refType.text ref ++ "/" ++ name) =
      if Fits name then .ok [repo, folderName refType.text ref, name]
      else .error (.file .nameTooLong) := by
  rw [folderText_joined, FileTree.resolve_joined t (names_plain hrepo hname),
    FileTree.follow_folder (isName_of_isRepoName hrepo) (fits_of_isRepoName hrepo) h.top,
    FileTree.follow_folder (isName_folderName refType ref) hfits h.here]
  by_cases hfit : Fits name
  · rw [if_pos hfit, FileTree.follow_last hname hfit]
    rfl
  · rw [if_neg hfit, FileTree.follow_long hfit]

theorem Open.writeDocument_ok (h : Open t repo (folderName refType.text ref))
    (hrepo : isRepoName repo = true) (hfits : Fits (folderName refType.text ref))
    (hname : IsName name) (hwritable : Writable (name, d)) :
    writeDocument (folderText repo refType.text ref) name d t =
      .ok (t.put [repo, folderName refType.text ref, name] (fileWith d)) := by
  have hresolve := h.resolve hrepo hfits hname
  rw [if_pos hwritable.1] at hresolve
  have hwrite := FileTree.writeAt_new (.text (textOf d)) (h.files name)
    (show t.find? [repo, folderName refType.text ref, name].dropLast = some .folder from h.here)
  rw [writeDocument, encode?_textOf hwritable.2]
  simp only [hresolve, bind, Except.bind]
  exact hwrite

theorem Open.writeDocument_error (h : Open t repo (folderName refType.text ref))
    (hrepo : isRepoName repo = true) (hfits : Fits (folderName refType.text ref))
    (hname : IsName name) {fault : Fault} (hfault : fileFault? name d = some fault) :
    writeDocument (folderText repo refType.text ref) name d t = .error fault := by
  have hresolve := h.resolve hrepo hfits hname
  rw [fileFault?] at hfault
  rw [writeDocument]
  cases htext : Json.encode? d with
  | none =>
    rw [htext] at hfault
    cases hfault
    rfl
  | some text =>
    rw [htext, if_neg (by simp)] at hfault
    split at hfault
    · cases hfault
    next hlong =>
      cases hfault
      rw [if_neg hlong] at hresolve
      simp only [hresolve, bind, Except.bind]

/-- The files were written into a folder, and nothing else has changed. -/
structure Filled (t next : FileTree) (repo folder : String) (files : List (String × Doc)) :
    Prop where
  distinct : next.Distinct
  inside : ∀ name, next.find? [repo, folder, name] =
    ((OrderedMap.lookup name files).map fileWith).or (t.find? [repo, folder, name])
  outside : ∀ path, path ≠ [] → (∀ name, path ≠ [repo, folder, name]) →
    next.find? path = t.find? path
  children : ∀ r, next.children [r] = t.children [r]

variable {folder : String} {files more : List (String × Doc)}

theorem Filled.nothing (h : t.Distinct) : Filled t t repo folder [] where
  distinct := h
  inside := fun _ => rfl
  outside := fun _ _ _ => rfl
  children := fun _ => rfl

theorem Filled.cons (hnew : name ∉ files.map (·.1))
    (h : Filled (t.put [repo, folder, name] (fileWith d)) next repo folder files) :
    Filled t next repo folder ((name, d) :: files) where
  distinct := h.distinct
  inside := by
    intro other
    rw [h.inside, FileTree.find?_put _ _ (by simp), OrderedMap.lookup]
    by_cases hsame : name = other
    · subst hsame
      have hnone : OrderedMap.lookup name files = none := by
        rw [← Option.not_isSome_iff_eq_none, OrderedMap.lookup_isSome_iff]
        exact hnew
      rw [if_pos rfl, if_pos rfl, hnone]
      rfl
    · have hpath : ¬ [repo, folder, other] = [repo, folder, name] := by
        intro heq
        simp only [List.cons.injEq, and_true, true_and] at heq
        exact hsame heq.symm
      rw [if_neg hsame, if_neg hpath]
  outside := by
    intro path hne hpath
    rw [h.outside path hne hpath, FileTree.find?_put _ _ hne, if_neg (hpath name)]
  children := by
    intro r
    rw [h.children, FileTree.children_put_elsewhere _ (by simp)]

theorem Open.put (h : Open t repo folder) (name : String) (d : Doc) :
    Open (t.put [repo, folder, name] (fileWith d)) repo folder where
  distinct := h.distinct.put _ _
  top := by
    rw [FileTree.find?_put _ _ (by simp), if_neg (by simp)]
    exact h.top
  here := by
    rw [FileTree.find?_put _ _ (by simp), if_neg (by simp)]
    exact h.here
  files := by
    intro other
    rw [FileTree.find?_put _ _ (by simp)]
    split
    · simp [fileWith]
    · exact h.files other

theorem Filled.isOpen (h : Filled t next repo folder files) (hopen : Open t repo folder) :
    Open next repo folder where
  distinct := h.distinct
  top := by
    rw [h.outside _ (by simp) (by simp)]
    exact hopen.top
  here := by
    rw [h.outside _ (by simp) (by simp)]
    exact hopen.here
  files := by
    intro name
    rw [h.inside]
    cases OrderedMap.lookup name files with
    | none => exact hopen.files name
    | some d => simp [fileWith]

/-- Payloads are written until one of them cannot be. -/
theorem Open.run_writes (hrepo : isRepoName repo = true)
    (hfits : Fits (folderName refType.text ref)) (facts : List (String × Doc))
    (hnames : (facts.map (·.1)).Nodup) (hplain : ∀ f ∈ facts, IsName (domainFile f.1))
    (hpayloads : ∀ f ∈ facts, f.2.isSpelt = true ∨ Json.encode? f.2 = none)
    (h : Open t repo (folderName refType.text ref)) :
    ∃ next answer written,
      (facts.forM (fun f => Change.step
        (writeDocument (folderText repo refType.text ref) (domainFile f.1) f.2))).run ⟨t⟩ =
          (answer, ⟨next⟩) ∧
      Filled t next repo (folderName refType.text ref) (filesOf written) ∧ written <+: facts ∧
      ((answer = .ok () ∧ firstFault? facts = none ∧ written = facts ∧
          ∀ f ∈ filesOf facts, Writable f) ∨
        (∃ fault, answer = .error fault ∧ firstFault? facts = some fault) ∧
          ∃ f ∈ filesOf facts, ¬ Writable f) := by
  induction facts generalizing t with
  | nil =>
    refine ⟨t, .ok (), [], rfl, Filled.nothing h.distinct, List.prefix_rfl,
      Or.inl ⟨rfl, rfl, rfl, ?_⟩⟩
    intro f hf
    cases hf
  | cons f rest ih =>
    obtain ⟨hnew, hrest⟩ := List.nodup_cons.1 hnames
    have hname := hplain f List.mem_cons_self
    have hwritable : fileFault? (domainFile f.1) f.2 = none ↔ Writable (domainFile f.1, f.2) :=
      fileFault?_eq_none_iff (hpayloads f List.mem_cons_self)
    cases hfile : fileFault? (domainFile f.1) f.2 with
    | none =>
      have hfirst := h.writeDocument_ok hrepo hfits hname (hwritable.1 hfile)
      obtain ⟨next, answer, written, hrun, hfilled, hpre, hends⟩ :=
        ih hrest (fun g hg => hplain g (List.mem_cons_of_mem f hg))
          (fun g hg => hpayloads g (List.mem_cons_of_mem f hg)) (h.put (domainFile f.1) f.2)
      have hfresh : domainFile f.1 ∉ (filesOf written).map (·.1) := by
        intro hmem
        rw [filesOf, List.map_map, List.mem_map] at hmem
        obtain ⟨g, hg, hsame⟩ := hmem
        refine hnew (List.mem_map.2 ⟨g, hpre.subset hg, domainFile_inj hsame⟩)
      have hfault : firstFault? (f :: rest) = firstFault? rest := by
        rw [firstFault?, filesOf, List.map_cons, List.findSome?_cons, hfile]
        rfl
      refine ⟨next, answer, f :: written, ?_, hfilled.cons hfresh, ?_, ?_⟩
      · rw [List.forM, Change.run_bind_ok (Change.run_step_ok hfirst), hrun]
      · exact (List.prefix_cons_inj f).2 hpre
      · rw [hfault]
        rcases hends with ⟨hok, hnone, hall, hwrite⟩ | ⟨hfails, g, hg, hnot⟩
        · refine Or.inl ⟨hok, hnone, by rw [hall], ?_⟩
          intro g hg
          rcases List.mem_cons.1 hg with rfl | hg
          · exact hwritable.1 hfile
          · exact hwrite g hg
        · exact Or.inr ⟨hfails, g, List.mem_cons_of_mem _ hg, hnot⟩
    | some fault =>
      have hfails := h.writeDocument_error hrepo hfits hname hfile
      have hfault : firstFault? (f :: rest) = some fault := by
        rw [firstFault?, filesOf, List.map_cons, List.findSome?_cons, hfile]
      have hnot : ¬ Writable (domainFile f.1, f.2) := fun hgood => by
        rw [hwritable.2 hgood] at hfile
        cases hfile
      refine ⟨t, .error fault, [], ?_, Filled.nothing h.distinct, List.nil_prefix, Or.inr
        ⟨⟨fault, rfl, hfault⟩, _, List.mem_cons_self, hnot⟩⟩
      rw [List.forM, Change.run_bind_error (Change.run_step_error hfails)]

end Writing

/-! ### Saving -/

section Saving

variable {t next : FileTree} {held : Contents} {repo folder ref : String} {refType : RefType}
  {s : Snapshot}

/-- The names of the folders once one of them has been made anew. -/
def madeLast (folder : String) (names : List String) : List String :=
  names.filter (· ≠ folder) ++ [folder]

/-- A place for a snapshot that is empty. Its folder is the last of the repository's. -/
structure Cleared (t next : FileTree) (repo folder : String) : Prop extends
    Apart t next repo folder where
  here : next.find? [repo, folder] = some .folder
  files : ∀ name, next.find? [repo, folder, name] = none
  children : ∀ r, next.children [r] =
    if r = repo then madeLast folder (t.children [r]) else t.children [r]

theorem Cleared.isOpen (h : Cleared t next repo folder) : Open next repo folder where
  distinct := h.distinct
  top := h.top
  here := h.here
  files := by
    intro name
    rw [h.files name]
    simp

/-- A place that can be cleared: it is a folder, or nothing stands there. -/
structure Placed (t : FileTree) (repo folder : String) : Prop where
  distinct : t.Distinct
  top : t.find? [repo] = none ∨ t.find? [repo] = some .folder
  here : t.find? [repo, folder] = some .folder ∨
    t.find? [repo, folder] = none ∧ ∀ name, t.find? [repo, folder, name] = none

theorem Shelved.placed (h : Shelved t held) (repo folder : String) : Placed t repo folder where
  distinct := h.distinct
  top := h.top repo
  here := by
    cases hheld : held repo folder with
    | some s => exact Or.inl (h.occupied _ _ _ hheld).1
    | none =>
      rcases h.vacant _ _ hheld with hnone | ⟨hfolder, -⟩
      · exact Or.inr hnone
      · exact Or.inl hfolder

/-- What stood in the place is taken away. -/
theorem Placed.removeIfThere (h : Placed t repo folder) :
    ∃ next, removeIfThere [repo, folder] t = .ok next ∧ next.Distinct ∧
      (∀ path, ¬ [repo, folder] <+: path → path ≠ [] → next.find? path = t.find? path) ∧
      next.find? [repo, folder] = none ∧ (∀ name, next.find? [repo, folder, name] = none) ∧
      ∀ r, next.children [r] =
        if r = repo then (t.children [r]).filter (· ≠ folder) else t.children [r] := by
  rcases h.here with hfolder | ⟨hnone, hbelow⟩
  · refine ⟨t.erase [repo, folder], ?_, h.distinct.erase _, ?_, ?_, ?_, ?_⟩
    · rw [Store.removeIfThere, hfolder, Option.isSome_some, if_pos rfl,
        FileTree.removeFolder_folder hfolder]
    · intro path hpath hne
      rw [FileTree.find?_erase _ hne, if_neg hpath]
    · rw [FileTree.find?_erase _ (by simp), if_pos List.prefix_rfl]
    · intro name
      rw [FileTree.find?_erase _ (by simp), if_pos ⟨[name], rfl⟩]
    · exact FileTree.children_erase_two t repo folder
  · refine ⟨t, ?_, h.distinct, fun _ _ _ => rfl, hnone, hbelow, ?_⟩
    · rw [Store.removeIfThere, hnone, Option.isSome_none, if_neg (by simp)]
    · intro r
      split
      next hr =>
        refine (List.filter_eq_self.2 fun name hname => ?_).symm
        rw [decide_eq_true_iff]
        rintro rfl
        have hthere := FileTree.mem_children.1 hname
        rw [hr, List.singleton_append, hnone] at hthere
        cases hthere
      next => rfl

/-- The repository's folder is made unless it is there. -/
theorem makeFolder_top (hrepo : isRepoName repo = true) (hdistinct : t.Distinct)
    (htop : t.find? [repo] = none ∨ t.find? [repo] = some .folder) :
    ∃ next, t.makeFolder [repo] = .ok next ∧ next.Distinct ∧ next.find? [repo] = some .folder ∧
      (∀ path, path ≠ [] → path ≠ [repo] → next.find? path = t.find? path) ∧
      ∀ r, next.children [r] = t.children [r] := by
  rcases htop with hnone | hfolder
  · refine ⟨_, FileTree.makeFolder_one (fits_of_isRepoName hrepo) hnone, hdistinct.put _ _, ?_, ?_,
      fun r => FileTree.children_put_elsewhere _ (by simp)⟩
    · rw [FileTree.find?_put _ _ (by simp), if_pos rfl]
    · intro path hne hpath
      rw [FileTree.find?_put _ _ hne, if_neg hpath]
  · exact ⟨t, FileTree.makeFolder_there (fits_of_isRepoName hrepo) hfolder, hdistinct, hfolder,
      fun _ _ _ => rfl, fun _ => rfl⟩

/-- The three steps that make room for a snapshot. -/
theorem Placed.makeRoom (h : Placed t repo folder) (hrepo : isRepoName repo = true)
    (hfits : Fits folder) :
    ∃ emptied topped next, Store.removeIfThere [repo, folder] t = .ok emptied ∧
      emptied.makeFolder [repo] = .ok topped ∧ topped.makeFolder [repo, folder] = .ok next ∧
      Cleared t next repo folder := by
  obtain ⟨emptied, hemptied, hdistinct, hother, hgone, hfiles, hnames⟩ := h.removeIfThere
  have hnottop : ¬ [repo, folder] <+: [repo] := by
    rintro ⟨tail, heq⟩
    simp at heq
  have htop : emptied.find? [repo] = none ∨ emptied.find? [repo] = some .folder := by
    rw [hother _ hnottop (by simp)]
    exact h.top
  obtain ⟨topped, htopped, hdistinct', hfolder, hkeep, hsame⟩ := makeFolder_top hrepo hdistinct htop
  have hfree : topped.find? [repo, folder] = none := by
    rw [hkeep _ (by simp) (by simp), hgone]
  refine ⟨emptied, topped, _, hemptied, htopped,
    FileTree.makeFolder_two (fits_of_isRepoName hrepo) hfits hfolder hfree,
    ⟨hdistinct'.put _ _, ?_, ?_⟩, ?_, ?_, ?_⟩
  · rw [FileTree.find?_put _ _ (by simp), if_neg (by simp), hfolder]
  · intro path hpath hne hrepoPath
    have hplace : path ≠ [repo, folder] := by
      rintro rfl
      exact hpath List.prefix_rfl
    rw [FileTree.find?_put _ _ hne, if_neg hplace, hkeep _ hne hrepoPath, hother _ hpath hne]
  · rw [FileTree.find?_put _ _ (by simp), if_pos rfl]
  · intro name
    rw [FileTree.find?_put _ _ (by simp), if_neg (by simp), hkeep _ (by simp) (by simp), hfiles]
  · intro r
    by_cases hr : r = repo
    · have hnew : topped.find? ([repo] ++ [folder]) = none := hfree
      have hlast := FileTree.children_put_new .folder hnew
      rw [hsame, hnames, if_pos rfl] at hlast
      rw [if_pos hr, hr]
      exact hlast
    · rw [if_neg hr, FileTree.children_put_elsewhere _ (by simpa using Ne.symm hr), hsame, hnames,
        if_neg hr]

theorem Shelved.replacedEntry_fits (h : Shelved t held) (hrepo : isRepoName repo = true)
    (hfits : Fits (folderName refType.text ref)) :
    replacedEntry t (folderText repo refType.text ref) =
      .ok ((held repo (folderName refType.text ref)).map entryOf) := by
  unfold replacedEntry
  cases hheld : held repo (folderName refType.text ref) with
  | none =>
    simp only [h.existsAt_vacant hrepo hfits hheld, bind, Except.bind, pure, Except.pure,
      Bool.false_eq_true, if_false, Option.map_none]
  | some s =>
    obtain ⟨-, rfl, hnamed, -⟩ := h.shelves _ _ _ hheld
    have hlies := h.lies hheld
    have hexists := hlies.existsAt hnamed.symm isName_manifestName fits_manifestName
    have hresolve := hlies.resolve hnamed.symm isName_manifestName fits_manifestName
    have hfile : fileOf s manifestName = some (fileWith (manifestOf s)) := by
      rw [fileOf, if_pos rfl]
    simp only [hexists, hfile, hresolve, hlies.entryAt_eq, Option.map_some, bind, Except.bind,
      Option.isSome_some, if_true]

/-- A snapshot whose domains have plain names. Its payloads can be spelt or have no text, at which
a save fails. A domain may have the manifest's file only if nothing fails; otherwise a payload would
be left in the manifest's place, and other folders could be read through the names in it. -/
structure Plain (s : Snapshot) : Prop where
  names : (s.facts.map (·.1)).Nodup
  files : ∀ f ∈ s.facts, IsName (domainFile f.1)
  payloads : ∀ f ∈ s.facts, f.2.isSpelt = true ∨ Json.encode? f.2 = none
  manifest : (∃ f ∈ s.facts, domainFile f.1 = manifestName) → ∀ f ∈ filesOf s.facts, Writable f
  sha : s.sha.isSpelt = true

theorem Plain.storable (h : Plain s) (htime : s.capturedAt.Readable)
    (hrepo : isRepoName s.repo = true) (hwritable : ∀ f ∈ filesOf s.facts, Writable f) :
    Storable s where
  repo := hrepo
  names := h.names
  files := fun f hf => ⟨h.files f hf, (hwritable _ (List.mem_map_of_mem hf)).1⟩
  payloads := fun _ hf => (hwritable _ (List.mem_map_of_mem hf)).2
  sha := h.sha
  time := htime

theorem Storable.writable (h : Storable s) : ∀ f ∈ filesOf s.facts, Writable f := by
  intro f hf
  obtain ⟨g, hg, rfl⟩ := List.mem_map.1 hf
  exact ⟨(h.files g hg).2, h.payloads g hg⟩

theorem Storable.plain (h : Storable s) : Plain s where
  names := h.names
  files := fun f hf => (h.files f hf).1
  payloads := fun f hf => Or.inl (h.payloads f hf)
  manifest := fun _ => h.writable
  sha := h.sha

/-- The ways in which a save ends. -/
inductive Saved (t : FileTree) (held : Contents) (s : Snapshot) : Result Bool × Store → Prop
  | refused : isRepoName s.repo = false → Saved t held s (.error (.repositoryName s.repo), ⟨t⟩)
  | long (next : FileTree) : isRepoName s.repo = true → ¬ Fits (folderOf s) → Shelved next held →
      Saved t held s (.error (.file .nameTooLong), ⟨next⟩)
  | kept (old : Snapshot) : isRepoName s.repo = true → Fits (folderOf s) →
      held s.repo (folderOf s) = some old →
      s.capturedAt.instant < old.capturedAt.reread.instant → Saved t held s (.ok false, ⟨t⟩)
  | failed (fault : Fault) (next : FileTree) : isRepoName s.repo = true → Fits (folderOf s) →
      ¬ Storable s → Shelved next (held.set s.repo (folderOf s) none) →
      Saved t held s (.error fault, ⟨next⟩)
  | stored (next : FileTree) : Storable s → Fits (folderOf s) →
      (∀ old, held s.repo (folderOf s) = some old →
        ¬ s.capturedAt.instant < old.capturedAt.reread.instant) →
      Shelved next (held.set s.repo (folderOf s) (some s)) → Saved t held s (.ok true, ⟨next⟩)

theorem isNewer_entryOf (old s : Snapshot) :
    isNewer (entryOf old) s = decide (s.capturedAt.instant < old.capturedAt.reread.instant) := by
  rw [isNewer, entryOf_capturedAt]

/-- A snapshot lies in its folder once its files are written, the manifest last. -/
theorem occupied_of_filled {cleared written : FileTree}
    (hclear : Cleared t cleared s.repo (folderOf s))
    (hfilled : Filled cleared written s.repo (folderOf s) (filesOf s.facts)) :
    Occupied (written.put [s.repo, folderOf s, manifestName] (fileWith (manifestOf s)))
      s.repo (folderOf s) s := by
  constructor
  · rw [FileTree.find?_put _ _ (by simp), if_neg (by simp), hfilled.outside _ (by simp) (by simp),
      hclear.here]
  · intro name
    rw [FileTree.find?_put _ _ (by simp), fileOf]
    by_cases hname : name = manifestName
    · rw [if_pos hname, if_pos (by rw [hname])]
    · have hpath : ¬ [s.repo, folderOf s, name] = [s.repo, folderOf s, manifestName] := by
        simpa using hname
      rw [if_neg hname, if_neg hpath, hfilled.inside, hclear.files, Option.or_none]

theorem Apart.filled {cleared written : FileTree} {files : List (String × Doc)}
    (hclear : Cleared t cleared repo folder) (hfilled : Filled cleared written repo folder files) :
    Apart t written repo folder where
  distinct := hfilled.distinct
  top := by rw [hfilled.outside _ (by simp) (by simp), hclear.top]
  outside := by
    intro path hpath hne htop
    have hbelow : ∀ name, path ≠ [repo, folder, name] := by
      rintro name rfl
      exact hpath ⟨[name], rfl⟩
    rw [hfilled.outside path hne hbelow, hclear.outside path hpath hne htop]

theorem Apart.put (h : Apart t next repo folder) (name : String) (item : TreeItem) :
    Apart t (next.put [repo, folder, name] item) repo folder where
  distinct := h.distinct.put _ _
  top := by rw [FileTree.find?_put _ _ (by simp), if_neg (by simp), h.top]
  outside := by
    intro path hpath hne htop
    have hbelow : path ≠ [repo, folder, name] := by
      rintro rfl
      exact hpath ⟨[name], rfl⟩
    rw [FileTree.find?_put _ _ hne, if_neg hbelow, h.outside path hpath hne htop]

/-- The steps of a save that fill the folder. -/
def fill (s : Snapshot) : Change Bool := do
  s.facts.forM (fun f => Change.step
    (writeDocument (folderText s.repo s.refType.text s.ref) (domainFile f.1) f.2))
  Change.step (writeDocument (folderText s.repo s.refType.text s.ref) manifestName (manifestOf s))
  return true

/-- The steps of a save that change the tree. -/
def replace (s : Snapshot) : Change Bool := do
  Change.step (removeIfThere [s.repo, folderOf s])
  Change.step (·.makeFolder [s.repo])
  Change.step (·.makeFolder [s.repo, folderOf s])
  fill s

theorem run_save (hrepo : isRepoName s.repo = true) {old : Option Entry}
    (hold : replacedEntry t (folderText s.repo s.refType.text s.ref) = .ok old) :
    (save s).run ⟨t⟩ =
      if old.any (isNewer · s) = true then (.ok false, ⟨t⟩) else (replace s).run ⟨t⟩ := by
  have hname : checkRepoName s.repo = .ok () := by rw [checkRepoName, if_pos hrepo]
  unfold save
  rw [Change.run_bind_ok (Change.run_lift_ok hname), Change.run_bind_ok (Change.run_get _),
    Change.run_bind_ok (Change.run_lift_ok hold)]
  split
  · rfl
  · rfl

/-- How the filling of a folder ends: with the snapshot in it, or without a manifest. -/
structure Filling (s : Snapshot) (t next : FileTree) (answer : Result Bool) : Prop where
  apart : Apart t next s.repo (folderOf s)
  children : ∀ r, next.children [r] =
    if r = s.repo then madeLast (folderOf s) (t.children [r]) else t.children [r]
  ends : (answer = .ok true ∧ firstFault? s.facts = none ∧ Storable s ∧
      Occupied next s.repo (folderOf s) s) ∨
    (∃ fault, answer = .error fault ∧ firstFault? s.facts = some fault) ∧ ¬ Storable s ∧
      Leftover next s.repo (folderOf s)

theorem Cleared.run_fill {cleared : FileTree} (hclear : Cleared t cleared s.repo (folderOf s))
    (hs : Plain s) (htime : s.capturedAt.Readable) (hrepo : isRepoName s.repo = true)
    (hfits : Fits (folderOf s)) :
    ∃ next answer, (fill s).run ⟨cleared⟩ = (answer, ⟨next⟩) ∧ Filling s t next answer := by
  obtain ⟨filled, answer, written, hrun, hfilled, hpre, hends⟩ :=
    hclear.isOpen.run_writes hrepo hfits s.facts hs.names hs.files hs.payloads
  have hinside : ∀ name, filled.find? [s.repo, folderOf s, name] =
      (OrderedMap.lookup name (filesOf written)).map fileWith := by
    intro name
    rw [folderOf, hfilled.inside, ← folderOf, hclear.files, Option.or_none]
  have happart := Apart.filled hclear hfilled
  have hchildren : ∀ r, filled.children [r] =
      if r = s.repo then madeLast (folderOf s) (t.children [r]) else t.children [r] := by
    intro r
    rw [hfilled.children, hclear.children]
  rcases hends with ⟨rfl, hnone, rfl, hwritable⟩ | ⟨⟨fault, rfl, hfault⟩, f, hf, hnot⟩
  · have hstorable := hs.storable htime hrepo hwritable
    have hmanifest := (hfilled.isOpen hclear.isOpen).writeDocument_ok (d := manifestOf s) hrepo
      hfits isName_manifestName ⟨fits_manifestName, isSpelt_manifestOf hs.sha⟩
    refine ⟨_, .ok true, ?_, happart.put manifestName (fileWith (manifestOf s)), ?_,
      Or.inl ⟨rfl, hnone, hstorable, occupied_of_filled hclear hfilled⟩⟩
    · rw [fill, Change.run_bind_ok hrun, Change.run_bind_ok (Change.run_step_ok hmanifest)]
      rfl
    · intro r
      rw [FileTree.children_put_elsewhere _ (by simp), hchildren]
  · refine ⟨filled, .error fault, Change.run_bind_error hrun, happart, hchildren,
      Or.inr ⟨⟨fault, rfl, hfault⟩, ?_, ?_, ?_⟩⟩
    · intro hstorable
      exact hnot (hstorable.writable f hf)
    · rw [hfilled.outside _ (by simp) (by simp), hclear.here]
    · have hunnamed : OrderedMap.lookup manifestName (filesOf written) = none := by
        rw [← Option.not_isSome_iff_eq_none, OrderedMap.lookup_isSome_iff]
        intro hmem
        rw [filesOf, List.map_map, List.mem_map] at hmem
        obtain ⟨g, hg, hsame⟩ := hmem
        exact hnot (hs.manifest ⟨g, hpre.subset hg, hsame⟩ f hf)
      rw [hinside, hunnamed, Option.map_none]

/-- A place that fits is cleared, then filled. -/
theorem Placed.run_replace (h : Placed t s.repo (folderOf s)) (hs : Plain s)
    (htime : s.capturedAt.Readable) (hrepo : isRepoName s.repo = true) (hfits : Fits (folderOf s)) :
    ∃ next answer, (replace s).run ⟨t⟩ = (answer, ⟨next⟩) ∧ Filling s t next answer := by
  obtain ⟨emptied, topped, cleared, hempty, htop, hclear, hcleared⟩ := h.makeRoom hrepo hfits
  have hsecond : (Change.step (·.makeFolder [s.repo])).run ⟨emptied⟩ = (.ok (), ⟨topped⟩) :=
    Change.run_step_ok htop
  have hthird : (Change.step (·.makeFolder [s.repo, folderOf s])).run ⟨topped⟩ =
      (.ok (), ⟨cleared⟩) := Change.run_step_ok hclear
  rw [replace, Change.run_bind_ok (Change.run_step_ok hempty), Change.run_bind_ok hsecond,
    Change.run_bind_ok hthird]
  exact hcleared.run_fill hs htime hrepo hfits

theorem Shelved.run_replace (h : Shelved t held) (hs : Plain s) (htime : s.capturedAt.Readable)
    (hrepo : isRepoName s.repo = true) (hfits : Fits (folderOf s)) :
    ∃ next answer, (replace s).run ⟨t⟩ = (answer, ⟨next⟩) ∧
      ((answer = .ok true ∧ Storable s ∧
          Shelved next (held.set s.repo (folderOf s) (some s))) ∨
        ((∃ fault, answer = .error fault) ∧ ¬ Storable s ∧
          Shelved next (held.set s.repo (folderOf s) none))) := by
  obtain ⟨next, answer, hrun, happart, -, hends⟩ :=
    (h.placed s.repo (folderOf s)).run_replace hs htime hrepo hfits
  refine ⟨next, answer, hrun, ?_⟩
  rcases hends with ⟨hok, -, hstorable, hoccupied⟩ | ⟨⟨fault, hfault, -⟩, hstorable, hleft⟩
  · refine Or.inl ⟨hok, hstorable, h.update happart ?_ ?_⟩
    · intro hnone
      cases hnone
    · intro found hfound
      cases hfound
      exact ⟨hoccupied, hstorable, rfl, rfl, hfits⟩
  · refine Or.inr ⟨⟨fault, hfault⟩, hstorable, h.update happart (fun _ => Or.inr hleft) ?_⟩
    intro found hfound
    cases hfound

/-- Nothing has changed but that the repository's folder is there. -/
structure OnlyTop (t next : FileTree) (repo : String) : Prop where
  top : next.find? [repo] = some .folder
  outside : ∀ path, path ≠ [] → path ≠ [repo] → next.find? path = t.find? path
  children : ∀ r, next.children [r] = t.children [r]

/-- Under a name that is too long, at most the repository's folder is made. -/
theorem Shelved.run_replace_long (h : Shelved t held) (hrepo : isRepoName s.repo = true)
    (hlong : ¬ Fits (folderOf s)) (htop : t.find? [s.repo] = none) :
    ∃ next, (replace s).run ⟨t⟩ = (.error (.file .nameTooLong), ⟨next⟩) ∧ Shelved next held ∧
      OnlyTop t next s.repo := by
  have hplace : t.find? [s.repo, folderOf s] = none := h.bare _ htop _
  have hnothing : held s.repo (folderOf s) = none := h.held_of_bare htop _
  have hremove : Store.removeIfThere [s.repo, folderOf s] t = .ok t := by
    rw [Store.removeIfThere, hplace, Option.isSome_none, if_neg (by simp)]
  obtain ⟨topped, htopped, hdistinct, hfolder, hkeep, hsame⟩ := makeFolder_top hrepo h.distinct
    (h.top s.repo)
  have hsecond : (Change.step (·.makeFolder [s.repo])).run ⟨t⟩ = (.ok (), ⟨topped⟩) :=
    Change.run_step_ok htopped
  have hthird : (Change.step (·.makeFolder [s.repo, folderOf s])).run ⟨topped⟩ =
      (.error (.file .nameTooLong), ⟨topped⟩) :=
    Change.run_step_error (FileTree.makeFolder_long (fits_of_isRepoName hrepo) hlong hfolder)
  have happart : Apart t topped s.repo (folderOf s) :=
    ⟨hdistinct, hfolder, fun path _ hne hpath => hkeep path hne hpath⟩
  have hvacant : Vacant topped s.repo (folderOf s) := by
    rcases h.vacant _ _ hnothing with ⟨-, hbelow⟩ | ⟨hthere, -⟩
    · refine Or.inl ⟨?_, ?_⟩
      · rw [hkeep _ (by simp) (by simp), hplace]
      · intro name
        rw [hkeep _ (by simp) (by simp), hbelow]
    · rw [hplace] at hthere
      cases hthere
  have hshelved := h.update happart (fun _ => hvacant)
    (fun s (hfound : none = some s) => by cases hfound)
  rw [Contents.set_none hnothing] at hshelved
  refine ⟨topped, ?_, hshelved, hfolder, hkeep, hsame⟩
  rw [replace, Change.run_bind_ok (Change.run_step_ok hremove), Change.run_bind_ok hsecond,
    Change.run_bind_error hthird]

theorem Shelved.save_long (h : Shelved t held) (hrepo : isRepoName s.repo = true)
    (hlong : ¬ Fits (folderOf s)) :
    ∃ next, (save s).run ⟨t⟩ = (.error (.file .nameTooLong), ⟨next⟩) ∧ Shelved next held ∧
      OnlyTop t next s.repo := by
  have hexists := h.existsAt_long hrepo isName_manifestName hlong
  by_cases htop : t.find? [s.repo] = none
  · rw [if_pos htop] at hexists
    have hentry : replacedEntry t (folderText s.repo s.refType.text s.ref) = .ok none := by
      rw [replacedEntry]
      simp only [hexists, bind, Except.bind, pure, Except.pure, Bool.false_eq_true, if_false]
    obtain ⟨next, hrun, hnext⟩ := h.run_replace_long hrepo hlong htop
    refine ⟨next, ?_, hnext⟩
    rw [run_save hrepo hentry, if_neg (by simp), hrun]
  · rw [if_neg htop] at hexists
    have hname : checkRepoName s.repo = .ok () := by rw [checkRepoName, if_pos hrepo]
    have hentry : replacedEntry t (folderText s.repo s.refType.text s.ref) =
        .error (.file .nameTooLong) := by
      rw [replacedEntry]
      simp only [hexists, bind, Except.bind]
    refine ⟨t, ?_, h, (h.top s.repo).resolve_left htop, fun _ _ _ => rfl,
      fun _ => rfl⟩
    unfold save
    rw [Change.run_bind_ok (Change.run_lift_ok hname), Change.run_bind_ok (Change.run_get _),
      Change.run_bind_error (Change.run_lift_error hentry)]

/-- Where no later snapshot stands in the folder, its place is taken. -/
theorem Shelved.run_save_replace (h : Shelved t held) (hrepo : isRepoName s.repo = true)
    (hfits : Fits (folderOf s)) (hnot : ∀ old, held s.repo (folderOf s) = some old →
      ¬ s.capturedAt.instant < old.capturedAt.reread.instant) :
    (save s).run ⟨t⟩ = (replace s).run ⟨t⟩ := by
  have hany : ¬ ((held s.repo (folderOf s)).map entryOf).any (isNewer · s) = true := by
    intro hany
    rw [Option.any_map, Option.any_eq_true] at hany
    obtain ⟨old, hold, hlt⟩ := hany
    rw [isNewer_entryOf] at hlt
    exact hnot old hold (of_decide_eq_true hlt)
  rw [run_save hrepo (h.replacedEntry_fits hrepo hfits), ← folderOf, if_neg hany]

/-- A later snapshot in the folder is kept. -/
theorem Shelved.run_save_kept (h : Shelved t held) (hrepo : isRepoName s.repo = true)
    (hfits : Fits (folderOf s)) {old : Snapshot} (hold : held s.repo (folderOf s) = some old)
    (hlt : s.capturedAt.instant < old.capturedAt.reread.instant) :
    (save s).run ⟨t⟩ = (.ok false, ⟨t⟩) := by
  have hany : ((held s.repo (folderOf s)).map entryOf).any (isNewer · s) = true := by
    rw [hold, Option.map_some, Option.any_some, isNewer_entryOf]
    exact decide_eq_true hlt
  rw [run_save hrepo (h.replacedEntry_fits hrepo hfits), ← folderOf, if_pos hany]

theorem save_refused (store : Store) (hrepo : isRepoName s.repo = false) :
    (save s).run store = (.error (.repositoryName s.repo), store) := by
  have hname : checkRepoName s.repo = .error (.repositoryName s.repo) := by
    rw [checkRepoName, hrepo]
    rfl
  unfold save
  rw [Change.run_bind_error (Change.run_lift_error hname)]

/-- A save ends in one of its ways. -/
theorem Shelved.save_saved (h : Shelved t held) (hs : Plain s) (htime : s.capturedAt.Readable) :
    Saved t held s ((save s).run ⟨t⟩) := by
  cases hrepo : isRepoName s.repo with
  | false =>
    rw [save_refused ⟨t⟩ hrepo]
    exact .refused hrepo
  | true =>
    by_cases hfits : Fits (folderOf s)
    case neg =>
      obtain ⟨next, hrun, hnext, -⟩ := h.save_long hrepo hfits
      rw [hrun]
      exact .long next hrepo hfits hnext
    by_cases hnewer : ∃ old, held s.repo (folderOf s) = some old ∧
        s.capturedAt.instant < old.capturedAt.reread.instant
    · obtain ⟨old, hold, hlt⟩ := hnewer
      rw [h.run_save_kept hrepo hfits hold hlt]
      exact .kept old hrepo hfits hold hlt
    · have hnot : ∀ old, held s.repo (folderOf s) = some old →
          ¬ s.capturedAt.instant < old.capturedAt.reread.instant :=
        fun old hold hlt => hnewer ⟨old, hold, hlt⟩
      rw [h.run_save_replace hrepo hfits hnot]
      obtain ⟨next, answer, hrun, hends⟩ := h.run_replace hs htime hrepo hfits
      rw [hrun]
      rcases hends with ⟨rfl, hstorable, hnext⟩ | ⟨⟨fault, rfl⟩, hstorable, hnext⟩
      · exact .stored next hstorable hfits hnot hnext
      · exact .failed fault next hrepo hfits hstorable hnext

theorem Shelved.save_stored (h : Shelved t held) (hs : Storable s) (hfits : Fits (folderOf s))
    (hnot : ∀ old, held s.repo (folderOf s) = some old →
      ¬ s.capturedAt.instant < old.capturedAt.reread.instant) :
    ∃ next, (save s).run ⟨t⟩ = (.ok true, ⟨next⟩) ∧
      Shelved next (held.set s.repo (folderOf s) (some s)) := by
  have hsaved := h.save_saved hs.plain hs.time
  generalize (save s).run ⟨t⟩ = result at hsaved
  cases hsaved with
  | refused hrepo =>
    rw [hs.repo] at hrepo
    cases hrepo
  | long next hrepo hlong hnext => exact absurd hfits hlong
  | kept old hrepo hfits hold hlt => exact absurd hlt (hnot old hold)
  | failed fault next hrepo hfits hstorable hnext => exact absurd hs hstorable
  | stored next hstorable hfits hnewer hnext => exact ⟨next, rfl, hnext⟩

/-- A payload without a text is all that a save with fitting file names can fail at. -/
theorem Shelved.save_notJson (h : Shelved t held) (hs : Plain s) (htime : s.capturedAt.Readable)
    (hrepo : isRepoName s.repo = true) (hfits : Fits (folderOf s))
    (hnames : ∀ f ∈ s.facts, Fits (domainFile f.1)) (hbad : ¬ ∀ f ∈ s.facts, f.2.isSpelt = true)
    (hnot : ∀ old, held s.repo (folderOf s) = some old →
      ¬ s.capturedAt.instant < old.capturedAt.reread.instant) :
    ((save s).run ⟨t⟩).1 = .error .notJson := by
  rw [h.run_save_replace hrepo hfits hnot]
  obtain ⟨next, answer, hrun, -, -, hends⟩ :=
    (h.placed s.repo (folderOf s)).run_replace hs htime hrepo hfits
  rw [hrun]
  rcases hends with ⟨-, -, hstorable, -⟩ | ⟨⟨fault, rfl, hfault⟩, -⟩
  · exact absurd hstorable.payloads hbad
  · obtain ⟨f, hf, hfile⟩ := List.exists_of_findSome?_eq_some hfault
    obtain ⟨g, hg, rfl⟩ := List.mem_map.1 hf
    rw [fileFault?, if_pos (hnames g hg)] at hfile
    split at hfile
    · rw [← Option.some.inj hfile]
    · cases hfile

end Saving

end Store

end RepoAtlas
