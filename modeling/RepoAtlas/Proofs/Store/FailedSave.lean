import RepoAtlas.Proofs.Files.SameFiles
import RepoAtlas.Proofs.Store.Footprint

/-!
A save empties the folder of its ref first and fills it then. One that fails in between has taken
away what was there, and leaves the files that it has written up to there.
-/
namespace RepoAtlas

namespace Store

/-! ### What a save does before it fails -/

/-- The tree once the folder has been emptied, unless the save fails before it changes anything. -/
def emptied (s : Snapshot) (t : FileTree) : Result FileTree := do
  checkRepoName s.repo
  let _ ← replacedEntry t (folderText s.repo s.refType.text s.ref)
  removeIfThere [s.repo, folderOf s] t

/-- The folder of the snapshot, and the one around it, are made. -/
def room (s : Snapshot) (t : FileTree) : Result FileTree := do
  (← t.makeFolder [s.repo]).makeFolder [s.repo, folderOf s]

/-- Where a document is written, and what the file then holds; nothing if it cannot be written. -/
def written? (t : FileTree) (folder : String) (f : String × Doc) : Option (Path × FileContent) :=
  match Json.encode? f.2, t.resolve [] (folder ++ "/" ++ f.1) with
  | some text, .ok path =>
    if t.find? path ≠ some .folder ∧ t.find? path.dropLast = some .folder then
      some (path, .text text)
    else none
  | _, _ => none

/-- The files that documents become, up to the first that cannot be written. -/
def writtenUntil (t : FileTree) (folder : String) : List (String × Doc) → List (Path × FileContent)
  | [] => []
  | f :: rest =>
    match written? t folder f with
    | some file => file :: writtenUntil t folder rest
    | none => []

/-- The files that a save which fails has written into the tree with the emptied folder. -/
def leftBehind (s : Snapshot) (t : FileTree) : OrderedMap Path FileContent :=
  match room s t with
  | .ok made =>
    .ofList (writtenUntil made (folderText s.repo s.refType.text s.ref) (filesOf s.facts))
  | .error _ => {}

/-- What is written has stood there before, and what has been taken away is written again. -/
structure Restores (s : Snapshot) (t e : FileTree) : Prop where
  unchanged : ∀ path content, (leftBehind s e).get? path = some content →
    t.file? path = some content
  complete : (t.find? [s.repo, folderOf s]).isSome = true → ∀ path, [s.repo, folderOf s] <+: path →
    (t.file? path).isSome = true → ((leftBehind s e).get? path).isSome = true

/-- How a save that fails leaves a tree. Whatever lies in the place of the folder counts for what is
lost, and a payload that has taken the manifest's place counts for a manifest. -/
structure FailedSave (s : Snapshot) (t next : FileTree) : Prop where
  untouched : ∀ fault, emptied s t = .error fault → next = t
  sameFiles_iff : t.SameFiles next ↔ ∀ e, emptied s t = .ok e → Restores s t e
  lost : ∀ e, emptied s t = .ok e → (t.find? [s.repo, folderOf s]).isSome = true →
    (leftBehind s e).get? [s.repo, folderOf s, manifestName] = none →
    ∀ found, look ⟨next⟩ (keyOf s) ≠ .ok (some found)

/-! ### Documents -/

section Documents

variable {t u : FileTree} {folder : String} {f : String × Doc}

theorem written?_congr (h : t.SameFolders u) : written? u folder f = written? t folder f := by
  rw [written?, written?]
  cases Json.encode? f.2 with
  | none => rfl
  | some text =>
    cases ht : t.resolve [] (folder ++ "/" ++ f.1) with
    | ok path =>
      rw [h.resolve_eq_ok_iff.2 ht]
      dsimp only
      simp only [h path, h path.dropLast, ne_eq]
    | error fault =>
      cases hu : u.resolve [] (folder ++ "/" ++ f.1) with
      | ok path =>
        rw [h.resolve_eq_ok_iff.1 hu] at ht
        cases ht
      | error fault => rfl

theorem writeDocument_written {file : Path × FileContent} (h : written? t folder f = some file) :
    writeDocument folder f.1 f.2 t = .ok (t.put file.1 (.file file.2)) ∧ file.1 ≠ [] ∧
      t.find? file.1 ≠ some .folder := by
  unfold written? at h
  split at h
  next text path htext hpath =>
    split at h
    next hplace =>
      cases h
      refine ⟨?_, ?_, hplace.1⟩
      · rw [writeDocument, htext]
        simp only [hpath, bind, Except.bind]
        exact FileTree.writeAt_new _ hplace.1 hplace.2
      · rintro rfl
        exact hplace.1 rfl
    next => cases h
  next => cases h

theorem writeDocument_unwritten (h : written? t folder f = none) :
    ∃ fault, writeDocument folder f.1 f.2 t = .error fault := by
  cases hwrite : writeDocument folder f.1 f.2 t with
  | error fault => exact ⟨fault, rfl⟩
  | ok next =>
    unfold written? at h
    unfold writeDocument at hwrite
    cases htext : Json.encode? f.2 with
    | none =>
      rw [htext] at hwrite
      cases hwrite
    | some text =>
      rw [htext] at hwrite h
      obtain ⟨path, hpath, hplace⟩ := bind_eq_ok_iff.1 hwrite
      rw [hpath] at h
      dsimp only at h
      unfold FileTree.writeAt at hplace
      split at hplace
      next => cases hplace
      next hparent hplain =>
        rw [if_pos ⟨hplain, hparent⟩] at h
        cases h
      next => cases hplace
      next => cases hplace

/-- What the writing of files adds to the files that were there. -/
theorem run_writes {facts : List (String × Doc)} {base : Path → Option FileContent}
    {m : OrderedMap Path FileContent} (hfolders : t.SameFolders u)
    (hfiles : ∀ path, u.file? path = (m.get? path).or (base path)) :
    ∃ next answer, (facts.forM (fun f => Change.step
        (writeDocument folder (domainFile f.1) f.2))).run ⟨u⟩ = (answer, ⟨next⟩) ∧
      ∀ path, next.file? path =
        ((m.insertAll (writtenUntil t folder (filesOf facts))).get? path).or (base path) := by
  induction facts generalizing u m with
  | nil => exact ⟨u, .ok (), rfl, hfiles⟩
  | cons f rest ih =>
    cases hfile : written? t folder (domainFile f.1, f.2) with
    | none =>
      rw [← written?_congr hfolders] at hfile
      obtain ⟨fault, hfault⟩ := writeDocument_unwritten hfile
      refine ⟨u, .error fault, ?_, ?_⟩
      · rw [List.forM, Change.run_bind_error (Change.run_step_error hfault)]
      · rw [written?_congr hfolders] at hfile
        have hstop : writtenUntil t folder (filesOf (f :: rest)) = [] := by
          rw [filesOf, List.map_cons, writtenUntil, hfile]
        rw [hstop]
        exact hfiles
    | some file =>
      have hgo : writtenUntil t folder (filesOf (f :: rest)) =
          file :: writtenUntil t folder (filesOf rest) := by
        rw [filesOf, List.map_cons, writtenUntil, hfile]
        rfl
      rw [← written?_congr hfolders] at hfile
      obtain ⟨hwrite, hnil, hplain⟩ := writeDocument_written hfile
      have hput : ∀ path, (u.put file.1 (.file file.2)).file? path =
          ((m.insert file.1 file.2).get? path).or (base path) := by
        intro path
        rw [FileTree.file?_put _ hnil, OrderedMap.get?_insert]
        split
        · rfl
        · exact hfiles path
      obtain ⟨next, answer, hrun, hnext⟩ := ih (hfolders.put_file hplain file.2) hput
      refine ⟨next, answer, ?_, ?_⟩
      · rw [List.forM, Change.run_bind_ok (Change.run_step_ok hwrite), hrun]
      · rw [hgo]
        exact hnext

end Documents

/-! ### Steps of a save -/

section Steps

variable {s : Snapshot} {t e next : FileTree} {fault : Fault}

/-- A save fails before it changes anything, or goes on from the emptied folder. -/
theorem run_failed (h : (save s).run ⟨t⟩ = (.error fault, ⟨next⟩)) :
    (∃ refusal, emptied s t = .error refusal) ∧ next = t ∨
      ∃ e, emptied s t = .ok e ∧ removeIfThere [s.repo, folderOf s] t = .ok e ∧
        (replace s).run ⟨t⟩ = (.error fault, ⟨next⟩) := by
  cases hname : checkRepoName s.repo with
  | error refusal =>
    left
    unfold save at h
    rw [Change.run_bind_error (Change.run_lift_error hname)] at h
    cases h
    exact ⟨⟨fault, by rw [emptied, hname]; rfl⟩, rfl⟩
  | ok _ =>
    have hrepo : isRepoName s.repo = true := by
      by_contra hnot
      rw [checkRepoName, if_neg hnot] at hname
      cases hname
    cases hold : replacedEntry t (folderText s.repo s.refType.text s.ref) with
    | error refusal =>
      left
      unfold save at h
      rw [Change.run_bind_ok (Change.run_lift_ok hname), Change.run_bind_ok (Change.run_get _),
        Change.run_bind_error (Change.run_lift_error hold)] at h
      cases h
      exact ⟨⟨fault, by rw [emptied, hname, hold]; rfl⟩, rfl⟩
    | ok old =>
      rw [run_save hrepo hold] at h
      split at h
      · cases h
      · have hsteps : emptied s t = removeIfThere [s.repo, folderOf s] t := by
          rw [emptied, hname, hold]
          rfl
        rw [hsteps]
        cases hremove : removeIfThere [s.repo, folderOf s] t with
        | error refusal =>
          left
          rw [replace, Change.run_bind_error (Change.run_step_error hremove)] at h
          cases h
          exact ⟨⟨fault, rfl⟩, rfl⟩
        | ok e => exact Or.inr ⟨e, rfl, rfl, h⟩

/-- The files of the folder are taken away. -/
theorem file?_removed {place : Path} (hplace : place ≠ []) (h : removeIfThere place t = .ok e)
    (path : Path) : e.file? path =
      if (t.find? place).isSome = true ∧ place <+: path then none else t.file? path := by
  unfold removeIfThere at h
  split at h
  next hthere =>
    rw [FileTree.removeFolder_eq_ok h, FileTree.file?_erase hplace]
    simp only [hthere, true_and]
  next hnone =>
    cases h
    rw [if_neg (fun hboth => hnone hboth.1)]

/-- What fails while the folder is filled has added the files that it has written. -/
theorem file?_fill {made : FileTree} (hmade : e.SameFiles made)
    (h : (fill s).run ⟨made⟩ = (.error fault, ⟨next⟩)) (path : Path) :
    next.file? path = ((OrderedMap.ofList (writtenUntil made
      (folderText s.repo s.refType.text s.ref) (filesOf s.facts))).get? path).or (e.file? path) := by
  obtain ⟨filled, answer, hrun, hfilled⟩ := @run_writes made made
    (folderText s.repo s.refType.text s.ref) s.facts e.file? {} (fun _ => Iff.rfl) hmade
  rw [fill] at h
  cases answer with
  | error refusal =>
    rw [Change.run_bind_error hrun] at h
    cases h
    exact hfilled path
  | ok _ =>
    rw [Change.run_bind_ok hrun, Change.run_step_bind] at h
    split at h
    next => cases h
    next =>
      cases h
      exact hfilled path

/-- After the folder has been emptied, a save that fails adds the files that it writes. -/
theorem file?_replace (hremove : removeIfThere [s.repo, folderOf s] t = .ok e)
    (h : (replace s).run ⟨t⟩ = (.error fault, ⟨next⟩)) (path : Path) :
    next.file? path = ((leftBehind s e).get? path).or (e.file? path) := by
  rw [replace, Change.run_step_bind, hremove] at h
  dsimp only at h
  rw [Change.run_step_bind] at h
  cases htop : e.makeFolder [s.repo] with
  | error refusal =>
    have hroom : room s e = .error refusal := by
      rw [room, htop]
      rfl
    rw [htop] at h
    cases h
    rw [leftBehind, hroom]
    rfl
  | ok topped =>
    have hroom : room s e = topped.makeFolder [s.repo, folderOf s] := by
      rw [room, htop]
      rfl
    have htopped : e.SameFiles topped := FileTree.SameFiles.makeFolders (fun _ => rfl) htop
    rw [htop] at h
    dsimp only at h
    rw [Change.run_step_bind] at h
    cases hplace : topped.makeFolder [s.repo, folderOf s] with
    | error refusal =>
      rw [hplace] at h
      cases h
      rw [leftBehind, hroom, hplace, htopped]
      rfl
    | ok made =>
      rw [hplace] at h
      rw [leftBehind, hroom, hplace]
      exact file?_fill (htopped.makeFolders hplace) h path

/-- The files are those of before if what was taken away has been written again. -/
theorem restores_iff (hremove : removeIfThere [s.repo, folderOf s] t = .ok e) :
    (∀ path, ((leftBehind s e).get? path).or (e.file? path) = t.file? path) ↔ Restores s t e := by
  have hkept := file?_removed (List.cons_ne_nil _ _) hremove
  constructor
  · intro hsame
    constructor
    · intro path content hwritten
      rw [← hsame path, hwritten]
      rfl
    · intro hthere path hbelow hfile
      rw [← hsame path, hkept, if_pos ⟨hthere, hbelow⟩, Option.or_none] at hfile
      exact hfile
  · intro h path
    cases hwritten : (leftBehind s e).get? path with
    | some content => exact (h.unchanged path content hwritten).symm
    | none =>
      rw [Option.none_or, hkept]
      split
      next hgone =>
        rw [eq_comm, ← Option.not_isSome_iff_eq_none]
        intro hfile
        have hback := h.complete hgone.1 path hgone.2 hfile
        rw [hwritten] at hback
        cases hback
      next => rfl

end Steps

/-- Without its manifest, no snapshot is found. -/
theorem look_ne_of_no_manifest {t : FileTree} {k : Key}
    (h : t.file? [k.repo, k.folder, manifestName] = none) (found : Snapshot) :
    look ⟨t⟩ k ≠ .ok (some found) := by
  intro hlook
  cases hrepo : isRepoName k.repo with
  | false =>
    rw [look, load_refused _ _ hrepo] at hlook
    cases hlook
  | true =>
    rw [look, load] at hlook
    obtain ⟨-, -, hlook⟩ := bind_eq_ok_iff.1 hlook
    obtain ⟨there, -, hlook⟩ := bind_eq_ok_iff.1 hlook
    cases there with
    | false => cases hlook
    | true =>
      rw [if_pos rfl] at hlook
      obtain ⟨path, hpath, hlook⟩ := bind_eq_ok_iff.1 hlook
      obtain ⟨manifest, hmanifest, -⟩ := bind_eq_ok_iff.1 hlook
      rw [folderText_joined] at hpath
      obtain rfl := FileTree.resolve_joined_eq_ok (names_plain hrepo isName_manifestName) hpath
      obtain ⟨text, htext, -⟩ := bind_eq_ok_iff.1 hmanifest
      unfold FileTree.readAt at htext
      split at htext
      next content hcontent =>
        rw [FileTree.file?, Key.folder, hcontent] at h
        cases h
      next => cases htext
      next => cases htext

/-- A snapshot that lies in its folder does not outlive a failed save of its ref. -/
theorem Saved.look_failed {t : FileTree} {held : Contents} {s old : Snapshot} {fault : Fault}
    {result : Result Bool × Store} (h : Shelved t held) (hsaved : Saved t held s result)
    (hold : held s.repo (folderOf s) = some old) (hfault : result.1 = .error fault) :
    look result.2 (keyOf s) = .ok none := by
  have hstored := h.shelves _ _ _ hold
  cases hsaved with
  | refused hrepo =>
    have hvalid := hstored.storable.repo
    rw [hstored.repo, hrepo] at hvalid
    cases hvalid
  | long next hrepo hlong hnext => exact absurd hstored.fits hlong
  | kept old hrepo hfits hheld hlt => cases hfault
  | failed fault next hrepo hfits hstorable hnext =>
    have hlook := hnext.look_fits (k := keyOf s) hrepo hfits
    rwa [folder_keyOf, show (keyOf s).repo = s.repo from rfl, Contents.set_self] at hlook
  | stored next hstorable hfits hnewer hnext => cases hfault

/-- A capture with a domain whose name asks for a folder of its own. -/
def captureNested (ref : String) (minute : Fin 60) : Snapshot :=
  { capture ref minute with facts := [("a/b", .null)] }

theorem run_captureNested_empty :
    ∃ next, (save (captureNested "main" 0)).run {} = (.error (.file .missing), ⟨next⟩) :=
  ⟨_, rfl⟩

/-- A store with one snapshot. -/
def stocked : Store := ((save (capture "main" 0)).run {}).2

theorem shelved_stocked : Shelved stocked.tree (Contents.set (fun _ _ => none) "shop"
    (folderOf (capture "main" 0)) (some (capture "main" 0))) := by
  obtain ⟨next, hrun, hnext⟩ := shelved_empty.save_stored (storable_capture "main" 0) (by decide)
    (fun _ hold => by cases hold)
  have hstocked : stocked = ⟨next⟩ := congrArg Prod.snd hrun
  rw [hstocked]
  exact hnext

/-- The stored snapshot is older, so a later save goes on. -/
theorem run_captureNested_stocked : (save (captureNested "main" 1)).run stocked =
    (replace (captureNested "main" 1)).run stocked := by
  have hentry := @Shelved.replacedEntry_fits _ _ "shop" "main" .branch shelved_stocked (by decide)
    (by decide)
  rw [show folderName RefType.branch.text "main" = folderOf (capture "main" 0) from rfl,
    Contents.set_self, Option.map_some] at hentry
  have hrun := @run_save stocked.tree (captureNested "main" 1) (by decide) _ hentry
  have holder : ¬ (some (entryOf (capture "main" 0))).any
      (isNewer · (captureNested "main" 1)) = true := by
    rw [Option.any_some, isNewer_entryOf, (isMoment_capture "main" 0).reread_eq]
    decide
  rwa [if_neg holder] at hrun

end Store

end RepoAtlas
