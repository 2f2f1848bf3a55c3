import Mathlib.Data.List.Perm.Basic
import RepoAtlas.Proofs.Store.FailedSave

/-!
Repositories in which some folders hold the files of snapshots and the manifests of others may hold
anything. A manifest that is no JSON text, and a record without a ref or with an unreadable time,
is skipped. JSON values of other shapes are not: with one of them nothing is listed at all.
-/
namespace RepoAtlas

namespace Store

/-! ### Stored snapshots

A snapshot that has been stored into any tree, also one in which other things lie about, lies in its
folder as long as nothing changes there.
-/

section Stored

variable {t u next : FileTree} {s : Snapshot}

/-- A save that stores its snapshot goes all the way. -/
theorem run_stored (h : (save s).run ⟨t⟩ = (.ok true, ⟨next⟩)) :
    isRepoName s.repo = true ∧ (replace s).run ⟨t⟩ = (.ok true, ⟨next⟩) := by
  cases hname : checkRepoName s.repo with
  | error refusal =>
    unfold save at h
    rw [Change.run_bind_error (Change.run_lift_error hname)] at h
    cases h
  | ok _ =>
    have hrepo : isRepoName s.repo = true := by
      by_contra hnot
      rw [checkRepoName, if_neg hnot] at hname
      cases hname
    cases hold : replacedEntry t (folderText s.repo s.refType.text s.ref) with
    | error refusal =>
      unfold save at h
      rw [Change.run_bind_ok (Change.run_lift_ok hname), Change.run_bind_ok (Change.run_get _),
        Change.run_bind_error (Change.run_lift_error hold)] at h
      cases h
    | ok old =>
      rw [run_save hrepo hold] at h
      split at h
      · cases h
      · exact ⟨hrepo, h⟩

/-- The place of a snapshot that has been stored could be cleared. -/
theorem placed_of_run_replace (hdistinct : t.Distinct) (hgrounded : t.Grounded)
    (h : (replace s).run ⟨t⟩ = (.ok true, ⟨next⟩)) : Placed t s.repo (folderOf s) := by
  rw [replace, Change.run_step_bind] at h
  refine ⟨hdistinct, ?_, ?_⟩
  · cases htop : t.find? [s.repo] with
    | none => exact Or.inl rfl
    | some item =>
      cases item with
      | folder => exact Or.inr rfl
      | file content =>
        have hplain : t.find? [s.repo] ≠ some .folder := by simp [htop]
        have hplace : t.find? [s.repo, folderOf s] = none := hgrounded.find?_below hplain _
        have hstay : removeIfThere [s.repo, folderOf s] t = .ok t := by
          rw [removeIfThere, hplace, Option.isSome_none, if_neg Bool.false_ne_true]
        rw [hstay] at h
        dsimp only at h
        rw [Change.run_step_bind] at h
        have hblocked : ∃ fault, t.makeFolder [s.repo] = .error fault := by
          rw [FileTree.makeFolder, FileTree.makeFolders]
          split
          · exact ⟨_, rfl⟩
          · rw [List.nil_append, htop]
            exact ⟨_, rfl⟩
        obtain ⟨fault, hfault⟩ := hblocked
        rw [hfault] at h
        cases h
  · cases hplace : t.find? [s.repo, folderOf s] with
    | none =>
      have hplain : t.find? [s.repo, folderOf s] ≠ some .folder := by simp [hplace]
      exact Or.inr ⟨rfl, hgrounded.find?_below hplain⟩
    | some item =>
      cases item with
      | folder => exact Or.inl rfl
      | file content =>
        have hblocked : removeIfThere [s.repo, folderOf s] t = .error (.file .notADirectory) := by
          rw [removeIfThere, hplace, Option.isSome_some, if_pos rfl, FileTree.removeFolder, hplace]
        rw [hblocked] at h
        cases h

theorem fits_of_run_replace (hplaced : Placed t s.repo (folderOf s))
    (hrepo : isRepoName s.repo = true) (h : (replace s).run ⟨t⟩ = (.ok true, ⟨next⟩)) :
    Fits (folderOf s) := by
  by_contra hlong
  obtain ⟨emptied, hemptied, hdistinct, hother, -, -, -⟩ := hplaced.removeIfThere
  have hbeside : ¬ [s.repo, folderOf s] <+: [s.repo] := by
    rintro ⟨tail, heq⟩
    simp at heq
  obtain ⟨topped, htopped, -, hfolder, -⟩ := makeFolder_top hrepo hdistinct
    (hother _ hbeside (List.cons_ne_nil _ _) ▸ hplaced.top)
  have hlong := FileTree.makeFolder_long (fits_of_isRepoName hrepo) hlong hfolder
  rw [replace, Change.run_bind_ok (Change.run_step_ok hemptied), Change.run_step_bind, htopped] at h
  dsimp only at h
  rw [Change.run_step_bind, hlong] at h
  cases h

theorem lies_of_run_save (hs : Storable s) (hdistinct : t.Distinct) (hgrounded : t.Grounded)
    (h : (save s).run ⟨t⟩ = (.ok true, ⟨next⟩)) : Lies next s := by
  obtain ⟨hrepo, hrun⟩ := run_stored h
  have hplaced := placed_of_run_replace hdistinct hgrounded hrun
  have hfits := fits_of_run_replace hplaced hrepo hrun
  obtain ⟨next', answer, hrun', hends⟩ := hplaced.run_replace hs.plain hs.time hrepo hfits
  rw [hrun] at hrun'
  cases hrun'
  rcases hends.ends with ⟨-, -, -, hoccupied⟩ | ⟨⟨fault, hfault, -⟩, -⟩
  · exact ⟨hs, hfits, hends.apart.top, hoccupied⟩
  · cases hfault

/-- The snapshot has been stored by a save, and nothing has changed in its folder since. -/
def IsIntact (t : FileTree) (s : Snapshot) : Prop :=
  Storable s ∧ ∃ before after : FileTree, before.Distinct ∧ before.Grounded ∧
    (save s).run ⟨before⟩ = (.ok true, ⟨after⟩) ∧
    ∀ path, [s.repo, folderOf s] <+: path → t.find? path = after.find? path

theorem IsIntact.lies (h : IsIntact t s) (htop : t.find? [s.repo] = some .folder) : Lies t s := by
  obtain ⟨hs, before, after, hdistinct, hgrounded, hrun, hsame⟩ := h
  obtain ⟨-, hfits, -, hfolder, hfiles⟩ := lies_of_run_save hs hdistinct hgrounded hrun
  refine ⟨hs, hfits, htop, ?_, ?_⟩
  · rw [hsame _ List.prefix_rfl, hfolder]
  · intro name
    rw [hsame [s.repo, folderOf s, name] ⟨[name], rfl⟩, hfiles]

end Stored

/-! ### Manifests -/

/-- The JSON value in the manifest of a folder, if it is one. -/
def manifestDoc? (t : FileTree) (repo folder : String) : Option Doc :=
  match t.find? [repo, folder, manifestName] with
  | some (.file content) => content.read.toOption.bind Json.decode?
  | _ => none

/-- The manifest is a record with a ref and a readable time, which make the entry. -/
def Tells (d : Doc) (e : Entry) : Prop :=
  ∃ ms time, d = .object ms ∧ OrderedMap.lookup "ref" ms = some e.ref ∧
    OrderedMap.lookup "captured_at" ms = some (.text time) ∧
    Timestamp.parse time = .ok e.capturedAt ∧
    e.refType = (OrderedMap.lookup "ref_type" ms).getD (.text RefType.branch.text) ∧
    e.sha = (OrderedMap.lookup "sha" ms).getD .null

/-- The manifest is of a shape that the reader does not expect: no record, or a record with a ref
whose time is no text. -/
inductive Stops : Doc → Prop
  | noRecord {d : Doc} : (∀ ms, d ≠ .object ms) → Stops d
  | noTimeText {ms : List (String × Doc)} {ref time : Doc} :
      OrderedMap.lookup "ref" ms = some ref → OrderedMap.lookup "captured_at" ms = some time →
      (∀ text, time ≠ .text text) → Stops (.object ms)

theorem ofManifest?_eq_some_iff {d : Doc} {e : Entry} :
    Entry.ofManifest? d = .ok (some e) ↔ Tells d e := by
  constructor
  · intro h
    unfold Entry.ofManifest? at h
    split at h
    next ms =>
      split at h
      next ref time href htime =>
        split at h
        next capturedAt hparse =>
          cases h
          exact ⟨ms, time, rfl, href, htime, hparse, rfl, rfl⟩
        next => cases h
      next => cases h
      next => cases h
    next => cases h
  · rintro ⟨ms, time, rfl, href, htime, hparse, htype, hsha⟩
    obtain ⟨ref, refType, sha, capturedAt⟩ := e
    simp only at href htime hparse htype hsha
    simp only [Entry.ofManifest?, href, htime, hparse, ← htype, ← hsha]

theorem ofManifest?_eq_error_iff {d : Doc} {fault : Fault} :
    Entry.ofManifest? d = .error fault ↔ fault = .wrongKind ∧ Stops d := by
  constructor
  · intro h
    unfold Entry.ofManifest? at h
    split at h
    next ms =>
      split at h
      next ref time href htime =>
        split at h
        next => cases h
        next => cases h
      next ref time hother href htime =>
        cases h
        exact ⟨rfl, .noTimeText href htime fun text htext => hother text htext⟩
      next => cases h
    next hother =>
      cases h
      exact ⟨rfl, .noRecord fun ms => hother ms⟩
  · rintro ⟨rfl, hstops⟩
    cases hstops with
    | noRecord hother =>
      cases d with
      | object ms => exact absurd rfl (hother ms)
      | _ => rfl
    | @noTimeText ms ref time href htime hother =>
      rw [Entry.ofManifest?, href, htime]
      cases time with
      | text text => exact absurd rfl (hother text)
      | _ => rfl

section Listing

variable {t : FileTree} {repo folder : String}

theorem entryAt_manifest (hfile : t.find? [repo, folder, manifestName] ≠ some .folder) :
    entryAt t [repo, folder, manifestName] =
      match manifestDoc? t repo folder with
      | some d => Entry.ofManifest? d
      | none => .ok none := by
  rw [entryAt, manifestDoc?]
  cases hfind : t.find? [repo, folder, manifestName] with
  | none => rfl
  | some item =>
    cases item with
    | folder => exact absurd hfind hfile
    | file content =>
      cases hread : content.read with
      | error fault => simp [hread, Except.toOption]
      | ok text => cases hdecode : Json.decode? text <;> simp [hread, Except.toOption, hdecode]

/-- A repository whose manifests are files, in folders. -/
structure Stands (t : FileTree) (repo : String) : Prop where
  valid : isRepoName repo = true
  distinct : t.Distinct
  grounded : t.Grounded
  top : t.find? [repo] = some .folder
  files : ∀ folder, t.find? [repo, folder, manifestName] ≠ some .folder

/-- The entries are those that the manifests tell, one for each folder, later ones first. -/
structure IsListing (t : FileTree) (repo : String) (es : List Entry) : Prop where
  told : ∃ folders : List String, folders.Nodup ∧
    List.Forall₂ (fun folder e => ∃ d, manifestDoc? t repo folder = some d ∧ Tells d e) folders es ∧
    ∀ folder d e, manifestDoc? t repo folder = some d → Tells d e → folder ∈ folders
  sorted : es.Pairwise (fun a b => b.capturedAt.instant ≤ a.capturedAt.instant)

/-- What mapping a list finds belongs to some of the items, in their order. -/
theorem exists_found {α β : Type} {f : α → Result (Option β)} {xs : List α} {ys : List (Option β)}
    (h : xs.mapM f = .ok ys) : ∃ found : List α, found.Sublist xs ∧
      List.Forall₂ (fun x y => f x = .ok (some y)) found (ys.filterMap id) ∧
      ∀ x ∈ xs, ∀ y, f x = .ok (some y) → x ∈ found := by
  induction xs generalizing ys with
  | nil =>
    rw [List.mapM_nil, pure_eq_ok_iff] at h
    subst h
    exact ⟨[], List.Sublist.refl _, .nil, fun x hx => by cases hx⟩
  | cons x rest ih =>
    obtain ⟨y?, hy, zs, hzs, rfl⟩ := mapM_cons_eq_ok_iff.1 h
    obtain ⟨found, hsub, hfound, hall⟩ := ih hzs
    cases y? with
    | none =>
      refine ⟨found, hsub.cons x, hfound, ?_⟩
      intro z hz y hfz
      rcases List.mem_cons.1 hz with rfl | hz
      · rw [hy] at hfz
        cases hfz
      · exact hall z hz y hfz
    | some y =>
      refine ⟨x :: found, hsub.cons_cons x, .cons hy hfound, ?_⟩
      intro z hz w hfz
      rcases List.mem_cons.1 hz with rfl | hz
      · exact List.mem_cons_self
      · exact List.mem_cons_of_mem x (hall z hz w hfz)

theorem newestFirst_sorted (es : List Entry) :
    (newestFirst es).Pairwise (fun a b => b.capturedAt.instant ≤ a.capturedAt.instant) := by
  have hlater : ∀ a b : Entry, decide (b.capturedAt.instant ≤ a.capturedAt.instant) = true ↔
      OrderDual.toDual a.capturedAt.instant ≤ OrderDual.toDual b.capturedAt.instant :=
    fun _ _ => decide_eq_true_iff
  exact pairwise_mergeSort_key hlater es

theorem Stands.mem_children_of_manifest (h : Stands t repo) {d : Doc}
    (hd : manifestDoc? t repo folder = some d) : folder ∈ t.children [repo] := by
  have hthere : (t.find? [repo, folder, manifestName]).isSome = true := by
    cases hfind : t.find? [repo, folder, manifestName] with
    | some item => rfl
    | none =>
      rw [manifestDoc?, hfind] at hd
      cases hd
  rw [FileTree.mem_children, List.singleton_append, h.grounded [repo, folder] _ hthere]
  rfl

theorem Stands.entryAt_eq_some_iff (h : Stands t repo) {e : Entry} :
    entryAt t [repo, folder, manifestName] = .ok (some e) ↔
      ∃ d, manifestDoc? t repo folder = some d ∧ Tells d e := by
  rw [entryAt_manifest (h.files folder)]
  cases manifestDoc? t repo folder with
  | none => simp
  | some d => simp [ofManifest?_eq_some_iff]

theorem Stands.entryAt_eq_error_iff (h : Stands t repo) {fault : Fault} :
    entryAt t [repo, folder, manifestName] = .error fault ↔
      fault = .wrongKind ∧ ∃ d, manifestDoc? t repo folder = some d ∧ Stops d := by
  rw [entryAt_manifest (h.files folder)]
  cases manifestDoc? t repo folder with
  | none => simp
  | some d => simp [ofManifest?_eq_error_iff]

theorem Stands.entries_eq (h : Stands t repo) :
    entries ⟨t⟩ repo = (fun found => newestFirst (found.filterMap id)) <$>
      (t.children [repo]).mapM (fun name => entryAt t [repo, name, manifestName]) := by
  unfold entries
  simp only [checkRepoName, h.valid, if_true, h.top]
  cases (t.children [repo]).mapM (fun name => entryAt t [repo, name, manifestName]) <;> rfl

/-- One manifest of an unexpected shape hides all entries. -/
theorem Stands.entries_stopped (h : Stands t repo) {d : Doc}
    (hd : manifestDoc? t repo folder = some d) (hstops : Stops d) :
    entries ⟨t⟩ repo = .error .wrongKind := by
  have hfault : (t.children [repo]).mapM (fun name => entryAt t [repo, name, manifestName]) =
      .error .wrongKind := by
    refine mapM_eq_error (fun name _ fault hfault => (h.entryAt_eq_error_iff.1 hfault).1) ?_
    exact ⟨folder, h.mem_children_of_manifest hd, .wrongKind,
      h.entryAt_eq_error_iff.2 ⟨rfl, d, hd, hstops⟩⟩
  rw [h.entries_eq, hfault]
  rfl

/-- Without such a manifest, the entries are those that the manifests tell. -/
theorem Stands.entries_listed (h : Stands t repo)
    (hgo : ∀ folder d, manifestDoc? t repo folder = some d → ¬ Stops d) :
    ∃ es, entries ⟨t⟩ repo = .ok es ∧ IsListing t repo es := by
  have hread : ∀ name ∈ t.children [repo], ∃ e?, entryAt t [repo, name, manifestName] = .ok e? := by
    intro name _
    cases hentry : entryAt t [repo, name, manifestName] with
    | ok e? => exact ⟨e?, rfl⟩
    | error fault =>
      obtain ⟨-, d, hd, hstops⟩ := h.entryAt_eq_error_iff.1 hentry
      exact absurd hstops (hgo name d hd)
  obtain ⟨ys, hys⟩ := exists_mapM_eq_ok hread
  obtain ⟨found, hsub, hfound, hall⟩ := exists_found hys
  have hsort : (ys.filterMap id).Perm (newestFirst (ys.filterMap id)) :=
    (List.mergeSort_perm _ _).symm
  -- the folders are put into the order of their entries
  have hcomp : Relation.Comp
      (List.Forall₂ fun name e => entryAt t [repo, name, manifestName] = .ok (some e)) List.Perm
      found (newestFirst (ys.filterMap id)) := ⟨_, hfound, hsort⟩
  rw [List.forall₂_comp_perm_eq_perm_comp_forall₂] at hcomp
  obtain ⟨folders, hperm, htold⟩ := hcomp
  refine ⟨newestFirst (ys.filterMap id), by rw [h.entries_eq, hys]; rfl, ⟨folders, ?_, ?_, ?_⟩,
    newestFirst_sorted _⟩
  · exact hperm.nodup_iff.1 ((FileTree.nodup_children h.distinct [repo]).sublist hsub)
  · exact htold.imp fun name e hentry => h.entryAt_eq_some_iff.1 hentry
  · intro folder d e hd htells
    have hentry := h.entryAt_eq_some_iff.2 ⟨d, hd, htells⟩
    exact hperm.subset (hall folder (h.mem_children_of_manifest hd) e hentry)

end Listing

/-! ### Intact snapshots -/

section Intact

variable {t : FileTree} {s : Snapshot}

theorem Lies.manifestDoc?_eq (h : Lies t s) :
    manifestDoc? t s.repo (folderOf s) = some (manifestOf s) := by
  obtain ⟨hread, hdecode⟩ := decode?_textOf (isSpelt_manifestOf h.storable.sha)
  rw [manifestDoc?, h.occupied.2, fileOf, if_pos rfl, fileWith]
  simp only [hread, Except.toOption, Option.bind_some, hdecode]

theorem Lies.loadEntry (h : Lies t s) :
    loadEntry ⟨t⟩ s.repo (entryOf s) = .ok (some (readBack s)) :=
  h.load rfl

/-- The entry of a snapshot that lies in its folder is listed. -/
theorem IsListing.mem_of_lies {es : List Entry} (hlist : IsListing t s.repo es) (h : Lies t s) :
    entryOf s ∈ es := by
  obtain ⟨folders, -, htold, hall⟩ := hlist.told
  have htells : Tells (manifestOf s) (entryOf s) :=
    ofManifest?_eq_some_iff.1 (Entry.ofManifest?_manifestOf h.storable.time)
  have hfolder := hall _ _ _ h.manifestDoc?_eq htells
  obtain ⟨e, he, d, hd, hother⟩ := exists_mem_of_forall₂ htold hfolder
  obtain rfl : manifestOf s = d := Option.some.inj (h.manifestDoc?_eq.symm.trans hd)
  rw [← ofManifest?_eq_some_iff, Entry.ofManifest?_manifestOf h.storable.time] at hother
  cases hother
  exact he

theorem latest_eq {es : List Entry} (hes : entries ⟨t⟩ s.repo = .ok es)
    (hlist : IsListing t s.repo es) (h : Lies t s)
    (hnewest : ∀ e ∈ es, e = entryOf s ∨ e.capturedAt.instant < (entryOf s).capturedAt.instant) :
    latest ⟨t⟩ s.repo = .ok (some (readBack s)) := by
  have hmem := hlist.mem_of_lies h
  have hhead : es.head? = some (entryOf s) := by
    cases es with
    | nil => cases hmem
    | cons e rest =>
      rcases hnewest e List.mem_cons_self with rfl | hlt
      · rfl
      · rcases List.mem_cons.1 hmem with heq | hin
        · rw [heq]
          rfl
        · exact absurd ((List.pairwise_cons.1 hlist.sorted).1 _ hin) (Int.not_le.2 hlt)
  rw [latest, hes]
  simp only [bind, Except.bind, hhead]
  exact h.loadEntry

theorem atRef_eq {es : List Entry} (hes : entries ⟨t⟩ s.repo = .ok es)
    (hlist : IsListing t s.repo es) (h : Lies t s)
    (hnewest : ∀ e ∈ es, e.isFor s.ref = true →
      e = entryOf s ∨ e.capturedAt.instant < (entryOf s).capturedAt.instant) :
    atRef ⟨t⟩ s.repo s.ref = .ok (some (readBack s)) := by
  have hmem := hlist.mem_of_lies h
  have hfor : (entryOf s).isFor s.ref = true := by simp [Entry.isFor, entryOf]
  have hfirst : es.find? (·.isFor s.ref) = some (entryOf s) := by
    cases hfind : es.find? (·.isFor s.ref) with
    | none => exact absurd hfor (List.find?_eq_none.1 hfind _ hmem)
    | some e =>
      obtain ⟨he, before, after, rfl, hbefore⟩ := List.find?_eq_some_iff_append.1 hfind
      rcases hnewest e (by simp) he with rfl | hlt
      · rfl
      · rcases List.mem_append.1 hmem with hin | hin
        · have hnot := hbefore _ hin
          rw [hfor] at hnot
          cases hnot
        · rcases List.mem_cons.1 hin with heq | hin
          · rw [heq]
          · have hsorted := (List.pairwise_append.1 hlist.sorted).2.1
            exact absurd ((List.pairwise_cons.1 hsorted).1 _ hin) (Int.not_le.2 hlt)
  rw [atRef, hes]
  simp only [bind, Except.bind, hfirst]
  exact h.loadEntry

end Intact

/-! ### Repositories with broken manifests -/

/-- What is read from a repository of which some manifests may hold anything. -/
structure ReadsManifests (t : FileTree) (repo : String) : Prop where
  /-- With one manifest of an unexpected shape nothing is listed. -/
  stopped : (∃ folder d, manifestDoc? t repo folder = some d ∧ Stops d) →
    entries ⟨t⟩ repo = .error .wrongKind ∧ latest ⟨t⟩ repo = .error .wrongKind ∧
      ∀ ref, atRef ⟨t⟩ repo ref = .error .wrongKind
  /-- Without, all that can be told is listed, and the newest intact snapshots are found. -/
  listed : (∀ folder d, manifestDoc? t repo folder = some d → ¬ Stops d) →
    ∃ es, entries ⟨t⟩ repo = .ok es ∧ IsListing t repo es ∧
      ∀ s, s.repo = repo → IsIntact t s → entryOf s ∈ es ∧
        ((∀ e ∈ es, e = entryOf s ∨ e.capturedAt.instant < (entryOf s).capturedAt.instant) →
          latest ⟨t⟩ repo = .ok (some (readBack s))) ∧
        ((∀ e ∈ es, e.isFor s.ref = true →
            e = entryOf s ∨ e.capturedAt.instant < (entryOf s).capturedAt.instant) →
          atRef ⟨t⟩ repo s.ref = .ok (some (readBack s)))
  /-- What is asked for by its own key is found in either case. -/
  loaded : ∀ s, s.repo = repo → IsIntact t s → look ⟨t⟩ (keyOf s) = .ok (some (readBack s))

theorem Shelved.manifestDoc?_eq {t : FileTree} {held : Contents} (h : Shelved t held)
    (repo folder : String) : manifestDoc? t repo folder = (held repo folder).map manifestOf := by
  cases hheld : held repo folder with
  | some s =>
    obtain ⟨-, rfl, rfl, -⟩ := h.shelves _ _ _ hheld
    exact (h.lies hheld).manifestDoc?_eq
  | none =>
    have hnone : t.find? [repo, folder, manifestName] = none := by
      rcases h.vacant _ _ hheld with ⟨-, hnone⟩ | ⟨-, hnone⟩
      · exact hnone manifestName
      · exact hnone
    rw [manifestDoc?, hnone]
    rfl

/-- The stocked store with a further folder, in which the manifest has the text. -/
def besideManifest (manifest : String) : FileTree :=
  (stocked.tree.put ["shop", "branch-dev"] .folder).put ["shop", "branch-dev", manifestName]
    (.file (.text manifest))

theorem grounded_stocked : stocked.tree.Grounded :=
  FileTree.grounded_of_keys (by decide +kernel)

section BesideManifest

variable (manifest : String)

theorem find?_besideManifest {folder : String} (hother : folder ≠ "branch-dev") (tail : Path) :
    (besideManifest manifest).find? ("shop" :: folder :: tail) =
      stocked.tree.find? ("shop" :: folder :: tail) := by
  rw [besideManifest, FileTree.find?_put _ _ (by simp), if_neg (by simp [hother]),
    FileTree.find?_put _ _ (by simp), if_neg (by simp [hother])]

theorem manifestDoc?_besideManifest (folder : String) :
    manifestDoc? (besideManifest manifest) "shop" folder =
      if folder = "branch-dev" then (FileContent.text manifest).read.toOption.bind Json.decode?
      else manifestDoc? stocked.tree "shop" folder := by
  split
  next hdev =>
    rw [hdev, manifestDoc?, besideManifest, FileTree.find?_put _ _ (by simp), if_pos rfl]
  next hother => rw [manifestDoc?, manifestDoc?, find?_besideManifest manifest hother]

theorem manifestDoc?_stocked {folder : String} {d : Doc}
    (h : manifestDoc? stocked.tree "shop" folder = some d) : d = manifestOf (capture "main" 0) := by
  rw [shelved_stocked.manifestDoc?_eq, Contents.set] at h
  split at h
  next => exact (Option.some.inj h).symm
  next => cases h

theorem stands_besideManifest : Stands (besideManifest manifest) "shop" where
  valid := by decide
  distinct := (shelved_stocked.distinct.put _ _).put _ _
  grounded := by
    have htop : stocked.tree.find? ["shop"] = some .folder := by decide +kernel
    have hmade : (stocked.tree.put ["shop", "branch-dev"] .folder).Grounded :=
      grounded_stocked.put htop (Or.inl rfl)
    refine hmade.put ?_ (Or.inr ?_)
    · decide +kernel
    · decide +kernel
  top := by
    rw [besideManifest, FileTree.find?_put _ _ (by simp), if_neg (by simp),
      FileTree.find?_put _ _ (by simp), if_neg (by simp)]
    decide +kernel
  files := by
    intro folder hfolder
    by_cases hdev : folder = "branch-dev"
    · rw [hdev, besideManifest, FileTree.find?_put _ _ (by simp), if_pos rfl] at hfolder
      cases hfolder
    · have hentry := shelved_stocked.entryAt_eq "shop" folder
      rw [find?_besideManifest manifest hdev] at hfolder
      rw [entryAt, hfolder] at hentry
      cases hentry

theorem isIntact_besideManifest : IsIntact (besideManifest manifest) (capture "main" 0) := by
  obtain ⟨next, hrun, -⟩ := shelved_empty.save_stored (storable_capture "main" 0) (by decide)
    (fun _ hold => by cases hold)
  have hstocked : stocked = ⟨next⟩ := congrArg Prod.snd hrun
  refine ⟨storable_capture "main" 0, {}, stocked.tree, FileTree.distinct_empty, ?_, ?_, ?_⟩
  · exact FileTree.grounded_of_keys fun path hpath => by cases hpath
  · rw [hstocked]
    exact hrun
  · rintro path ⟨tail, rfl⟩
    exact find?_besideManifest manifest (by decide) tail

end BesideManifest

end Store

end RepoAtlas
