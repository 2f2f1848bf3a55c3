import RepoAtlas.Proofs.Sorting
import RepoAtlas.Proofs.Store.Shelf

/-!
What is read from a store: `load` gives the snapshot of a folder back, and the entries of a
repository are those of the snapshots in its folders.
-/
namespace RepoAtlas

namespace Store

/-! ### Snapshots from documents -/

theorem namedDomains_manifestOf (s : Snapshot) :
    namedDomains (manifestOf s) = .ok (s.domains.map .text) := rfl

/-- The document of a stored snapshot is read as the snapshot. -/
theorem ofDoc_snapshotDoc {s : Snapshot} (htime : s.capturedAt.Readable)
    {facts : List (String × Doc)} (hnames : (facts.map (·.1)).Nodup) :
    Snapshot.ofDoc (snapshotDoc (manifestOf s) facts) =
      .ok { s with capturedAt := s.capturedAt.reread, facts } := by
  have hdoc : snapshotDoc (manifestOf s) facts =
      .object [("repo", .text s.repo), ("ref", .text s.ref), ("ref_type", .text s.refType.text),
        ("sha", s.sha), ("captured_at", .text s.capturedAt.isoText),
        ("domains", .ofTexts s.domains), ("facts_by_domain", .object facts)] := by
    rw [manifestOf, snapshotDoc, OrderedMap.entries_ofList hnames]
    rfl
  have hchoice : s.refType.text ∈ refTypeTexts := by
    cases s.refType <;> decide
  have hfull : Snapshot.conform (snapshotDoc (manifestOf s) facts) =
      .ok (.object [("repo", .text s.repo), ("ref", .text s.ref), ("ref_type", .text s.refType.text),
        ("sha", s.sha), ("captured_at", .text s.capturedAt.reread.isoText),
        ("facts_by_domain", .object facts)]) := by
    rw [hdoc]
    simp [Snapshot.conform, Snapshot.required, OrderedMap.lookup, Doc.toText, htime.once,
      Snapshot.toMapping, Choice.check, Doc.get?, hchoice, bind, Except.bind, pure, Except.pure]
  rw [Snapshot.ofDoc, hfull]
  simp [Snapshot.ofFull, RefType.ofText?_text, htime.again, bind, Except.bind, pure, Except.pure]

theorem nodup_domains {s : Snapshot} (hs : Storable s) : s.domains.Nodup :=
  (List.mergeSort_perm _ _).nodup_iff.2 hs.names

/-! ### Loading -/

section Loading

variable {t : FileTree} {held : Contents} {repo ref : String} {refType : RefType} {s : Snapshot}

/-- What lies in a folder is loaded, whatever lies in the other ones. -/
theorem Lies.load (h : Lies t s) (hnamed : folderName refType.text ref = folderOf s) :
    load ⟨t⟩ s.repo refType.text ref = .ok (some (readBack s)) := by
  have hs := h.storable
  have hexists := h.existsAt hnamed isName_manifestName fits_manifestName
  have hresolve := h.resolve hnamed isName_manifestName fits_manifestName
  have hmanifest : fileOf s manifestName = some (fileWith (manifestOf s)) := by
    rw [fileOf, if_pos rfl]
  have hdocument :=
    readAt_of_find? (isSpelt_manifestOf hs.sha) ((h.occupied.2 manifestName).trans hmanifest)
  have hpayloads := h.payloads_eq hnamed s.domains (fun domain => mem_domains.1)
  have hnames :
      ((s.domains.map (fun domain => (domain, payloadBack s domain))).map (·.1)).Nodup := by
    rw [List.map_map]
    exact (nodup_domains hs).map (fun _ _ heq => heq)
  have hread := ofDoc_snapshotDoc hs.time hnames
  rw [hmanifest] at hexists
  unfold Store.load
  simp only [checkRepoName, hs.repo, if_true, hexists, hresolve, hdocument,
    namedDomains_manifestOf, hpayloads, hread, bind, Except.bind, pure, Except.pure,
    Option.isSome_some]
  rfl

theorem Shelved.load_occupied (h : Shelved t held)
    (hheld : held repo (folderName refType.text ref) = some s) :
    load ⟨t⟩ repo refType.text ref = .ok (some (readBack s)) := by
  obtain ⟨-, rfl, hnamed, -⟩ := h.shelves _ _ _ hheld
  exact (h.lies hheld).load hnamed.symm

/-- What `load` gives for a folder's name that fits. -/
theorem Shelved.load_fits (h : Shelved t held) (hrepo : isRepoName repo = true)
    (hfits : Fits (folderName refType.text ref)) :
    load ⟨t⟩ repo refType.text ref =
      .ok ((held repo (folderName refType.text ref)).map readBack) := by
  cases hheld : held repo (folderName refType.text ref) with
  | some s => exact h.load_occupied hheld
  | none =>
    have hexists := h.existsAt_vacant hrepo hfits hheld
    unfold load
    simp only [checkRepoName, hrepo, if_true, hexists, bind, Except.bind, pure, Except.pure,
      Bool.false_eq_true, if_false, Option.map_none]

/-- With a name that does not fit, `load` fails as soon as the repository is there. -/
theorem Shelved.load_long (h : Shelved t held) (hrepo : isRepoName repo = true)
    (hlong : ¬ Fits (folderName refType.text ref)) :
    load ⟨t⟩ repo refType.text ref =
      if t.find? [repo] = none then .ok none else .error (.file .nameTooLong) := by
  have hexists := h.existsAt_long hrepo isName_manifestName hlong
  unfold load
  by_cases htop : t.find? [repo] = none
  · rw [if_pos htop] at hexists ⊢
    simp only [checkRepoName, hrepo, if_true, hexists, bind, Except.bind, pure, Except.pure,
      Bool.false_eq_true, if_false]
  · rw [if_neg htop] at hexists ⊢
    simp only [checkRepoName, hrepo, if_true, hexists, bind, Except.bind]

theorem load_refused (store : Store) (refType : String) (hrepo : isRepoName repo = false) :
    store.load repo refType ref = .error (.repositoryName repo) := by
  unfold load
  rw [checkRepoName, hrepo]
  rfl

/-- A ref counts only by the folder that it leads to. -/
theorem load_congr {refType : String} {other : String} (store : Store)
    (h : safeRef ref = safeRef other) :
    store.load repo refType ref = store.load repo refType other := by
  have hfolder : folderText repo refType ref = folderText repo refType other := by
    rw [folderText, folderText, folderName, folderName, h]
  unfold load
  rw [hfolder]

end Loading

/-! ### Keys -/

/-- What a snapshot is asked for by. -/
structure Key where
  repo : String
  refType : RefType
  ref : String
  deriving DecidableEq, Repr

def Key.folder (k : Key) : String := folderName k.refType.text k.ref

def keyOf (s : Snapshot) : Key := ⟨s.repo, s.refType, s.ref⟩

/-- The snapshot of a key. -/
def look (store : Store) (k : Key) : Result (Option Snapshot) :=
  store.load k.repo k.refType.text k.ref

theorem folder_keyOf (s : Snapshot) : (keyOf s).folder = folderOf s := rfl

theorem keyOf_readBack (s : Snapshot) : keyOf (readBack s) = keyOf s := by
  rw [keyOf, readBack, keyOf]

theorem Shelved.look_fits {t : FileTree} {held : Contents} (h : Shelved t held) {k : Key}
    (hrepo : isRepoName k.repo = true) (hfits : Fits k.folder) :
    look ⟨t⟩ k = .ok ((held k.repo k.folder).map readBack) :=
  h.load_fits hrepo hfits

theorem Shelved.look_long {t : FileTree} {held : Contents} (h : Shelved t held) {k : Key}
    (hlong : ¬ Fits k.folder) (found : Snapshot) : look ⟨t⟩ k ≠ .ok (some found) := by
  cases hrepo : isRepoName k.repo with
  | false =>
    rw [look, load_refused _ _ hrepo]
    simp
  | true =>
    rw [look, h.load_long hrepo hlong]
    split <;> simp

/-- Keys with the same folder are not told apart. -/
theorem look_congr {k other : Key} (store : Store) (hrepo : k.repo = other.repo)
    (hfolder : k.folder = other.folder) : store.look k = store.look other := by
  obtain ⟨htype, href⟩ := folderName_inj.1 hfolder
  rw [look, look, hrepo, htype, load_congr store href]

/-! ### Entries -/

/-- The snapshots in the folders of a repository, in the order in which these were made. -/
def shelf (t : FileTree) (held : Contents) (repo : String) : List Snapshot :=
  (t.children [repo]).filterMap (held repo)

/-- Later snapshots first. -/
def latestFirst (ss : List Snapshot) : List Snapshot :=
  ss.mergeSort (fun a b => decide (b.capturedAt.reread.instant ≤ a.capturedAt.reread.instant))

section Entries

variable {t : FileTree} {held : Contents} {repo folder : String} {s : Snapshot}

theorem Shelved.mem_shelf (h : Shelved t held) :
    s ∈ shelf t held repo ↔ ∃ folder, held repo folder = some s := by
  rw [shelf, List.mem_filterMap]
  constructor
  · rintro ⟨folder, -, hheld⟩
    exact ⟨folder, hheld⟩
  · rintro ⟨folder, hheld⟩
    refine ⟨folder, FileTree.mem_children.2 ?_, hheld⟩
    rw [List.singleton_append, (h.occupied _ _ _ hheld).1]
    rfl

theorem Shelved.held_of_mem_shelf (h : Shelved t held) (hs : s ∈ shelf t held repo) :
    held repo (folderOf s) = some s := by
  obtain ⟨folder, hheld⟩ := h.mem_shelf.1 hs
  rwa [(h.shelves _ _ _ hheld).named]

/-- No two snapshots on a shelf have the same folder. -/
theorem Shelved.nodup_shelf (h : Shelved t held) (repo : String) :
    ((shelf t held repo).map folderOf).Nodup := by
  have hnames : ∀ folders : List String, folders.Nodup →
      ((folders.filterMap (held repo)).map folderOf).Nodup := by
    intro folders hnodup
    induction folders with
    | nil => exact List.nodup_nil
    | cons folder rest ih =>
      obtain ⟨hnew, hrest⟩ := List.nodup_cons.1 hnodup
      cases hheld : held repo folder with
      | none =>
        rw [List.filterMap_cons_none hheld]
        exact ih hrest
      | some s =>
        rw [List.filterMap_cons_some hheld, List.map_cons, List.nodup_cons]
        refine ⟨?_, ih hrest⟩
        intro hmem
        obtain ⟨other, hother, hsame⟩ := List.mem_map.1 hmem
        obtain ⟨place, hplace, hin⟩ := List.mem_filterMap.1 hother
        rw [(h.shelves _ _ _ hin).named, (h.shelves _ _ _ hheld).named] at hsame
        exact hnew (hsame ▸ hplace)
  exact hnames _ (FileTree.nodup_children h.distinct [repo])

theorem entryOf_capturedAt (s : Snapshot) : (entryOf s).capturedAt = s.capturedAt.reread := by
  rw [entryOf]

theorem newestFirst_map_entryOf (ss : List Snapshot) :
    newestFirst (ss.map entryOf) = (latestFirst ss).map entryOf := by
  have hsame : ∀ a ∈ ss, ∀ b ∈ ss,
      decide (b.capturedAt.reread.instant ≤ a.capturedAt.reread.instant) =
        decide ((entryOf b).capturedAt.instant ≤ (entryOf a).capturedAt.instant) := by
    intro a _ b _
    rw [entryOf_capturedAt, entryOf_capturedAt]
  have hmap := List.map_mergeSort (f := entryOf)
    (r := fun a b : Snapshot =>
      decide (b.capturedAt.reread.instant ≤ a.capturedAt.reread.instant))
    (s := fun a b : Entry => decide (b.capturedAt.instant ≤ a.capturedAt.instant)) hsame
  exact hmap.symm

theorem Entry.ofManifest?_manifestOf (htime : s.capturedAt.Readable) :
    Entry.ofManifest? (manifestOf s) = .ok (some (entryOf s)) := by
  simp [Entry.ofManifest?, manifestOf, OrderedMap.lookup, htime.once, entryOf]

theorem Lies.entryAt_eq (h : Lies t s) :
    entryAt t [s.repo, folderOf s, manifestName] = .ok (some (entryOf s)) := by
  obtain ⟨hread, hdecode⟩ := decode?_textOf (isSpelt_manifestOf h.storable.sha)
  rw [entryAt, h.occupied.2, fileOf, if_pos rfl, fileWith]
  simp only [hread, hdecode, Entry.ofManifest?_manifestOf h.storable.time]

theorem Shelved.entryAt_eq (h : Shelved t held) (repo folder : String) :
    entryAt t [repo, folder, manifestName] = .ok ((held repo folder).map entryOf) := by
  cases hheld : held repo folder with
  | none =>
    have hnone : t.find? [repo, folder, manifestName] = none := by
      rcases h.vacant _ _ hheld with ⟨-, hnone⟩ | ⟨-, hnone⟩
      · exact hnone manifestName
      · exact hnone
    rw [entryAt, hnone]
    rfl
  | some s =>
    obtain ⟨-, rfl, rfl, -⟩ := h.shelves _ _ _ hheld
    exact (h.lies hheld).entryAt_eq

/-- The entries of a repository are those of its snapshots, later ones first. -/
theorem Shelved.entries_eq (h : Shelved t held) (hrepo : isRepoName repo = true) :
    entries ⟨t⟩ repo = .ok ((latestFirst (shelf t held repo)).map entryOf) := by
  have hfound : ∀ folders : List String, folders.mapM
      (fun name => entryAt t [repo, name, manifestName]) =
        .ok (folders.map (fun folder => (held repo folder).map entryOf)) := by
    intro folders
    induction folders with
    | nil => rfl
    | cons folder rest ih =>
      rw [List.mapM_cons, h.entryAt_eq, ih]
      rfl
  have hfilter : ∀ folders : List String,
      (folders.map (fun folder => (held repo folder).map entryOf)).filterMap id =
        (folders.filterMap (held repo)).map entryOf := by
    intro folders
    rw [List.filterMap_map, List.map_filterMap]
    rfl
  unfold entries
  rcases h.top repo with htop | htop
  · have hempty : shelf t held repo = [] :=
      List.filterMap_eq_nil_iff.2 fun folder _ => h.held_of_bare htop folder
    have hnone : latestFirst [] = [] := List.mergeSort_nil
    simp only [checkRepoName, hrepo, if_true, htop, hempty, hnone, List.map_nil, bind, Except.bind,
      pure, Except.pure]
  · simp only [checkRepoName, hrepo, if_true, htop, hfound, hfilter, bind, Except.bind, pure,
      Except.pure]
    exact congrArg Except.ok (newestFirst_map_entryOf _)

theorem entries_refused (store : Store) (hrepo : isRepoName repo = false) :
    store.entries repo = .error (.repositoryName repo) := by
  unfold entries
  rw [checkRepoName, hrepo]
  rfl

theorem mem_latestFirst {ss : List Snapshot} : s ∈ latestFirst ss ↔ s ∈ ss :=
  List.mem_mergeSort

theorem latestFirst_perm (ss : List Snapshot) : (latestFirst ss).Perm ss :=
  List.mergeSort_perm ss _

theorem latestFirst_sorted (ss : List Snapshot) : (latestFirst ss).Pairwise (fun a b =>
    b.capturedAt.reread.instant ≤ a.capturedAt.reread.instant) := by
  -- descending times are ascending keys in the dual order
  have hlater : ∀ a b : Snapshot,
      decide (b.capturedAt.reread.instant ≤ a.capturedAt.reread.instant) = true ↔
        OrderDual.toDual a.capturedAt.reread.instant ≤
          OrderDual.toDual b.capturedAt.reread.instant :=
    fun _ _ => decide_eq_true_iff
  exact pairwise_mergeSort_key hlater ss

end Entries

end Store

end RepoAtlas
