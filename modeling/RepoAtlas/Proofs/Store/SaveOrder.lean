import RepoAtlas.Proofs.Store.Footprint
import RepoAtlas.Proofs.Time.IsoText

/-!
Snapshots may be saved in any order. In the end each folder holds the latest capture of those that
belong into it, so the tree tells which snapshots were saved but not when. On the way the time that
a folder records only grows.
-/
namespace RepoAtlas

namespace Store

/-! ### Runs of saves -/

/-- Saves snapshots into an empty store, one after the other; a save that fails does not keep the
next one from being made. -/
def saveAll (ss : List Snapshot) : Store :=
  ss.foldl (fun store s => ((save s).run store).2) {}

theorem saveAll_append_singleton (ss : List Snapshot) (s : Snapshot) :
    saveAll (ss ++ [s]) = ((save s).run (saveAll ss)).2 := by
  rw [saveAll, List.foldl_append]
  rfl

/-- A snapshot as it is received: its repository's name is valid, the files of its domains have
plain names, what it says is JSON, and its time was read from a text. -/
structure Received (s : Snapshot) : Prop where
  repo : isRepoName s.repo = true
  names : (s.facts.map (·.1)).Nodup
  files : ∀ f ∈ s.facts, IsName (domainFile f.1) ∧ Fits (domainFile f.1)
  payloads : ∀ f ∈ s.facts, f.2.isSpelt = true
  sha : s.sha.isSpelt = true
  time : s.capturedAt.IsRead

theorem Received.storable {s : Snapshot} (h : Received s) : Storable s where
  repo := h.repo
  names := h.names
  files := h.files
  payloads := h.payloads
  sha := h.sha
  time := h.time.readable

/-- Snapshots that share a repository, a ref type and what is left of their refs in a folder's
name. -/
def SameFolder (a b : Snapshot) : Prop :=
  a.repo = b.repo ∧ a.refType = b.refType ∧ safeRef a.ref = safeRef b.ref

theorem sameFolder_iff {a b : Snapshot} :
    SameFolder a b ↔ a.repo = b.repo ∧ folderOf a = folderOf b := by
  rw [SameFolder, folderOf, folderOf, folderName_inj]

/-- The snapshot belongs into the folder, and no later one does. -/
structure IsLatest (ss : List Snapshot) (repo folder : String) (s : Snapshot) : Prop where
  mem : s ∈ ss
  inRepo : s.repo = repo
  named : folderOf s = folder
  fits : Fits folder
  latest : ∀ other ∈ ss, other.repo = repo → folderOf other = folder →
    other.capturedAt.instant ≤ s.capturedAt.instant

/-- Captures of one folder are told apart by their times. -/
def DistinctTimes (ss : List Snapshot) : Prop :=
  ss.Pairwise (fun a b => SameFolder a b → a.capturedAt.instant ≠ b.capturedAt.instant)

theorem DistinctTimes.eq_of_instant_eq {ss : List Snapshot} (h : DistinctTimes ss) {a b : Snapshot}
    (ha : a ∈ ss) (hb : b ∈ ss) (hsame : SameFolder a b)
    (htime : a.capturedAt.instant = b.capturedAt.instant) : a = b := by
  have hsymm : Std.Symm (fun x y : Snapshot =>
      SameFolder x y → x.capturedAt.instant ≠ y.capturedAt.instant) := by
    constructor
    intro x y hxy hyx heq
    exact hxy ⟨hyx.1.symm, hyx.2.1.symm, hyx.2.2.symm⟩ heq.symm
  by_contra hne
  exact List.Pairwise.forall h ha hb hne hsame htime

theorem IsLatest.unique {ss : List Snapshot} (h : DistinctTimes ss) {repo folder : String}
    {a b : Snapshot} (ha : IsLatest ss repo folder a) (hb : IsLatest ss repo folder b) : a = b := by
  refine h.eq_of_instant_eq ha.mem hb.mem (sameFolder_iff.2 ?_) ?_
  · exact ⟨ha.inRepo.trans hb.inRepo.symm, ha.named.trans hb.named.symm⟩
  · exact le_antisymm (hb.latest a ha.mem ha.inRepo ha.named) (ha.latest b hb.mem hb.inRepo hb.named)

theorem IsLatest.perm {ss other : List Snapshot} (hperm : other.Perm ss) {repo folder : String}
    {s : Snapshot} (h : IsLatest other repo folder s) : IsLatest ss repo folder s :=
  ⟨hperm.mem_iff.1 h.mem, h.inRepo, h.named, h.fits,
    fun o ho => h.latest o (hperm.mem_iff.2 ho)⟩

/-! ### What a run leaves -/

/-- What the tree is after the snapshots were saved. -/
structure Tidy (t : FileTree) (held : Contents) (ss : List Snapshot) : Prop where
  shelved : Shelved t held
  shallow : ∀ path, 3 < path.length → t.find? path = none
  tops : ∀ repo, t.find? [repo] = some .folder ↔ ∃ s ∈ ss, s.repo = repo
  clean : ∀ repo folder, held repo folder = none →
    t.find? [repo, folder] = none ∧ ∀ name, t.find? [repo, folder, name] = none
  latest : ∀ repo folder s, held repo folder = some s → IsLatest ss repo folder s
  kept : ∀ s ∈ ss, Fits (folderOf s) → ∃ other, held s.repo (folderOf s) = some other

theorem tidy_empty : Tidy {} (fun _ _ => none) [] where
  shelved := shelved_empty
  shallow := by
    intro path hlong
    cases path with
    | nil => simp at hlong
    | cons name rest => rfl
  tops := by
    intro repo
    constructor
    · intro h
      cases h
    · rintro ⟨s, hs, -⟩
      cases hs
  clean := fun _ _ _ => ⟨rfl, fun _ => rfl⟩
  latest := fun _ _ _ h => by cases h
  kept := fun _ hs => by cases hs

section Step

variable {t next : FileTree} {held : Contents} {ss : List Snapshot} {s : Snapshot}

theorem Tidy.tops_snoc (h : Tidy t held ss) (htop : next.find? [s.repo] = some .folder)
    (hother : ∀ repo, repo ≠ s.repo → next.find? [repo] = t.find? [repo]) (repo : String) :
    next.find? [repo] = some .folder ↔ ∃ x ∈ ss ++ [s], x.repo = repo := by
  by_cases hsame : repo = s.repo
  · subst hsame
    simp [htop]
  · rw [hother repo hsame, h.tops]
    simp [Ne.symm hsame]

/-- The latest capture stays the latest if the new one belongs elsewhere or is not later. -/
theorem IsLatest.snoc {repo folder : String} {x : Snapshot} (h : IsLatest ss repo folder x)
    (hnew : s.repo = repo → folderOf s = folder →
      s.capturedAt.instant ≤ x.capturedAt.instant) : IsLatest (ss ++ [s]) repo folder x where
  mem := List.mem_append_left _ h.mem
  inRepo := h.inRepo
  named := h.named
  fits := h.fits
  latest := by
    intro other hother hrepo hfolder
    rcases List.mem_append.1 hother with hother | hother
    · exact h.latest other hother hrepo hfolder
    · obtain rfl := List.mem_singleton.1 hother
      exact hnew hrepo hfolder

/-- A snapshot without a place leaves the others as they are. -/
theorem Tidy.save_long (h : Tidy t held ss) (hs : Received s) (hlong : ¬ Fits (folderOf s)) :
    ∃ next, (save s).run ⟨t⟩ = (.error (.file .nameTooLong), ⟨next⟩) ∧
      Tidy next held (ss ++ [s]) := by
  obtain ⟨next, hrun, hnext, htop, houtside, -⟩ := h.shelved.save_long hs.repo hlong
  have hne : ∀ path : Path, 1 < path.length → path ≠ [] ∧ path ≠ [s.repo] := by
    intro path hlength
    constructor
    · rintro rfl
      simp at hlength
    · rintro rfl
      simp at hlength
  have hlonger : ∀ path : Path, 1 < path.length → next.find? path = t.find? path :=
    fun path hlength => houtside path (hne path hlength).1 (hne path hlength).2
  refine ⟨next, hrun, hnext, ?_, ?_, ?_, ?_, ?_⟩
  · intro path hpath
    rw [hlonger path (by omega), h.shallow path hpath]
  · exact h.tops_snoc htop (fun repo hrepo => houtside _ (by simp) (by simpa using hrepo))
  · intro repo folder hnone
    obtain ⟨hfolder, hbelow⟩ := h.clean repo folder hnone
    refine ⟨(hlonger _ (by simp)).trans hfolder, ?_⟩
    intro name
    exact (hlonger _ (by simp)).trans (hbelow name)
  · intro repo folder x hx
    have hlatest := h.latest repo folder x hx
    refine hlatest.snoc ?_
    intro _ hfolder
    exact absurd hlatest.fits (hfolder ▸ hlong)
  · intro x hx hfits
    rcases List.mem_append.1 hx with hx | hx
    · exact h.kept x hx hfits
    · obtain rfl := List.mem_singleton.1 hx
      exact absurd hfits hlong

/-- An older capture is refused, and nothing changes. -/
theorem Tidy.keep (h : Tidy t held ss) {old : Snapshot} (hold : held s.repo (folderOf s) = some old)
    (hlt : s.capturedAt.instant < old.capturedAt.instant) : Tidy t held (ss ++ [s]) where
  shelved := h.shelved
  shallow := h.shallow
  tops := h.tops_snoc (h.shelved.top_of_folder (h.shelved.occupied _ _ _ hold).1) (fun _ _ => rfl)
  clean := h.clean
  latest := by
    intro repo folder x hx
    refine (h.latest repo folder x hx).snoc ?_
    rintro rfl rfl
    rw [hold] at hx
    obtain rfl := Option.some.inj hx
    exact hlt.le
  kept := by
    intro x hx hfits
    rcases List.mem_append.1 hx with hx | hx
    · exact h.kept x hx hfits
    · obtain rfl := List.mem_singleton.1 hx
      exact ⟨old, hold⟩

/-- What lies in the folder is later than all the others, so a capture that is not older than it is
the latest of all. -/
theorem Tidy.isLatest_snoc (h : Tidy t held ss) (hfits : Fits (folderOf s))
    (hnot : ∀ old, held s.repo (folderOf s) = some old →
      ¬ s.capturedAt.instant < old.capturedAt.instant) :
    IsLatest (ss ++ [s]) s.repo (folderOf s) s where
  mem := List.mem_append_right _ List.mem_cons_self
  inRepo := rfl
  named := rfl
  fits := hfits
  latest := by
    intro other hother hrepo hfolder
    rcases List.mem_append.1 hother with hother | hother
    · obtain ⟨old, hold⟩ := h.kept other hother (hfolder ▸ hfits)
      rw [hrepo, hfolder] at hold
      exact ((h.latest _ _ _ hold).latest other hother hrepo hfolder).trans
        (not_lt.1 (hnot old hold))
    · rw [List.mem_singleton.1 hother]

/-- A capture that is not older takes the folder. -/
theorem Tidy.put (h : Tidy t held ss) (hbeside : Beside t next s.repo (folderOf s))
    (hnext : Shelved next (held.set s.repo (folderOf s) (some s))) (hfits : Fits (folderOf s))
    (hnot : ∀ old, held s.repo (folderOf s) = some old →
      ¬ s.capturedAt.instant < old.capturedAt.instant) :
    Tidy next (held.set s.repo (folderOf s) (some s)) (ss ++ [s]) where
  shelved := hnext
  shallow := hbeside.shallow
  tops := by
    have hself := Contents.set_self held s.repo (folderOf s) (some s)
    refine h.tops_snoc (hnext.top_of_folder (hnext.occupied _ _ _ hself).1) ?_
    intro repo hrepo
    refine hbeside.outside _ (by simpa using hrepo) ?_
    rintro ⟨tail, heq⟩
    simp at heq
  clean := by
    intro repo folder hnone
    by_cases hsame : repo = s.repo ∧ folder = folderOf s
    · obtain ⟨rfl, rfl⟩ := hsame
      rw [Contents.set_self] at hnone
      cases hnone
    · rw [Contents.set_other _ hsame] at hnone
      obtain ⟨hfolder, hbelow⟩ := h.clean repo folder hnone
      refine ⟨(hbeside.other_folder hsame []).trans hfolder, ?_⟩
      intro name
      exact (hbeside.other_folder hsame [name]).trans (hbelow name)
  latest := by
    intro repo folder x hx
    by_cases hsame : repo = s.repo ∧ folder = folderOf s
    · obtain ⟨rfl, rfl⟩ := hsame
      rw [Contents.set_self] at hx
      obtain rfl := Option.some.inj hx
      exact h.isLatest_snoc hfits hnot
    · rw [Contents.set_other _ hsame] at hx
      refine (h.latest repo folder x hx).snoc ?_
      intro hrepo hfolder
      exact absurd ⟨hrepo.symm, hfolder.symm⟩ hsame
  kept := by
    intro x hx hfit
    by_cases hsame : x.repo = s.repo ∧ folderOf x = folderOf s
    · exact ⟨s, by rw [hsame.1, hsame.2, Contents.set_self]⟩
    · rw [Contents.set_other _ hsame]
      rcases List.mem_append.1 hx with hx | hx
      · exact h.kept x hx hfit
      · obtain rfl := List.mem_singleton.1 hx
        exact absurd ⟨rfl, rfl⟩ hsame

theorem Tidy.save_fits (h : Tidy t held ss) (hall : ∀ x ∈ ss, Received x) (hs : Received s)
    (hfits : Fits (folderOf s)) :
    ∃ saved next later, (save s).run ⟨t⟩ = (.ok saved, ⟨next⟩) ∧ Tidy next later (ss ++ [s]) := by
  have hread : ∀ old, held s.repo (folderOf s) = some old →
      old.capturedAt.reread = old.capturedAt := by
    intro old hold
    exact (hall old (h.latest _ _ _ hold).mem).time.reread_eq
  have hsaved := h.shelved.save_saved hs.storable.plain hs.time.readable
  have hbeside := save_beside hs.repo (fun f hf => (hs.files f hf).1) h.shallow
  generalize (save s).run ⟨t⟩ = result at hsaved hbeside ⊢
  cases hsaved with
  | refused hrepo =>
    rw [hs.repo] at hrepo
    cases hrepo
  | long next _ hlong _ => exact absurd hfits hlong
  | kept old _ _ hold hlt =>
    rw [hread old hold] at hlt
    exact ⟨false, t, held, rfl, h.keep hold hlt⟩
  | failed fault next _ _ hstorable _ => exact absurd hs.storable hstorable
  | stored next _ _ hnot hnext =>
    refine ⟨true, next, _, rfl, h.put hbeside hnext hfits ?_⟩
    intro old hold
    have hlater := hnot old hold
    rwa [hread old hold] at hlater

/-- A save keeps the tree tidy. -/
theorem Tidy.snoc (h : Tidy t held ss) (hall : ∀ x ∈ ss, Received x) (hs : Received s) :
    ∃ later, Tidy ((save s).run ⟨t⟩).2.tree later (ss ++ [s]) := by
  by_cases hfits : Fits (folderOf s)
  · obtain ⟨saved, next, later, hrun, hnext⟩ := h.save_fits hall hs hfits
    rw [hrun]
    exact ⟨later, hnext⟩
  · obtain ⟨next, hrun, hnext⟩ := h.save_long hs hfits
    rw [hrun]
    exact ⟨held, hnext⟩

end Step

/-- Every run of saves leaves a tidy tree. -/
theorem tidy_saveAll {ss : List Snapshot} (hall : ∀ s ∈ ss, Received s) :
    ∃ held, Tidy (saveAll ss).tree held ss := by
  induction ss using List.reverseRecOn with
  | nil => exact ⟨_, tidy_empty⟩
  | append_singleton ss s ih =>
    have hbefore : ∀ x ∈ ss, Received x := fun x hx => hall x (List.mem_append_left _ hx)
    obtain ⟨held, htidy⟩ := ih hbefore
    have hs := hall s (List.mem_append_right _ List.mem_cons_self)
    obtain ⟨later, hnext⟩ := htidy.snoc hbefore hs
    refine ⟨later, ?_⟩
    rw [saveAll_append_singleton]
    exact hnext

/-- In a run of saves nothing fails but a save whose folder's name is too long. -/
theorem save_after_saveAll {ss : List Snapshot} {s : Snapshot}
    (hall : ∀ x ∈ ss ++ [s], Received x) :
    if Fits (folderOf s) then ∃ saved, ((save s).run (saveAll ss)).1 = .ok saved
    else ((save s).run (saveAll ss)).1 = .error (.file .nameTooLong) := by
  have hbefore : ∀ x ∈ ss, Received x := fun x hx => hall x (List.mem_append_left _ hx)
  have hs := hall s (List.mem_append_right _ List.mem_cons_self)
  obtain ⟨held, htidy⟩ := tidy_saveAll hbefore
  split
  next hfits =>
    obtain ⟨saved, next, later, hrun, -⟩ := htidy.save_fits hbefore hs hfits
    exact ⟨saved, congrArg Prod.fst hrun⟩
  next hlong =>
    obtain ⟨next, hrun, -⟩ := htidy.save_long hs hlong
    exact congrArg Prod.fst hrun

/-! ### The tree in the end -/

section Outcome

variable {t other : FileTree} {held rest : Contents} {ss more : List Snapshot}

theorem Tidy.held_eq_some_iff (h : Tidy t held ss) (htimes : DistinctTimes ss)
    {repo folder : String} {s : Snapshot} :
    held repo folder = some s ↔ IsLatest ss repo folder s := by
  constructor
  · exact h.latest repo folder s
  · intro hs
    obtain ⟨found, hfound⟩ := h.kept s hs.mem (hs.named ▸ hs.fits)
    rw [hs.inRepo, hs.named] at hfound
    rw [hfound, (h.latest _ _ _ hfound).unique htimes hs]

/-- The snapshots in the folders and the names of the repositories tell the whole tree. -/
theorem Tidy.find?_eq (h : Tidy t held ss) (hother : Tidy other held more)
    (hrepos : ∀ repo, (∃ s ∈ ss, s.repo = repo) ↔ ∃ s ∈ more, s.repo = repo) (path : Path) :
    t.find? path = other.find? path := by
  match path with
  | [] => rfl
  | [repo] =>
    have hsame : t.find? [repo] = some .folder ↔ other.find? [repo] = some .folder := by
      rw [h.tops, hother.tops, hrepos]
    rcases h.shelved.top repo with hnone | hsome
    · rcases hother.shelved.top repo with hnone' | hsome'
      · rw [hnone, hnone']
      · rw [hsame.2 hsome', hsome']
    · rw [hsome, hsame.1 hsome]
  | [repo, folder] =>
    cases hheld : held repo folder with
    | none => rw [(h.clean _ _ hheld).1, (hother.clean _ _ hheld).1]
    | some s => rw [(h.shelved.occupied _ _ _ hheld).1, (hother.shelved.occupied _ _ _ hheld).1]
  | [repo, folder, name] =>
    cases hheld : held repo folder with
    | none => rw [(h.clean _ _ hheld).2, (hother.clean _ _ hheld).2]
    | some s => rw [(h.shelved.occupied _ _ _ hheld).2, (hother.shelved.occupied _ _ _ hheld).2]
  | repo :: folder :: name :: next :: below =>
    have hlong : 3 < (repo :: folder :: name :: next :: below).length := by
      simp only [List.length_cons]
      omega
    rw [h.shallow _ hlong, hother.shallow _ hlong]

theorem Tidy.perm (h : Tidy t held ss) (hrest : Tidy other rest more) (hperm : more.Perm ss)
    (htimes : DistinctTimes ss) : held = rest := by
  have htimes' : DistinctTimes more := by
    refine (List.Perm.pairwise_iff ?_ hperm).2 htimes
    intro x y hxy hyx heq
    exact hxy ⟨hyx.1.symm, hyx.2.1.symm, hyx.2.2.symm⟩ heq.symm
  funext repo folder
  refine Option.ext fun s => ?_
  rw [h.held_eq_some_iff htimes, hrest.held_eq_some_iff htimes']
  exact ⟨IsLatest.perm hperm.symm, IsLatest.perm hperm⟩

/-- The store holds the latest captures, each in its folder, and nothing else: a folder has the
files of its snapshot, and a key finds the snapshot. -/
structure HoldsLatest (store : Store) (ss : List Snapshot) : Prop where
  repos : ∀ repo, store.tree.find? [repo] = some .folder ↔ ∃ s ∈ ss, s.repo = repo
  folders : ∀ repo folder,
    (store.tree.find? [repo, folder]).isSome = true ↔ ∃ s, IsLatest ss repo folder s
  files : ∀ repo folder s, IsLatest ss repo folder s →
    store.tree.find? [repo, folder] = some .folder ∧
      ∀ name, store.tree.find? [repo, folder, name] = fileOf s name
  found : ∀ repo folder s, IsLatest ss repo folder s → store.look (keyOf s) = .ok (some (readBack s))

theorem Tidy.holdsLatest (h : Tidy t held ss) (htimes : DistinctTimes ss) :
    HoldsLatest ⟨t⟩ ss where
  repos := h.tops
  folders := by
    intro repo folder
    constructor
    · intro hsome
      cases hheld : held repo folder with
      | none =>
        rw [(h.clean _ _ hheld).1] at hsome
        cases hsome
      | some s => exact ⟨s, h.latest _ _ _ hheld⟩
    · rintro ⟨s, hs⟩
      rw [(h.shelved.occupied _ _ _ ((h.held_eq_some_iff htimes).2 hs)).1]
      rfl
  files := fun _ _ _ hs => h.shelved.occupied _ _ _ ((h.held_eq_some_iff htimes).2 hs)
  found := by
    intro repo folder s hs
    have hheld := (h.held_eq_some_iff htimes).2 hs
    have hplace := h.shelved.shelves _ _ _ hheld
    have hfits : Fits (keyOf s).folder := by
      rw [folder_keyOf, hs.named]
      exact hs.fits
    rw [h.shelved.look_fits (k := keyOf s) hplace.storable.repo hfits]
    have hkey : held (keyOf s).repo (keyOf s).folder = some s := by
      rw [folder_keyOf, hs.named, ← hheld]
      exact congrFun (congrArg held hs.inRepo) folder
    rw [hkey, Option.map_some]

/-- What a folder's manifest says is the time of the snapshot in it. -/
theorem Tidy.entryAt_eq_some_iff (h : Tidy t held ss) {repo folder : String} {e : Entry} :
    entryAt t [repo, folder, manifestName] = .ok (some e) ↔
      ∃ s, held repo folder = some s ∧ entryOf s = e := by
  rw [h.shelved.entryAt_eq, Except.ok.injEq, Option.map_eq_some_iff]

/-- Where one run of saves goes on as another, each folder that records a time goes on to record
one that is not earlier. -/
theorem Tidy.entry_grows (h : Tidy t held ss) (hmore : Tidy other rest more)
    (hpre : ss <+: more) (hall : ∀ s ∈ more, Received s) {repo folder : String} {e : Entry}
    (he : entryAt t [repo, folder, manifestName] = .ok (some e)) :
    ∃ later, entryAt other [repo, folder, manifestName] = .ok (some later) ∧
      e.capturedAt.instant ≤ later.capturedAt.instant := by
  obtain ⟨old, hold, rfl⟩ := h.entryAt_eq_some_iff.1 he
  have hlatest := h.latest _ _ _ hold
  have hmem := hpre.subset hlatest.mem
  obtain ⟨new, hnew⟩ := hmore.kept old hmem (hlatest.named ▸ hlatest.fits)
  rw [hlatest.inRepo, hlatest.named] at hnew
  have hafter := hmore.latest _ _ _ hnew
  refine ⟨entryOf new, hmore.entryAt_eq_some_iff.2 ⟨new, hnew, rfl⟩, ?_⟩
  rw [entryOf_capturedAt, entryOf_capturedAt, (hall _ hmem).time.reread_eq,
    (hall _ hafter.mem).time.reread_eq]
  exact hafter.latest old hmem hlatest.inRepo hlatest.named

end Outcome

/-- A capture of the shop in the same hour, told by a clock that is two hours ahead. -/
def captureAhead (ref : String) (minute : Fin 60) : Snapshot :=
  { repo := "shop", ref,
    capturedAt := { year := 2024, month := 1, day := 1, hour := 2, minute, offset := 7200000000 } }

theorem received_capture (ref : String) (minute : Fin 60) : Received (capture ref minute) where
  repo := (storable_capture ref minute).repo
  names := List.nodup_nil
  files := fun _ hf => by cases hf
  payloads := fun _ hf => by cases hf
  sha := rfl
  time := ⟨_, (isMoment_capture ref minute).parse_isoText⟩

theorem received_captureAhead (ref : String) (minute : Fin 60) :
    Received (captureAhead ref minute) where
  repo := (storable_capture ref minute).repo
  names := List.nodup_nil
  files := fun _ hf => by cases hf
  payloads := fun _ hf => by cases hf
  sha := rfl
  time := by
    have hmoment : (captureAhead ref minute).capturedAt.IsMoment := by
      refine ⟨?_, ?_, ?_, ?_, ?_, ?_, ?_, minute.isLt, ?_, ?_, ?_⟩
      all_goals simp [captureAhead, Timestamp.daysInMonth]
    exact ⟨_, hmoment.parse_isoText⟩

end Store

end RepoAtlas
