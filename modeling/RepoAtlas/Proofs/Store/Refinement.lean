import RepoAtlas.Proofs.Store.Ledger

/-!
Every step of a store is the step of its ledger: a store that goes through any number of changes
shows a map in which the last capture wins.
-/
namespace RepoAtlas

namespace Store

/-- The ledger has what lies in the folders, under the keys of the snapshots. -/
structure Keeps (known : Key → Prop) (held : Contents) (ledger : Ledger) : Prop where
  same : ∀ k s, ledger k = some s ↔ held k.repo k.folder = some s ∧ keyOf s = k
  admissible : ∀ repo folder s, held repo folder = some s → Admissible known s

section Keeps

variable {known : Key → Prop} {t : FileTree} {held left : Contents} {ledger : Ledger}
  {repo ref : String} {s : Snapshot}

theorem keeps_empty : Keeps known (fun _ _ => none) (fun _ => none) where
  same := fun k s => by simp
  admissible := fun _ _ _ h => by cases h

theorem Keeps.keyOf_eq (h : Keeps known held ledger) {k : Key} (hs : ledger k = some s) :
    keyOf s = k :=
  ((h.same k s).1 hs).2

/-- What lies in a folder stands under its own key. -/
theorem Keeps.ledger_keyOf (h : Keeps known held ledger) (hshelved : Shelved t held)
    {folder : String} (hheld : held repo folder = some s) : ledger (keyOf s) = some s := by
  have hplace := hshelved.shelves _ _ _ hheld
  rw [h.same, folder_keyOf, hplace.named]
  refine ⟨?_, rfl⟩
  show held s.repo folder = some s
  rw [hplace.repo, hheld]

/-- In the folder of a key that is in use lies a snapshot with that key or none. -/
theorem Keeps.keyOf_of_folder (h : Keeps known held ledger) (hshelved : Shelved t held)
    (hseparate : Separate known) {k : Key} (hk : known k)
    (hheld : held k.repo k.folder = some s) : keyOf s = k := by
  have hplace := hshelved.shelves _ _ _ hheld
  have hs := h.admissible _ _ _ hheld
  obtain ⟨htype, href⟩ := folderName_inj.1 hplace.named
  have hsame := hseparate _ _ hs.known hk hplace.repo htype href
  cases k
  simp only [keyOf, Key.mk.injEq]
  exact ⟨hplace.repo, htype, hsame⟩

/-! ### What is shown -/

theorem Keeps.lists_shelf (h : Keeps known held ledger) (hshelved : Shelved t held)
    (repo : String) : ledger.Lists repo (latestFirst (shelf t held repo)) where
  nodup := by
    rw [(latestFirst_perm _).nodup_iff]
    exact List.Nodup.of_map _ (hshelved.nodup_shelf repo)
  mem := by
    intro s
    rw [mem_latestFirst, hshelved.mem_shelf]
    constructor
    · rintro ⟨folder, hheld⟩
      exact ⟨keyOf s, (hshelved.shelves _ _ _ hheld).repo, h.ledger_keyOf hshelved hheld⟩
    · rintro ⟨k, rfl, hs⟩
      exact ⟨k.folder, ((h.same k s).1 hs).1⟩

theorem Keeps.reread_of_mem (h : Keeps known held ledger) (hshelved : Shelved t held)
    (hs : s ∈ latestFirst (shelf t held repo)) : s.capturedAt.reread = s.capturedAt ∧
      entryOf s = listedAs s := by
  have hadmissible := h.admissible _ _ _ (hshelved.held_of_mem_shelf (mem_latestFirst.1 hs))
  exact ⟨hadmissible.reread, hadmissible.listedAs⟩

theorem Keeps.sorted_shelf (h : Keeps known held ledger) (hshelved : Shelved t held)
    (repo : String) : (latestFirst (shelf t held repo)).Pairwise
      (fun a b => b.capturedAt.instant ≤ a.capturedAt.instant) := by
  refine (latestFirst_sorted _).imp_of_mem ?_
  intro a b ha hb hle
  rwa [(h.reread_of_mem hshelved ha).1, (h.reread_of_mem hshelved hb).1] at hle

/-- The store shows its ledger. -/
theorem Keeps.shows (h : Keeps known held ledger) (hshelved : Shelved t held)
    (hseparate : Separate known) : Shows known ⟨t⟩ ledger where
  keys := fun k s hs => h.keyOf_eq hs
  found := by
    intro k s _ hs
    obtain ⟨hheld, -⟩ := (h.same k s).1 hs
    have hplace := hshelved.shelves _ _ _ hheld
    have hrepo : isRepoName k.repo = true := by
      rw [← hplace.repo]
      exact hplace.storable.repo
    refine ⟨readBack s, ?_, (h.admissible _ _ _ hheld).readBack⟩
    rw [hshelved.look_fits hrepo hplace.fits, hheld, Option.map_some]
  missing := by
    intro k hk hrepo hfits hnone
    have hheld : held k.repo k.folder = none := by
      rw [Option.eq_none_iff_forall_ne_some]
      intro s hs
      have hsome := (h.same k s).2 ⟨hs, h.keyOf_of_folder hshelved hseparate hk hs⟩
      rw [hnone] at hsome
      cases hsome
    rw [hshelved.look_fits hrepo hfits, hheld, Option.map_none]
  long := by
    intro k _ hrepo hlong
    constructor
    · rw [Option.eq_none_iff_forall_ne_some]
      intro s hs
      exact hlong (hshelved.shelves _ _ _ ((h.same k s).1 hs).1).fits
    · rw [look, hshelved.load_long hrepo hlong]
      by_cases htop : t.find? [k.repo] = none
      · exact Or.inl (if_pos htop)
      · exact Or.inr (if_neg htop)
  listed := by
    intro repo hrepo
    refine ⟨latestFirst (shelf t held repo), h.lists_shelf hshelved repo,
      h.sorted_shelf hshelved repo, ?_⟩
    rw [hshelved.entries_eq hrepo]
    exact congrArg Except.ok (List.map_congr_left (fun s hs => (h.reread_of_mem hshelved hs).2))

/-! ### Steps -/

theorem Keeps.put (h : Keeps known held ledger) (hshelved : Shelved t held)
    (hseparate : Separate known) (hs : Admissible known s) :
    Keeps known (held.set s.repo (folderOf s) (some s)) (ledger.put s) where
  same := by
    intro k other
    rw [Ledger.put]
    by_cases hkey : k = keyOf s
    · subst hkey
      rw [if_pos rfl]
      have hself : held.set s.repo (folderOf s) (some s) (keyOf s).repo (keyOf s).folder = some s :=
        Contents.set_self held s.repo (folderOf s) (some s)
      rw [hself]
      constructor
      · intro heq
        exact ⟨heq, by rw [Option.some.inj heq]⟩
      · exact And.left
    · rw [if_neg hkey]
      by_cases hplace : k.repo = s.repo ∧ k.folder = folderOf s
      · obtain ⟨hrepo, hfolder⟩ := hplace
        rw [hrepo, hfolder, Contents.set_self]
        constructor
        · intro hother
          obtain ⟨hheld, hsame⟩ := (h.same k other).1 hother
          rw [hrepo, hfolder] at hheld
          exact absurd (hsame.symm.trans
            (h.keyOf_of_folder hshelved hseparate hs.known hheld)) hkey
        · rintro ⟨heq, hsame⟩
          rw [Option.some.inj heq] at hkey
          exact absurd hsame.symm hkey
      · rw [Contents.set_other _ hplace, h.same]
  admissible := by
    intro r f other hheld
    by_cases hplace : r = s.repo ∧ f = folderOf s
    · obtain ⟨rfl, rfl⟩ := hplace
      rw [Contents.set_self] at hheld
      rwa [← Option.some.inj hheld]
    · rw [Contents.set_other _ hplace] at hheld
      exact h.admissible r f other hheld

/-- Taking snapshots away from the folders takes their keys out of the ledger. -/
theorem Keeps.drop {gone : Snapshot → Prop} {keys : Key → Bool} (h : Keeps known held ledger)
    (hleft : held.Without gone left)
    (hgone : ∀ r f s, held r f = some s → (keys (keyOf s) = true ↔ gone s)) :
    Keeps known left (ledger.drop keys) where
  same := by
    intro k s
    rw [Ledger.drop, hleft]
    by_cases hk : keys k = true
    · rw [if_pos hk]
      constructor
      · intro hnone
        cases hnone
      · rintro ⟨⟨hheld, hnot⟩, hsame⟩
        rw [← hsame] at hk
        exact absurd ((hgone _ _ _ hheld).1 hk) hnot
    · rw [if_neg hk, h.same]
      constructor
      · rintro ⟨hheld, hsame⟩
        refine ⟨⟨hheld, ?_⟩, hsame⟩
        intro hg
        rw [← hsame] at hk
        exact hk ((hgone _ _ _ hheld).2 hg)
      · rintro ⟨⟨hheld, -⟩, hsame⟩
        exact ⟨hheld, hsame⟩
  admissible := by
    intro r f s hs
    exact h.admissible r f s ((hleft r f s).1 hs).1

theorem Keeps.save_step (h : Keeps known held ledger) (hshelved : Shelved t held)
    (hseparate : Separate known) (hs : Admissible known s) :
    ∃ held' after, Posts ledger (.save s) (Step.run ⟨t⟩ (.save s)).1 after ∧
      Shelved (Step.run ⟨t⟩ (.save s)).2.tree held' ∧ Keeps known held' after := by
  have hold : ∀ old, held s.repo (folderOf s) = some old →
      ledger (keyOf s) = some old ∧ old.capturedAt.reread = old.capturedAt := by
    intro old hheld
    have hsame := h.keyOf_of_folder (k := keyOf s) hshelved hseparate hs.known hheld
    exact ⟨(h.same _ _).2 ⟨hheld, hsame⟩, (h.admissible _ _ _ hheld).reread⟩
  have hsaved := hshelved.save_saved hs.storable.plain hs.storable.time
  rw [Step.run]
  generalize (Store.save s).run ⟨t⟩ = result at hsaved
  cases hsaved with
  | refused hrepo =>
    rw [hs.repo] at hrepo
    cases hrepo
  | long next hrepo hlong hnext => exact ⟨held, ledger, .tooLong s hlong, hnext, h⟩
  | kept old hrepo hfits hheld hlt =>
    obtain ⟨hledger, htime⟩ := hold old hheld
    rw [htime] at hlt
    exact ⟨held, ledger, .kept s old hfits hledger hlt, hshelved, h⟩
  | failed fault next hrepo hfits hstorable hnext => exact absurd hs.storable hstorable
  | stored next hstorable hfits hnot hnext =>
    refine ⟨_, ledger.put s, .put s hfits ?_, hnext, h.put hshelved hseparate hs⟩
    intro old hledger hlt
    obtain ⟨hheld, -⟩ := (h.same _ _).1 hledger
    refine hnot old hheld ?_
    rwa [(hold old hheld).2]

theorem careful_of_saved {result : Result Bool × Store} (hsaved : Saved t held s result)
    (hfalse : result.1 = .ok false) : result.2 = ⟨t⟩ := by
  cases hsaved with
  | refused hrepo => rfl
  | long next hrepo hlong hnext => cases hfalse
  | kept old hrepo hfits hheld hlt => rfl
  | failed fault next hrepo hfits hstorable hnext => cases hfalse
  | stored next hstorable hfits hnot hnext => cases hfalse

theorem Shelved.careful (h : Shelved t held) {step : Step} (hstep : step.Allowed known) :
    step.Careful ⟨t⟩ := by
  rintro s rfl hfalse
  have hs : Admissible known s := hstep
  rw [Step.run] at hfalse ⊢
  refine careful_of_saved (h.save_saved hs.storable.plain hs.storable.time) ?_
  generalize ((Store.save s).run ⟨t⟩).1 = answer at hfalse
  cases answer with
  | error fault => cases hfalse
  | ok b =>
    cases hfalse
    rfl

theorem Keeps.deleteRef_step (h : Keeps known held ledger) (hshelved : Shelved t held)
    (hrepo : isRepoName repo = true) (ref : String) :
    ∃ held' after,
      Posts ledger (.deleteRef repo ref) (Step.run ⟨t⟩ (.deleteRef repo ref)).1 after ∧
      Shelved (Step.run ⟨t⟩ (.deleteRef repo ref)).2.tree held' ∧ Keeps known held' after := by
  obtain ⟨next, left, hrun, hnext, hleft⟩ := hshelved.run_deleteRef hrepo ref
  have hanswer : decide (∃ s ∈ shelf t held repo, s.ref = ref) =
      ((ledger ⟨repo, .branch, ref⟩).isSome || (ledger ⟨repo, .tag, ref⟩).isSome) := by
    rw [Bool.eq_iff_iff, decide_eq_true_iff, Bool.or_eq_true, Option.isSome_iff_exists,
      Option.isSome_iff_exists]
    have hshelf : ∀ s, s ∈ shelf t held repo ↔ ∃ k, k.repo = repo ∧ ledger k = some s := by
      intro s
      rw [← (h.lists_shelf hshelved repo).mem, mem_latestFirst]
    constructor
    · rintro ⟨s, hs, rfl⟩
      obtain ⟨k, rfl, hledger⟩ := (hshelf s).1 hs
      have hkey := h.keyOf_eq hledger
      subst hkey
      cases htype : s.refType with
      | branch =>
        rw [keyOf, htype] at hledger
        exact Or.inl ⟨s, hledger⟩
      | tag =>
        rw [keyOf, htype] at hledger
        exact Or.inr ⟨s, hledger⟩
    · rintro (⟨s, hledger⟩ | ⟨s, hledger⟩)
      · exact ⟨s, (hshelf s).2 ⟨_, rfl, hledger⟩, congrArg Key.ref (h.keyOf_eq hledger)⟩
      · exact ⟨s, (hshelf s).2 ⟨_, rfl, hledger⟩, congrArg Key.ref (h.keyOf_eq hledger)⟩
  rw [Step.run, hrun, hanswer]
  refine ⟨left, _, .deleted repo ref, hnext, h.drop hleft ?_⟩
  intro r f s _
  rw [Bool.and_eq_true, beq_iff_eq, beq_iff_eq]
  rfl

theorem Keeps.deleteRepo_step (h : Keeps known held ledger) (hshelved : Shelved t held)
    (hrepo : isRepoName repo = true) :
    ∃ held' after,
      Posts ledger (.deleteRepo repo) (Step.run ⟨t⟩ (.deleteRepo repo)).1 after ∧
      Shelved (Step.run ⟨t⟩ (.deleteRepo repo)).2.tree held' ∧ Keeps known held' after := by
  obtain ⟨next, left, hrun, hnext, hleft⟩ := hshelved.run_deleteRepo hrepo
  rw [Step.run, hrun]
  refine ⟨left, _, .cleared repo _ ?_, hnext, h.drop hleft ?_⟩
  · rintro ⟨k, rfl, hsome⟩
    obtain ⟨s, hs⟩ := Option.isSome_iff_exists.1 hsome
    have hfolder := (hshelved.occupied _ _ _ ((h.same k s).1 hs).1).1
    rw [hshelved.top_of_folder hfolder]
    rfl
  · intro r f s _
    rw [beq_iff_eq]
    rfl

theorem Keeps.prune_step (h : Keeps known held ledger) (hshelved : Shelved t held)
    (hrepo : isRepoName repo = true) (keep : ℕ) :
    ∃ held' after,
      Posts ledger (.prune repo keep) (Step.run ⟨t⟩ (.prune repo keep)).1 after ∧
      Shelved (Step.run ⟨t⟩ (.prune repo keep)).2.tree held' ∧ Keeps known held' after := by
  obtain ⟨next, left, hrun, hnext, hleft⟩ := hshelved.run_prune hrepo keep
  have hdrop : dropInt (keep : Int) (latestFirst (shelf t held repo)) =
      (latestFirst (shelf t held repo)).drop keep := by
    rw [dropInt, if_pos (Int.natCast_nonneg keep), Int.toNat_natCast]
  rw [hdrop] at hrun hleft
  have hlists := h.lists_shelf hshelved repo
  have hsorted := h.sorted_shelf hshelved repo
  generalize hall : latestFirst (shelf t held repo) = all at hrun hleft hlists hsorted
  rw [← List.take_append_drop keep all] at hlists hsorted
  rw [Step.run, hrun]
  refine ⟨left, _, .pruned repo keep (all.take keep) (all.drop keep) hlists ?_
    (List.pairwise_append.1 hsorted).2.2, hnext, h.drop hleft ?_⟩
  · rw [List.take_append_drop, List.length_take]
  · intro r f s hheld
    rw [decide_eq_true_iff, List.mem_map]
    constructor
    · rintro ⟨other, hother, hsame⟩
      have hmem : other ∈ shelf t held repo := by
        rw [← mem_latestFirst, hall]
        exact List.mem_of_mem_drop hother
      have hone := h.ledger_keyOf hshelved (hshelved.held_of_mem_shelf hmem)
      have htwo := h.ledger_keyOf hshelved hheld
      rw [hsame, htwo] at hone
      rwa [Option.some.inj hone]
    · intro hs
      exact ⟨s, hs, rfl⟩

/-- One step of the store is one step of the ledger. -/
theorem Keeps.step (h : Keeps known held ledger) (hshelved : Shelved t held)
    (hseparate : Separate known) {step : Step} (hstep : step.Allowed known) :
    ∃ held' after, Posts ledger step (step.run ⟨t⟩).1 after ∧
      Shelved (step.run ⟨t⟩).2.tree held' ∧ Keeps known held' after := by
  cases step with
  | save s => exact h.save_step hshelved hseparate hstep
  | deleteRef repo ref => exact h.deleteRef_step hshelved hstep ref
  | deleteRepo repo => exact h.deleteRepo_step hshelved hstep
  | prune repo keep => exact h.prune_step hshelved hstep keep

theorem Keeps.follows (hseparate : Separate known) (steps : List Step)
    (hsteps : ∀ step ∈ steps, step.Allowed known) (hshelved : Shelved t held)
    (h : Keeps known held ledger) : Follows known ⟨t⟩ ledger steps := by
  induction steps generalizing t held ledger with
  | nil => exact .done (h.shows hshelved hseparate)
  | cons step rest ih =>
    obtain ⟨held', after, hposts, hnext, hkeeps⟩ :=
      h.step hshelved hseparate (hsteps step List.mem_cons_self)
    exact .next (h.shows hshelved hseparate) hposts
      (hshelved.careful (hsteps step List.mem_cons_self))
      (ih (fun s hs => hsteps s (List.mem_cons_of_mem step hs)) hnext hkeeps)

end Keeps

theorem admissible_capture {known : Key → Prop} {ref : String} {minute : Fin 60}
    (hknown : known (keyOf (capture ref minute))) : Admissible known (capture ref minute) where
  known := hknown
  repo := (storable_capture ref minute).repo
  names := (storable_capture ref minute).names
  files := (storable_capture ref minute).files
  reserved := fun _ hf => by cases hf
  payloads := fun _ hf => by cases hf
  sha := rfl
  time := (isMoment_capture ref minute).parse_isoText

theorem separate_main_dev :
    Separate (fun k => k = ⟨"shop", .branch, "main"⟩ ∨ k = ⟨"shop", .branch, "dev"⟩) := by
  rintro j k (rfl | rfl) (rfl | rfl) - - hsame
  · rfl
  · exact absurd hsame (by decide)
  · exact absurd hsame (by decide)
  · rfl

/-- A ref of three hundred letters. -/
def longRef : String := String.ofList (List.replicate 300 'x')

theorem longRef_toList : longRef.toList = List.replicate 300 'x' := String.toList_ofList

theorem not_fits_longRef : ¬ Fits (folderName RefType.branch.text longRef) := by
  have htype : RefType.branch.text.toList.length = 6 := by decide
  rw [Fits, utf8ByteSize_folderName, htype, longRef_toList, List.length_replicate]
  decide

end Store

end RepoAtlas
