import RepoAtlas.Proofs.Store.Removing

/-!
Which snapshots a save leaves alone. Refs are squeezed into folder names, and two refs that differ
only in characters that a folder's name cannot hold come to lie in the same folder: the later save
takes the place of the earlier one. A ref whose folder's name has no underscore is safe.
-/
namespace RepoAtlas

namespace Store

/-- The stores that an empty one becomes by saving, deleting and pruning, with the changes that
fail on the way. -/
inductive Reached : Store → Prop
  | empty : Reached {}
  | save {store : Store} (s : Snapshot) : Reached store → Plain s → s.capturedAt.IsMoment →
      Reached ((save s).run store).2
  | deleteRef {store : Store} (repo ref : String) : Reached store →
      Reached ((deleteRef repo ref).run store).2
  | deleteRepo {store : Store} (repo : String) : Reached store →
      Reached ((deleteRepo repo).run store).2
  | prune {store : Store} (repo : String) (keep : Int) : Reached store →
      Reached ((prune repo keep).run store).2

section Reached

variable {t : FileTree} {held : Contents} {s : Snapshot} {result : Result Bool × Store}

theorem Saved.shelved (h : Shelved t held) (hsaved : Saved t held s result) :
    ∃ held', Shelved result.2.tree held' := by
  cases hsaved with
  | refused hrepo => exact ⟨held, h⟩
  | long next hrepo hlong hnext => exact ⟨held, hnext⟩
  | kept old hrepo hfits hold hlt => exact ⟨held, h⟩
  | failed fault next hrepo hfits hstorable hnext => exact ⟨_, hnext⟩
  | stored next hstorable hfits hnot hnext => exact ⟨_, hnext⟩

/-- Every store that can be reached is a tree of snapshots. -/
theorem Reached.shelved {store : Store} (h : Reached store) :
    ∃ held, Shelved store.tree held := by
  induction h with
  | empty => exact ⟨_, shelved_empty⟩
  | save s _ hs htime ih =>
    obtain ⟨held, hshelved⟩ := ih
    exact (hshelved.save_saved hs htime.readable).shelved hshelved
  | deleteRef repo ref _ ih =>
    obtain ⟨held, hshelved⟩ := ih
    cases hrepo : isRepoName repo with
    | false =>
      rw [deleteRef_refused _ ref hrepo]
      exact ⟨held, hshelved⟩
    | true =>
      obtain ⟨next, left, hrun, hnext, -⟩ := hshelved.run_deleteRef hrepo ref
      rw [hrun]
      exact ⟨left, hnext⟩
  | deleteRepo repo _ ih =>
    obtain ⟨held, hshelved⟩ := ih
    cases hrepo : isRepoName repo with
    | false =>
      rw [deleteRepo_refused _ hrepo]
      exact ⟨held, hshelved⟩
    | true =>
      obtain ⟨next, left, hrun, hnext, -⟩ := hshelved.run_deleteRepo hrepo
      rw [hrun]
      exact ⟨left, hnext⟩
  | prune repo keep _ ih =>
    obtain ⟨held, hshelved⟩ := ih
    cases hrepo : isRepoName repo with
    | false =>
      rw [prune_refused _ keep hrepo]
      exact ⟨held, hshelved⟩
    | true =>
      obtain ⟨next, left, hrun, hnext, -⟩ := hshelved.run_prune hrepo keep
      rw [hrun]
      exact ⟨left, hnext⟩

/-! ### Other folders -/

/-- A key of another folder finds what it found before. -/
theorem Saved.look_apart {k : Key} (h : Shelved t held) (hsaved : Saved t held s result)
    (hfits : Fits k.folder) (hapart : ¬ (k.repo = s.repo ∧ k.folder = folderOf s)) :
    look result.2 k = look ⟨t⟩ k := by
  cases hrepo : isRepoName k.repo with
  | false => rw [look, look, load_refused _ _ hrepo, load_refused _ _ hrepo]
  | true =>
    have hbefore := h.look_fits hrepo hfits
    cases hsaved with
    | refused hrefused => rfl
    | long next hvalid hlong hnext => rw [hbefore, hnext.look_fits hrepo hfits]
    | kept old hvalid hroom hold hlt => rfl
    | failed fault next hvalid hroom hstorable hnext =>
      rw [hbefore, hnext.look_fits hrepo hfits, Contents.set_other none hapart]
    | stored next hstorable hroom hnot hnext =>
      rw [hbefore, hnext.look_fits hrepo hfits, Contents.set_other (some s) hapart]

/-- After a save that succeeds, the snapshot's own key finds it. -/
theorem Saved.look_self (hsaved : Saved t held s result) (hok : result.1 = .ok true) :
    look result.2 (keyOf s) = .ok (some (readBack s)) := by
  cases hsaved with
  | refused hrefused => cases hok
  | long next hvalid hlong hnext => cases hok
  | kept old hvalid hroom hold hlt => cases hok
  | failed fault next hvalid hroom hstorable hnext => cases hok
  | stored next hstorable hroom hnot hnext =>
    have hlook := hnext.look_fits (k := keyOf s) hstorable.repo hroom
    have hheld : held.set s.repo (folderOf s) (some s) (keyOf s).repo (keyOf s).folder = some s :=
      Contents.set_self held s.repo (folderOf s) (some s)
    rwa [hheld, Option.map_some] at hlook

theorem Saved.others_alone_iff (h : Shelved t held) (hsaved : Saved t held s result) :
    (∀ k, k ≠ keyOf s → Fits k.folder → look result.2 k = look ⟨t⟩ k) ↔
      '_' ∉ (safeRef s.ref).toList ∨ ¬ Fits (folderOf s) ∨
        look result.2 (keyOf s) = look ⟨t⟩ (keyOf s) := by
  constructor
  · intro hothers
    by_contra hnot
    rw [not_or, not_or, not_not, not_not] at hnot
    obtain ⟨hunder, hfits, hchanged⟩ := hnot
    obtain ⟨other, hne, hsame⟩ := exists_rival_ref hunder
    have hkey : (⟨s.repo, s.refType, other⟩ : Key) ≠ keyOf s := by
      intro heq
      exact hne (congrArg Key.ref heq)
    have hfolder : (⟨s.repo, s.refType, other⟩ : Key).folder = (keyOf s).folder :=
      folderName_inj.2 ⟨rfl, hsame⟩
    have hrepo : (⟨s.repo, s.refType, other⟩ : Key).repo = (keyOf s).repo := rfl
    have hrival := hothers _ hkey (by rwa [hfolder])
    rw [look_congr result.2 hrepo hfolder, look_congr ⟨t⟩ hrepo hfolder] at hrival
    exact hchanged hrival
  · intro halone k hkey hfits
    by_cases hplace : k.repo = s.repo ∧ k.folder = folderOf s
    · obtain ⟨hrepo, hfolder⟩ := hplace
      obtain ⟨htype, href⟩ := folderName_inj.1 hfolder
      rcases halone with hunder | hlong | hsame
      · refine absurd ?_ hkey
        have hr := eq_of_safeRef_eq hunder href
        cases k
        simp only [keyOf, Key.mk.injEq]
        exact ⟨hrepo, htype, hr⟩
      · rw [hfolder] at hfits
        exact absurd hfits hlong
      · have hfolder' : k.folder = (keyOf s).folder := hfolder
        have hrepo' : k.repo = (keyOf s).repo := hrepo
        rw [look_congr result.2 hrepo' hfolder', look_congr ⟨t⟩ hrepo' hfolder', hsame]
    · exact hsaved.look_apart h hfits hplace

end Reached

/-- A save that succeeds is found under its own key. It leaves every other key alone exactly if
no other ref has the same folder, which an underscore in the folder's name tells, or if nothing
changes in the folder. A key whose folder's name is too long finds nothing anyway. -/
theorem save_leaves_others_iff {store : Store} (hreached : Reached store) {s : Snapshot}
    (hs : Plain s) (htime : s.capturedAt.IsMoment) :
    (((save s).run store).1 = .ok true →
      ∃ loaded, look ((save s).run store).2 (keyOf s) = .ok (some loaded) ∧
        keyOf loaded = keyOf s) ∧
    ((∀ k, k ≠ keyOf s → Fits k.folder → look ((save s).run store).2 k = look store k) ↔
      '_' ∉ (safeRef s.ref).toList ∨ ¬ Fits (keyOf s).folder ∨
        look ((save s).run store).2 (keyOf s) = look store (keyOf s)) ∧
    ∀ k, ¬ Fits k.folder → ∀ found, look ((save s).run store).2 k ≠ .ok (some found) := by
  obtain ⟨held, hshelved⟩ := hreached.shelved
  have hsaved := hshelved.save_saved hs htime.readable
  obtain ⟨held', hafter⟩ := hsaved.shelved hshelved
  refine ⟨?_, hsaved.others_alone_iff hshelved, ?_⟩
  · intro hok
    exact ⟨readBack s, hsaved.look_self hok, keyOf_readBack s⟩
  · intro k hlong found
    exact hafter.look_long hlong found

theorem save_leaves_others_iff_plain_ref :
    Reached {} ∧ Plain (capture "main" 0) ∧ (capture "main" 0).capturedAt.IsMoment ∧
      ∀ k, k ≠ keyOf (capture "main" 0) → Fits k.folder →
        look ((save (capture "main" 0)).run {}).2 k = look {} k :=
  ⟨.empty, (storable_capture "main" 0).plain, isMoment_capture "main" 0,
    (save_leaves_others_iff .empty (storable_capture "main" 0).plain
      (isMoment_capture "main" 0)).2.1.2 (Or.inl (by decide))⟩

/-- The folder of one branch is taken by another one. -/
theorem save_takes_folder :
    Reached ((save (capture "a/b" 0)).run {}).2 ∧
      look ((save (capture "a/b" 0)).run {}).2 (keyOf (capture "a/b" 0)) =
        .ok (some (readBack (capture "a/b" 0))) ∧
      keyOf (capture "a/b" 0) ≠ keyOf (capture "a_b" 1) ∧
      look ((save (capture "a_b" 1)).run ((save (capture "a/b" 0)).run {}).2).2
        (keyOf (capture "a/b" 0)) = .ok (some (readBack (capture "a_b" 1))) := by
  have hone := storable_capture "a/b" 0
  have htwo := storable_capture "a_b" 1
  have hsame : folderOf (capture "a/b" 0) = folderOf (capture "a_b" 1) := by decide
  obtain ⟨next, hfirst, hnext⟩ := shelved_empty.save_stored hone (by decide)
    (fun _ hold => by cases hold)
  have hlater : ∀ old, Contents.set (fun _ _ => none) (capture "a/b" 0).repo
      (folderOf (capture "a/b" 0)) (some (capture "a/b" 0)) (capture "a_b" 1).repo
        (folderOf (capture "a_b" 1)) = some old →
      ¬ (capture "a_b" 1).capturedAt.instant < old.capturedAt.reread.instant := by
    intro old hold
    rw [← hsame] at hold
    have hself := Contents.set_self (fun _ _ => none) (capture "a/b" 0).repo
      (folderOf (capture "a/b" 0)) (some (capture "a/b" 0))
    obtain rfl := Option.some.inj (hself.symm.trans hold)
    rw [(isMoment_capture "a/b" 0).reread_eq]
    decide
  obtain ⟨last, hsecond, hlast⟩ := hnext.save_stored htwo (by decide) hlater
  have hreached := Reached.save (capture "a/b" 0) .empty hone.plain (isMoment_capture "a/b" 0)
  have hbefore := (shelved_empty.save_saved hone.plain hone.time).look_self
    (by rw [show (⟨{}⟩ : Store) = {} from rfl, hfirst])
  have hafter := (hnext.save_saved htwo.plain htwo.time).look_self (by rw [hsecond])
  refine ⟨hreached, hbefore, by decide, ?_⟩
  rw [hfirst, ← hafter]
  exact look_congr _ rfl hsame

end Store

end RepoAtlas
