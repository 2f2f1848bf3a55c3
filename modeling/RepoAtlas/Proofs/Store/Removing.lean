import RepoAtlas.Proofs.Store.Saving

/-!
What is left of a tree of snapshots after `deleteRef`, `deleteRepo` and `prune`. Paths are made
anew from the entries, and lead to the folders that the entries come from because each snapshot
lies in the folder that is named for it.
-/
namespace RepoAtlas

namespace Store

variable {t next : FileTree} {held left : Contents} {repo folder ref : String} {s : Snapshot}

/-- The contents without some of the snapshots. -/
def Contents.Without (held : Contents) (gone : Snapshot → Prop) (left : Contents) : Prop :=
  ∀ r f s, left r f = some s ↔ held r f = some s ∧ ¬ gone s

/-! ### Effects -/

/-- What a change does in a repository: which folders go, what is put into a new one, which one is
left without a manifest, and whether the repository is there afterwards, if that is told. -/
structure Effect where
  gone : String → Bool := fun _ => false
  put : Option Snapshot := none
  left : Option String := none
  opens : Option Bool := none

/-- Some folders go, and nothing else happens. -/
def Effect.drop (folders : List String) : Effect := { gone := folders.contains }

/-- Everything goes. -/
def Effect.clear : Effect := { gone := fun _ => true, opens := some false }

/-- The trees differ by the effect. -/
structure Turns (t : FileTree) (held : Contents) (next : FileTree) (left : Contents)
    (repo : String) (e : Effect) : Prop where
  shelved : Shelved next left
  contents : ∀ r f, left r f = if r = repo ∧ e.gone f = true then e.put else held r f
  listing : ∀ r, shelf next left r =
    if r = repo then (shelf t held r).filter (fun s => !e.gone (folderOf s)) ++ e.put.toList
    else shelf t held r
  leftover : ∀ r f, Leftover next r f ↔
    if r = repo then Leftover t r f ∧ e.gone f = false ∨ e.left = some f else Leftover t r f
  opened : ∀ r, (next.find? [r]).isSome =
    if r = repo then e.opens.getD (t.find? [r]).isSome else (t.find? [r]).isSome

theorem Shelved.turns_nothing (h : Shelved t held) (repo : String) :
    Turns t held t held repo {} where
  shelved := h
  contents := by simp
  listing := by simp
  leftover := by simp
  opened := by simp

/-- The snapshots in some of the folders. -/
theorem Shelved.filterMap_filter (h : Shelved t held) (repo : String) (p : String → Bool) :
    ((t.children [repo]).filter p).filterMap (held repo) =
      (shelf t held repo).filter (fun s => p (folderOf s)) := by
  rw [shelf, List.filterMap_filter, List.filter_filterMap]
  refine List.filterMap_congr fun folder _ => ?_
  cases hheld : held repo folder with
  | none => simp
  | some s => simp [Option.filter, (h.shelves _ _ _ hheld).named]

/-- Once some folders are gone and others are made, the shelf has what is left and what is new. -/
theorem Shelved.shelf_eq (h : Shelved t held) (gone : String → Bool) (new : List String)
    (hchildren : next.children [repo] = (t.children [repo]).filter (fun f => !gone f) ++ new)
    (hheld : ∀ f, gone f = false → left repo f = held repo f) :
    shelf next left repo =
      (shelf t held repo).filter (fun s => !gone (folderOf s)) ++
        new.filterMap (left repo) := by
  rw [← h.filterMap_filter repo (fun f => !gone f), shelf, hchildren, List.filterMap_append]
  refine congrArg (· ++ _) (List.filterMap_congr fun f hf => hheld f ?_)
  simpa using (List.mem_filter.1 hf).2

/-- Other shelves stay as they are. -/
theorem shelf_congr {r : String} (hchildren : next.children [r] = t.children [r])
    (hheld : ∀ f, left r f = held r f) : shelf next left r = shelf t held r := by
  rw [shelf, shelf, hchildren]
  exact List.filterMap_congr fun f _ => hheld f

/-- An effect that only takes away leaves the other snapshots. -/
theorem Shelved.without_of_turns (h : Shelved t held) {e : Effect}
    (hturns : Turns t held next left repo e) (hput : e.put = none) :
    held.Without (fun s => s.repo = repo ∧ e.gone (folderOf s) = true) left := by
  intro r f s
  rw [hturns.contents, hput]
  dsimp only
  constructor
  · intro hleft
    split at hleft
    · cases hleft
    next hstays =>
      have hplace := h.shelves _ _ _ hleft
      rw [hplace.repo, hplace.named]
      exact ⟨hleft, hstays⟩
  · rintro ⟨hheld, hstays⟩
    have hplace := h.shelves _ _ _ hheld
    rw [hplace.repo, hplace.named] at hstays
    rw [if_neg hstays, hheld]

theorem Contents.Without.congr {gone more : Snapshot → Prop} (h : held.Without gone left)
    (hsame : ∀ r f s, held r f = some s → (gone s ↔ more s)) : held.Without more left := by
  intro r f s
  rw [h r f s]
  constructor
  · rintro ⟨hheld, hnot⟩
    exact ⟨hheld, fun hmore => hnot ((hsame r f s hheld).2 hmore)⟩
  · rintro ⟨hheld, hnot⟩
    exact ⟨hheld, fun hgone => hnot ((hsame r f s hheld).1 hgone)⟩

/-! ### Single folders -/

theorem isName_folderOf (s : Snapshot) : IsName (folderOf s) := isName_folderName s.refType s.ref

/-- The path that is made from an entry leads to the folder of its snapshot. -/
theorem Shelved.resolve_folder (h : Shelved t held) (hheld : held repo (folderOf s) = some s) :
    t.resolve [] (folderText repo s.refType.text s.ref) = .ok [repo, folderOf s] := by
  obtain ⟨hs, rfl, -, hfits⟩ := h.shelves _ _ _ hheld
  have htop := h.top_of_folder (h.occupied _ _ _ hheld).1
  have hplain : ∀ n ∈ [s.repo, folderOf s], IsName n := by
    intro n hn
    simp only [List.mem_cons, List.not_mem_nil, or_false] at hn
    rcases hn with rfl | rfl
    · exact isName_of_isRepoName hs.repo
    · exact isName_folderOf s
  rw [folderText_joined_two, ← folderOf, FileTree.resolve_joined t hplain,
    FileTree.follow_folder (isName_of_isRepoName hs.repo) (fits_of_isRepoName hs.repo) htop,
    FileTree.follow_last (isName_folderOf s) hfits]
  rfl

/-- A folder that is taken away leaves nothing in its place. -/
theorem Shelved.erase (h : Shelved t held) (hfolder : t.find? [repo, folder] = some .folder) :
    Shelved (t.erase [repo, folder]) (held.set repo folder none) := by
  have happart : Apart t (t.erase [repo, folder]) repo folder := by
    refine ⟨h.distinct.erase _, ?_, ?_⟩
    · have hnot : ¬ [repo, folder] <+: [repo] := by
        rintro ⟨tail, heq⟩
        simp at heq
      rw [FileTree.find?_erase _ (by simp), if_neg hnot, h.top_of_folder hfolder]
    · intro path hpath hne _
      rw [FileTree.find?_erase _ hne, if_neg hpath]
  have hvacant : Vacant (t.erase [repo, folder]) repo folder := by
    refine Or.inl ⟨?_, ?_⟩
    · rw [FileTree.find?_erase _ (by simp), if_pos List.prefix_rfl]
    · intro name
      rw [FileTree.find?_erase _ (by simp), if_pos ⟨[name], rfl⟩]
  refine h.update happart (fun _ => hvacant) ?_
  intro s hfound
  cases hfound

theorem find?_erase_folder (t : FileTree) (repo folder r f : String) (below : List String) :
    (t.erase [repo, folder]).find? (r :: f :: below) =
      if r = repo ∧ f = folder then none else t.find? (r :: f :: below) := by
  have hbelow : [repo, folder] <+: r :: f :: below ↔ r = repo ∧ f = folder := by
    constructor
    · rintro ⟨tail, heq⟩
      simp only [List.cons_append, List.nil_append, List.cons.injEq] at heq
      exact ⟨heq.1.symm, heq.2.1.symm⟩
    · rintro ⟨rfl, rfl⟩
      exact ⟨below, rfl⟩
  rw [FileTree.find?_erase _ (by simp)]
  simp only [hbelow]

theorem find?_erase_above (t : FileTree) (repo folder r : String) :
    (t.erase [repo, folder]).find? [r] = t.find? [r] := by
  have hnot : ¬ [repo, folder] <+: [r] := by
    rintro ⟨tail, heq⟩
    simp at heq
  rw [FileTree.find?_erase _ (by simp), if_neg hnot]

theorem Shelved.turns_erase (h : Shelved t held) (hfolder : t.find? [repo, folder] = some .folder) :
    Turns t held (t.erase [repo, folder]) (held.set repo folder none) repo (.drop [folder]) where
  shelved := h.erase hfolder
  contents := by
    intro r f
    simp [Contents.set, Effect.drop]
  listing := by
    intro r
    have hchildren := FileTree.children_erase_two t repo folder r
    split
    next hr =>
      subst hr
      rw [if_pos rfl] at hchildren
      refine h.shelf_eq (Effect.drop [folder]).gone [] ?_ ?_
      · rw [hchildren, List.append_nil]
        refine List.filter_congr fun f _ => ?_
        simp [Effect.drop]
      · intro f hf
        refine Contents.set_other none fun hsame => ?_
        simp [Effect.drop, hsame.2] at hf
    next hr =>
      rw [if_neg hr] at hchildren
      exact shelf_congr hchildren fun f => Contents.set_other none fun hsame => hr hsame.1
  leftover := by
    intro r f
    simp only [Leftover, find?_erase_folder]
    by_cases hr : r = repo
    · by_cases hf : f = folder
      · simp [hr, hf, Effect.drop]
      · simp [hr, hf, Effect.drop]
    · simp [hr]
  opened := by
    intro r
    rw [find?_erase_above]
    simp [Effect.drop]

/-- One folder after the other. -/
theorem Turns.trans {more : List String} {folders : List String} {last : FileTree}
    {rest : Contents} (h : Turns t held next left repo (.drop folders))
    (h' : Turns next left last rest repo (.drop more)) :
    Turns t held last rest repo (.drop (folders ++ more)) where
  shelved := h'.shelved
  contents := by
    intro r f
    rw [h'.contents, h.contents]
    by_cases hr : r = repo
    · by_cases hf : f ∈ more
      · simp [hr, hf, Effect.drop]
      · simp [hr, hf, Effect.drop]
    · simp [hr]
  listing := by
    intro r
    rw [h'.listing, h.listing]
    by_cases hr : r = repo
    · simp [hr, Effect.drop, Bool.and_comm]
    · simp [hr]
  leftover := by
    intro r f
    rw [h'.leftover, h.leftover]
    by_cases hr : r = repo
    · simp [hr, Effect.drop, and_assoc]
    · simp [hr]
  opened := by
    intro r
    rw [h'.opened, h.opened]
    simp [Effect.drop]

/-- The folder of a snapshot is taken away by what its entry says. -/
theorem Shelved.run_deleteEntry (h : Shelved t held) (hheld : held repo (folderOf s) = some s) :
    (deleteEntry repo (entryOf s)).run ⟨t⟩ = (.ok (), ⟨t.erase [repo, folderOf s]⟩) := by
  have hfolder := (h.occupied _ _ _ hheld).1
  have hstep : (Change.step (fun t => do
      t.removeFolder (← t.resolve [] (folderText repo s.refType.text s.ref)))).run ⟨t⟩ =
        (.ok (), ⟨t.erase [repo, folderOf s]⟩) := by
    refine Change.run_step_ok ?_
    simp only [h.resolve_folder hheld, bind, Except.bind]
    exact FileTree.removeFolder_folder hfolder
  exact hstep

theorem Shelved.run_deleteEntries (ss : List Snapshot) (hnodup : (ss.map folderOf).Nodup)
    (h : Shelved t held) (hheld : ∀ s ∈ ss, held repo (folderOf s) = some s) :
    ∃ next left, ((ss.map entryOf).forM (deleteEntry repo)).run ⟨t⟩ = (.ok (), ⟨next⟩) ∧
      Turns t held next left repo (.drop (ss.map folderOf)) := by
  induction ss generalizing t held with
  | nil => exact ⟨t, held, rfl, h.turns_nothing repo⟩
  | cons s rest ih =>
    obtain ⟨hnew, hrest⟩ := List.nodup_cons.1 hnodup
    have hs := hheld s List.mem_cons_self
    have hfirst := h.turns_erase (h.occupied _ _ _ hs).1
    have hothers : ∀ other ∈ rest,
        held.set repo (folderOf s) none repo (folderOf other) = some other := by
      intro other hother
      have hplace : ¬ (repo = repo ∧ folderOf other = folderOf s) := by
        rintro ⟨-, hsame⟩
        exact hnew (hsame ▸ List.mem_map_of_mem hother)
      rw [Contents.set_other none hplace]
      exact hheld other (List.mem_cons_of_mem s hother)
    obtain ⟨next, left, hrun, hmore⟩ := ih hrest hfirst.shelved hothers
    refine ⟨next, left, ?_, hfirst.trans hmore⟩
    rw [List.map_cons, List.forM, Change.run_bind_ok (h.run_deleteEntry hs), hrun]

/-! ### Listed snapshots -/

theorem Shelved.run_entries (h : Shelved t held) (hrepo : isRepoName repo = true) :
    (Change.lift (Store.entries ⟨t⟩ repo)).run ⟨t⟩ =
      (.ok ((latestFirst (shelf t held repo)).map entryOf), ⟨t⟩) :=
  Change.run_lift_ok (h.entries_eq hrepo)

theorem run_entries_refused (store : Store) (hrepo : isRepoName repo = false) :
    (Change.lift (Store.entries ⟨store.tree⟩ repo)).run store =
      (.error (.repositoryName repo), store) :=
  Change.run_lift_error (entries_refused _ hrepo)

/-- Any of the listed snapshots can be taken away. -/
theorem Shelved.run_deleteListed (h : Shelved t held) (repo : String) {ss : List Snapshot}
    (hlisted : ss.Sublist (latestFirst (shelf t held repo))) :
    ∃ next left, ((ss.map entryOf).forM (deleteEntry repo)).run ⟨t⟩ = (.ok (), ⟨next⟩) ∧
      Turns t held next left repo (.drop (ss.map folderOf)) := by
  have hall := (((latestFirst_perm (shelf t held repo)).map folderOf).nodup_iff).2
    (h.nodup_shelf repo)
  refine h.run_deleteEntries ss (hall.sublist (hlisted.map folderOf)) ?_
  intro s hs
  exact h.held_of_mem_shelf (mem_latestFirst.1 (hlisted.subset hs))

/-- What is held and lies in the folder of a listed snapshot is that snapshot. -/
theorem Shelved.mem_of_folder (h : Shelved t held) {ss : List Snapshot}
    (hlisted : ss.Sublist (latestFirst (shelf t held repo))) (hheld : held repo folder = some s) :
    folderOf s ∈ ss.map folderOf ↔ s ∈ ss := by
  refine ⟨fun hmem => ?_, List.mem_map_of_mem⟩
  obtain ⟨other, hother, hsame⟩ := List.mem_map.1 hmem
  have hothers := h.held_of_mem_shelf (mem_latestFirst.1 (hlisted.subset hother))
  rw [hsame, (h.shelves _ _ _ hheld).named, hheld] at hothers
  rwa [Option.some.inj hothers]

/-! ### Refs -/

theorem filter_isFor_map_entryOf (ref : String) (ss : List Snapshot) :
    (ss.map entryOf).filter (·.isFor ref) =
      (ss.filter (fun s => s.ref == ref)).map entryOf := by
  rw [List.filter_map]
  rfl

theorem Shelved.turns_deleteRef (h : Shelved t held) (hrepo : isRepoName repo = true)
    (ref : String) :
    ∃ next left, (deleteRef repo ref).run ⟨t⟩ =
        (.ok (!((latestFirst (shelf t held repo)).filter (fun s => s.ref == ref)).isEmpty),
          ⟨next⟩) ∧
      Turns t held next left repo
        (.drop (((latestFirst (shelf t held repo)).filter (fun s => s.ref == ref)).map folderOf)) := by
  have hlisted : ((latestFirst (shelf t held repo)).filter (fun s => s.ref == ref)).Sublist
      (latestFirst (shelf t held repo)) := List.filter_sublist
  obtain ⟨next, left, hrun, hturns⟩ := h.run_deleteListed repo hlisted
  refine ⟨next, left, ?_, hturns⟩
  unfold deleteRef
  rw [Change.run_bind_ok (Change.run_get _), Change.run_bind_ok (h.run_entries hrepo),
    filter_isFor_map_entryOf, Change.run_bind_ok hrun, Change.run_pure, List.isEmpty_map]

theorem Shelved.run_deleteRef (h : Shelved t held) (hrepo : isRepoName repo = true)
    (ref : String) :
    ∃ next left, (deleteRef repo ref).run ⟨t⟩ =
        (.ok (decide (∃ s ∈ shelf t held repo, s.ref = ref)), ⟨next⟩) ∧
      Shelved next left ∧ held.Without (fun s => s.repo = repo ∧ s.ref = ref) left := by
  obtain ⟨next, left, hrun, hturns⟩ := h.turns_deleteRef hrepo ref
  have hany : (!((latestFirst (shelf t held repo)).filter (fun s => s.ref == ref)).isEmpty) =
      decide (∃ s ∈ shelf t held repo, s.ref = ref) := by
    rw [Bool.eq_iff_iff, decide_eq_true_iff, Bool.not_eq_true', List.isEmpty_eq_false_iff_exists_mem]
    simp only [List.mem_filter, mem_latestFirst, beq_iff_eq]
  rw [hany] at hrun
  refine ⟨next, left, hrun, hturns.shelved, (h.without_of_turns hturns rfl).congr ?_⟩
  intro r f s hheld
  refine and_congr_right fun hsame => ?_
  have hplace := h.shelves _ _ _ hheld
  obtain rfl : r = repo := hplace.repo.symm.trans hsame
  rw [Effect.drop, List.contains_iff_mem, h.mem_of_folder List.filter_sublist hheld,
    List.mem_filter, mem_latestFirst, beq_iff_eq]
  exact and_iff_right (h.mem_shelf.2 ⟨f, hheld⟩)

theorem deleteRef_refused (store : Store) (ref : String) (hrepo : isRepoName repo = false) :
    (deleteRef repo ref).run store = (.error (.repositoryName repo), store) := by
  unfold deleteRef
  rw [Change.run_bind_ok (Change.run_get _),
    Change.run_bind_error (run_entries_refused store hrepo)]

/-! ### Repositories -/

/-- The contents without a repository. -/
def Contents.clear (held : Contents) (repo : String) : Contents :=
  fun r f => if r = repo then none else held r f

theorem Contents.clear_self (held : Contents) (repo f : String) :
    held.clear repo repo f = none := by
  rw [clear, if_pos rfl]

theorem Contents.clear_other {r : String} (held : Contents) (hr : r ≠ repo) (f : String) :
    held.clear repo r f = held r f := by
  rw [clear, if_neg hr]

theorem find?_erase_top (t : FileTree) (repo : String) (below : List String) :
    (t.erase [repo]).find? (repo :: below) = none := by
  rw [FileTree.find?_erase _ (by simp), if_pos ⟨below, rfl⟩]

theorem find?_erase_other {r : String} (t : FileTree) (hr : r ≠ repo) (below : List String) :
    (t.erase [repo]).find? (r :: below) = t.find? (r :: below) := by
  have hnot : ¬ [repo] <+: r :: below := by
    rintro ⟨tail, heq⟩
    exact hr (List.cons.inj heq).1.symm
  rw [FileTree.find?_erase _ (by simp), if_neg hnot]

theorem Shelved.clear (h : Shelved t held) (repo : String) :
    Shelved (t.erase [repo]) (held.clear repo) where
  distinct := h.distinct.erase _
  top := by
    intro r
    by_cases hr : r = repo
    · rw [hr]
      exact Or.inl (find?_erase_top t repo [])
    · rw [find?_erase_other t hr]
      exact h.top r
  bare := by
    intro r hnone f
    by_cases hr : r = repo
    · rw [hr]
      exact find?_erase_top t repo [f]
    · rw [find?_erase_other t hr] at hnone ⊢
      exact h.bare r hnone f
  vacant := by
    intro r f hheld
    by_cases hr : r = repo
    · rw [hr]
      exact Or.inl ⟨find?_erase_top t repo [f], fun name => find?_erase_top t repo [f, name]⟩
    · rw [held.clear_other hr] at hheld
      simp only [Vacant, find?_erase_other t hr]
      exact h.vacant r f hheld
  occupied := by
    intro r f s hheld
    by_cases hr : r = repo
    · rw [hr, held.clear_self] at hheld
      cases hheld
    · rw [held.clear_other hr] at hheld
      simp only [Occupied, find?_erase_other t hr]
      exact h.occupied r f s hheld
  shelves := by
    intro r f s hheld
    by_cases hr : r = repo
    · rw [hr, held.clear_self] at hheld
      cases hheld
    · rw [held.clear_other hr] at hheld
      exact h.shelves r f s hheld

theorem Shelved.turns_clear_nothing (h : Shelved t held) (htop : t.find? [repo] = none) :
    Turns t held t held repo .clear := by
  have hheld := h.held_of_bare htop
  have hleft : ∀ f, ¬ Leftover t repo f := fun f hleft => by
    cases (h.bare repo htop f).symm.trans hleft.1
  refine ⟨h, ?_, ?_, ?_, ?_⟩
  · intro r f
    split
    next hr => rw [hr.1, hheld, Effect.clear]
    next => rfl
  · intro r
    split
    next hr =>
      rw [hr, Effect.clear, shelf, List.filterMap_eq_nil_iff.2 fun f _ => hheld f]
      rfl
    next => rfl
  · intro r f
    split
    next hr => simp [hr, hleft f, Effect.clear]
    next => exact Iff.rfl
  · intro r
    split
    next hr => simp [hr, htop, Effect.clear]
    next => rfl

theorem Shelved.turns_clear (h : Shelved t held) (repo : String) :
    Turns t held (t.erase [repo]) (held.clear repo) repo .clear where
  shelved := h.clear repo
  contents := by
    intro r f
    simp [Contents.clear, Effect.clear]
  listing := by
    intro r
    split
    next hr =>
      subst hr
      rw [shelf, List.filterMap_eq_nil_iff.2 fun f _ => held.clear_self r f]
      simp [Effect.clear]
    next hr =>
      refine shelf_congr ?_ (held.clear_other hr)
      rw [FileTree.children_erase]
      refine List.filter_eq_self.2 fun f _ => ?_
      simp [List.isPrefixOf, Ne.symm hr]
  leftover := by
    intro r f
    split
    next hr => simp [hr, Leftover, find?_erase_top, Effect.clear]
    next hr => simp only [Leftover, find?_erase_other t hr]
  opened := by
    intro r
    split
    next hr => simp [hr, find?_erase_top, Effect.clear]
    next hr => rw [find?_erase_other t hr]

theorem Shelved.turns_deleteRepo (h : Shelved t held) (hrepo : isRepoName repo = true) :
    ∃ next left, (deleteRepo repo).run ⟨t⟩ = (.ok (t.find? [repo]).isSome, ⟨next⟩) ∧
      Turns t held next left repo .clear := by
  have hname : checkRepoName repo = .ok () := by rw [checkRepoName, if_pos hrepo]
  unfold deleteRepo
  rw [Change.run_bind_ok (Change.run_lift_ok hname), Change.run_bind_ok (Change.run_get _)]
  rcases h.top repo with htop | htop
  · refine ⟨t, held, ?_, h.turns_clear_nothing htop⟩
    simp only [htop, Option.isNone_none, if_true]
    rfl
  · have hstep : (Change.step (·.removeFolder [repo])).run ⟨t⟩ =
        (.ok (), ⟨t.erase [repo]⟩) :=
      Change.run_step_ok (FileTree.removeFolder_folder htop)
    refine ⟨t.erase [repo], held.clear repo, ?_, h.turns_clear repo⟩
    simp only [htop, Option.isNone_some, Bool.false_eq_true, if_false]
    rw [Change.run_bind_ok hstep]
    rfl

theorem Shelved.run_deleteRepo (h : Shelved t held) (hrepo : isRepoName repo = true) :
    ∃ next left, (deleteRepo repo).run ⟨t⟩ = (.ok (t.find? [repo]).isSome, ⟨next⟩) ∧
      Shelved next left ∧ held.Without (fun s => s.repo = repo) left := by
  obtain ⟨next, left, hrun, hturns⟩ := h.turns_deleteRepo hrepo
  refine ⟨next, left, hrun, hturns.shelved, (h.without_of_turns hturns rfl).congr ?_⟩
  intro r f s _
  exact and_iff_left rfl

theorem deleteRepo_refused (store : Store) (hrepo : isRepoName repo = false) :
    (deleteRepo repo).run store = (.error (.repositoryName repo), store) := by
  have hname : checkRepoName repo = .error (.repositoryName repo) := by
    rw [checkRepoName, hrepo]
    rfl
  unfold deleteRepo
  rw [Change.run_bind_error (Change.run_lift_error hname)]

/-! ### Pruning -/

theorem dropInt_map {α β : Type} (f : α → β) (n : Int) (xs : List α) :
    dropInt n (xs.map f) = (dropInt n xs).map f := by
  unfold dropInt
  split
  · rw [List.map_drop]
  · rw [List.length_map, List.map_drop]

theorem dropInt_sublist {α : Type} (n : Int) (xs : List α) : (dropInt n xs).Sublist xs := by
  unfold dropInt
  split
  · exact List.drop_sublist _ _
  · exact List.drop_sublist _ _

theorem Shelved.turns_prune (h : Shelved t held) (hrepo : isRepoName repo = true) (keep : Int) :
    ∃ next left, (prune repo keep).run ⟨t⟩ =
        (.ok ((dropInt keep (latestFirst (shelf t held repo))).map (fun s => .text s.ref)),
          ⟨next⟩) ∧
      Turns t held next left repo
        (.drop ((dropInt keep (latestFirst (shelf t held repo))).map folderOf)) := by
  obtain ⟨next, left, hrun, hturns⟩ :=
    h.run_deleteListed repo (dropInt_sublist keep (latestFirst (shelf t held repo)))
  refine ⟨next, left, ?_, hturns⟩
  unfold prune
  rw [Change.run_bind_ok (Change.run_get _), Change.run_bind_ok (h.run_entries hrepo),
    dropInt_map, Change.run_bind_ok hrun, Change.run_pure, List.map_map]
  rfl

theorem Shelved.run_prune (h : Shelved t held) (hrepo : isRepoName repo = true) (keep : Int) :
    ∃ next left, (prune repo keep).run ⟨t⟩ =
        (.ok ((dropInt keep (latestFirst (shelf t held repo))).map (fun s => .text s.ref)),
          ⟨next⟩) ∧
      Shelved next left ∧
      held.Without (· ∈ dropInt keep (latestFirst (shelf t held repo))) left := by
  obtain ⟨next, left, hrun, hturns⟩ := h.turns_prune hrepo keep
  refine ⟨next, left, hrun, hturns.shelved, (h.without_of_turns hturns rfl).congr ?_⟩
  intro r f s hheld
  have hplace := h.shelves _ _ _ hheld
  have hlisted := dropInt_sublist keep (latestFirst (shelf t held repo))
  constructor
  · rintro ⟨hsame, hgone⟩
    obtain rfl : r = repo := hplace.repo.symm.trans hsame
    rw [Effect.drop, List.contains_iff_mem] at hgone
    exact (h.mem_of_folder hlisted hheld).1 hgone
  · intro hs
    have hthere := h.held_of_mem_shelf (mem_latestFirst.1 (hlisted.subset hs))
    refine ⟨(h.shelves _ _ _ hthere).repo, ?_⟩
    rw [Effect.drop, List.contains_iff_mem]
    exact List.mem_map_of_mem hs

theorem prune_refused (store : Store) (keep : Int) (hrepo : isRepoName repo = false) :
    (prune repo keep).run store = (.error (.repositoryName repo), store) := by
  unfold prune
  rw [Change.run_bind_ok (Change.run_get _),
    Change.run_bind_error (run_entries_refused store hrepo)]

end Store

end RepoAtlas
