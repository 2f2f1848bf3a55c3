import RepoAtlas.Proofs.Store.Moves

/-!
Stores that show the same are told apart by nothing that is seen afterwards but two things: whether
the folder of a repository is still there, which the answer to taking the repository away tells,
and folders without a manifest, which are seen once the last snapshot of a repository is gone.
-/
namespace RepoAtlas

namespace Store

/-- The stores list the same snapshots and give the same ones for the keys that are asked for. -/
structure ReadsAlike (asked : Key → Prop) (a b : Store) : Prop where
  entries : ∀ repo, a.entries repo = b.entries repo
  loads : ∀ k, asked k → look a k = look b k

/-- The stores show the same. -/
structure Alike (asked : Key → Prop) (a b : Store) : Prop extends ReadsAlike asked a b where
  repos : a.repos = b.repos

/-- The folder of a repository is there, also an empty one. -/
def hasFolder (store : Store) (repo : String) : Bool := (store.tree.find? [repo]).isSome

/-- One of the repository's folders has no manifest. -/
def HasLeftover (store : Store) (repo : String) : Prop := ∃ f, Leftover store.tree repo f

/-- What does not show is the same too. -/
structure SameFolders (a b : Store) : Prop where
  repos : ∀ repo, a.hasFolder repo = b.hasFolder repo
  leftovers : ∀ repo f, Leftover a.tree repo f ↔ Leftover b.tree repo f

/-- Single snapshots are taken away. -/
def Move.Thins : Move → Prop
  | .deleteRef .. | .prune .. => True
  | _ => False

/-- The store after changes one after the other. -/
def runMoves (store : Store) : List Move → Store
  | [] => store
  | move :: rest => runMoves (move.run store).2 rest

/-- What changes one after the other answer. -/
def answersTo (store : Store) : List Move → List (Result Answer)
  | [] => []
  | move :: rest => (move.run store).1 :: answersTo (move.run store).2 rest

/-! ### Repositories -/

section Repos

variable {t u : FileTree} {held kept : Contents} {repo : String}

theorem Shelved.children_eq_nil_iff (h : Shelved t held) (repo : String) :
    t.children [repo] = [] ↔ shelf t held repo = [] ∧ ∀ f, ¬ Leftover t repo f := by
  constructor
  · intro hnone
    have hempty : ∀ f, t.find? [repo, f] = none := by
      intro f
      have hf : f ∉ t.children [repo] := by simp [hnone]
      simpa [FileTree.mem_children] using hf
    refine ⟨by rw [shelf, hnone]; rfl, fun f hleft => ?_⟩
    rw [Leftover, hempty] at hleft
    cases hleft.1
  · rintro ⟨hshelf, hleft⟩
    refine List.eq_nil_iff_forall_not_mem.2 fun f hf => ?_
    have hthere := FileTree.mem_children.1 hf
    cases hheld : held repo f with
    | some s =>
      have hs := h.mem_shelf.2 ⟨f, hheld⟩
      rw [hshelf] at hs
      cases hs
    | none =>
      rcases h.vacant repo f hheld with ⟨hnone, -⟩ | hleftover
      · rw [List.singleton_append, hnone] at hthere
        cases hthere
      · exact hleft f hleftover

theorem Shelved.mem_repos (h : Shelved t held) :
    repo ∈ repos ⟨t⟩ ↔ shelf t held repo ≠ [] ∨ HasLeftover ⟨t⟩ repo := by
  have hchildren := h.children_eq_nil_iff repo
  rw [repos, sortTexts, List.mem_mergeSort, List.mem_filter]
  constructor
  · rintro ⟨-, hfull⟩
    rw [Bool.and_eq_true, Bool.not_eq_true', List.isEmpty_eq_false_iff, ne_eq, hchildren,
      not_and_or, not_forall_not] at hfull
    exact hfull.2
  · intro hfull
    have hne : ¬ t.children [repo] = [] := by
      rw [hchildren, not_and_or, not_forall_not]
      exact hfull
    have htop : t.find? [repo] = some .folder := by
      rcases h.top repo with hnone | htop
      · refine absurd (hchildren.2 ?_) hne
        refine ⟨List.filterMap_eq_nil_iff.2 fun f _ => h.held_of_bare hnone f, fun f hleft => ?_⟩
        cases (h.bare repo hnone f).symm.trans hleft.1
      · exact htop
    refine ⟨FileTree.mem_children.2 ?_, ?_⟩
    · rw [List.nil_append, htop]
      rfl
    · rw [Bool.and_eq_true, Bool.not_eq_true', List.isEmpty_eq_false_iff, FileTree.isFolder, htop]
      exact ⟨by decide, hne⟩

theorem repos_eq_iff (ht : t.Distinct) (hu : u.Distinct) :
    repos ⟨t⟩ = repos ⟨u⟩ ↔ ∀ repo, repo ∈ repos ⟨t⟩ ↔ repo ∈ repos ⟨u⟩ :=
  sortTexts_eq_iff ((FileTree.nodup_children ht []).filter _)
    ((FileTree.nodup_children hu []).filter _)

theorem Shelved.entries_eq_nil_iff (h : Shelved t held) (hrepo : isRepoName repo = true) :
    entries ⟨t⟩ repo = .ok [] ↔ shelf t held repo = [] := by
  rw [h.entries_eq hrepo, Except.ok.injEq, List.map_eq_nil_iff]
  constructor
  · intro hnil
    exact List.length_eq_zero_iff.1 ((latestFirst_perm _).length_eq.symm.trans (by rw [hnil]; rfl))
  · intro hnil
    rw [hnil]
    exact List.mergeSort_nil

end Repos

/-! ### Alike stores after the same effect -/

section Effects

variable {asked : Key → Prop} {t u next after : FileTree} {held kept left rest : Contents}
  {repo : String} {e : Effect}

theorem newestFirst_filter_append {xs ys : List Entry} (h : newestFirst xs = newestFirst ys)
    (p : Entry → Bool) (more : List Entry) :
    newestFirst (xs.filter p ++ more) = newestFirst (ys.filter p ++ more) := by
  -- descending times are ascending keys in the dual order
  have hlater : ∀ a b : Entry, decide (b.capturedAt.instant ≤ a.capturedAt.instant) = true ↔
      OrderDual.toDual a.capturedAt.instant ≤ OrderDual.toDual b.capturedAt.instant :=
    fun _ _ => decide_eq_true_iff
  exact mergeSort_filter_append hlater h p more

theorem Shelved.newestFirst_shelf (h : Shelved t held) (hrepo : isRepoName repo = true) :
    entries ⟨t⟩ repo = .ok (newestFirst ((shelf t held repo).map entryOf)) := by
  rw [h.entries_eq hrepo, newestFirst_map_entryOf]

theorem Turns.map_shelf (h : Turns t held next left repo e) :
    (shelf next left repo).map entryOf =
      ((shelf t held repo).map entryOf).filter (fun x => !e.gone x.folder) ++
        e.put.toList.map entryOf := by
  rw [h.listing, if_pos rfl, List.map_append, List.filter_map]
  rfl

theorem Turns.entries_eq (h : Turns t held next left repo e) (g : Turns u kept after rest repo e)
    (ht : Shelved t held) (hu : Shelved u kept)
    (hsame : ∀ r, entries ⟨t⟩ r = entries ⟨u⟩ r) (r : String) :
    entries ⟨next⟩ r = entries ⟨after⟩ r := by
  cases hr : isRepoName r with
  | false => rw [entries_refused _ hr, entries_refused _ hr]
  | true =>
    have hbefore := hsame r
    rw [ht.newestFirst_shelf hr, hu.newestFirst_shelf hr, Except.ok.injEq] at hbefore
    rw [h.shelved.newestFirst_shelf hr, g.shelved.newestFirst_shelf hr]
    refine congrArg Except.ok ?_
    by_cases hrepo : r = repo
    · subst hrepo
      rw [h.map_shelf, g.map_shelf]
      exact newestFirst_filter_append hbefore _ _
    · rw [h.listing, g.listing, if_neg hrepo, if_neg hrepo, hbefore]

/-- A key whose folder's name is too long tells whether the repository's folder is there. -/
theorem Shelved.look_long_eq_iff (ht : Shelved t held) (hu : Shelved u kept) {k : Key}
    (hrepo : isRepoName k.repo = true) (hlong : ¬ Fits k.folder) :
    look ⟨t⟩ k = look ⟨u⟩ k ↔ hasFolder ⟨t⟩ k.repo = hasFolder ⟨u⟩ k.repo := by
  rw [look, look, ht.load_long hrepo hlong, hu.load_long hrepo hlong, hasFolder, hasFolder]
  cases t.find? [k.repo] <;> cases u.find? [k.repo] <;> simp

theorem Turns.hasFolder_eq (h : Turns t held next left repo e)
    (g : Turns u kept after rest repo e) {r : String}
    (hsame : hasFolder ⟨t⟩ r = hasFolder ⟨u⟩ r) : hasFolder ⟨next⟩ r = hasFolder ⟨after⟩ r := by
  rw [hasFolder, hasFolder] at hsame ⊢
  rw [h.opened, g.opened, hsame]

theorem Turns.look_eq (h : Turns t held next left repo e) (g : Turns u kept after rest repo e)
    (ht : Shelved t held) (hu : Shelved u kept) {k : Key}
    (hsame : look ⟨t⟩ k = look ⟨u⟩ k) : look ⟨next⟩ k = look ⟨after⟩ k := by
  cases hrepo : isRepoName k.repo with
  | false => rw [look, look, load_refused _ _ hrepo, load_refused _ _ hrepo]
  | true =>
    by_cases hfits : Fits k.folder
    · rw [ht.look_fits hrepo hfits, hu.look_fits hrepo hfits, Except.ok.injEq] at hsame
      rw [h.shelved.look_fits hrepo hfits, g.shelved.look_fits hrepo hfits, h.contents, g.contents]
      split
      · rfl
      · rw [hsame]
    · rw [ht.look_long_eq_iff hu hrepo hfits] at hsame
      rw [h.shelved.look_long_eq_iff g.shelved hrepo hfits]
      exact h.hasFolder_eq g hsame

theorem Turns.readsAlike (h : Turns t held next left repo e) (g : Turns u kept after rest repo e)
    (ht : Shelved t held) (hu : Shelved u kept) (hsame : ReadsAlike asked ⟨t⟩ ⟨u⟩) :
    ReadsAlike asked ⟨next⟩ ⟨after⟩ where
  entries := h.entries_eq g ht hu hsame.entries
  loads := fun k hk => h.look_eq g ht hu (hsame.loads k hk)

theorem Turns.sameFolders (h : Turns t held next left repo e)
    (g : Turns u kept after rest repo e) (hsame : SameFolders ⟨t⟩ ⟨u⟩) :
    SameFolders ⟨next⟩ ⟨after⟩ where
  repos := fun r => h.hasFolder_eq g (hsame.repos r)
  leftovers := by
    intro r f
    rw [h.leftover, g.leftover]
    simp only [hsame.leftovers r f]

/-- A repository that has a snapshot is listed in both stores. One that has none is listed for what
was left there. -/
theorem Turns.repos_eq_iff (h : Turns t held next left repo e)
    (g : Turns u kept after rest repo e) (ht : Shelved t held) (hu : Shelved u kept)
    (hrepo : isRepoName repo = true) (hsame : Alike asked ⟨t⟩ ⟨u⟩) :
    repos ⟨next⟩ = repos ⟨after⟩ ↔
      (shelf next left repo = [] → (HasLeftover ⟨next⟩ repo ↔ HasLeftover ⟨after⟩ repo)) := by
  have hempty : shelf next left repo = [] ↔ shelf after rest repo = [] := by
    rw [← h.shelved.entries_eq_nil_iff hrepo, ← g.shelved.entries_eq_nil_iff hrepo,
      h.entries_eq g ht hu hsame.entries]
  have hothers : ∀ r, r ≠ repo → (r ∈ repos ⟨next⟩ ↔ r ∈ repos ⟨after⟩) := by
    intro r hr
    have hbefore : r ∈ repos ⟨t⟩ ↔ r ∈ repos ⟨u⟩ := by rw [hsame.repos]
    rw [ht.mem_repos, hu.mem_repos] at hbefore
    rw [h.shelved.mem_repos, g.shelved.mem_repos, h.listing, g.listing, if_neg hr, if_neg hr]
    simpa only [HasLeftover, h.leftover, g.leftover, if_neg hr] using hbefore
  rw [Store.repos_eq_iff h.shelved.distinct g.shelved.distinct]
  constructor
  · intro hall hnil
    have hlisted := hall repo
    rw [h.shelved.mem_repos, g.shelved.mem_repos] at hlisted
    simpa [hnil, hempty.1 hnil] using hlisted
  · intro hleft r
    by_cases hr : r = repo
    · rw [hr, h.shelved.mem_repos, g.shelved.mem_repos]
      by_cases hnil : shelf next left repo = []
      · simpa [hnil, hempty.1 hnil] using hleft hnil
      · exact iff_of_true (Or.inl hnil) (Or.inl (fun hrest => hnil (hempty.2 hrest)))
    · exact hothers r hr

end Effects

/-! ### Alike stores after the same change -/

section Moves

variable {asked : Key → Prop} {a b : Store} {t u next after : FileTree}
  {held kept left rest : Contents} {repo : String} {move : Move} {es : List Entry}

theorem Move.answer_eq_iff (es : List Entry) {there here : Bool} :
    move.answer es there = move.answer es here ↔
      ∀ repo, move = .deleteRepo repo → there = here := by
  cases move with
  | deleteRepo repo => simp [Move.answer]
  | _ => simp [Move.answer]

/-- A change of another kind takes away nothing, puts a snapshot into the repository, leaves a
folder without a manifest there or takes everything away. -/
theorem Move.effect_cases (es : List Entry) (move : Move) (hmove : ¬ move.Thins) :
    move.effect es = { opens := (move.effect es).opens } ∨ (move.effect es).put.isSome = true ∨
      (move.effect es).left.isSome = true ∨ move.effect es = .clear := by
  cases move with
  | save s =>
    rw [Move.effect, saveEnds]
    split
    · split
      · exact Or.inl rfl
      · split
        · exact Or.inr (Or.inr (Or.inl rfl))
        · exact Or.inr (Or.inl rfl)
    · exact Or.inl rfl
  | deleteRepo repo => exact Or.inr (Or.inr (Or.inr rfl))
  | deleteRef repo ref => exact absurd trivial hmove
  | prune repo keep => exact absurd trivial hmove

theorem Move.effect_of_thins (es : List Entry) (hmove : move.Thins) :
    ∃ gone : List Entry, gone ⊆ es ∧ move.effect es = .drop (gone.map Entry.folder) := by
  cases move with
  | deleteRef repo ref => exact ⟨_, List.filter_subset_self _, rfl⟩
  | prune repo keep => exact ⟨_, (dropInt_sublist keep es).subset, rfl⟩
  | save s => exact hmove.elim
  | deleteRepo repo => exact hmove.elim

/-- A listed snapshot has its manifest. -/
theorem Shelved.not_leftover (h : Shelved t held) (hrepo : isRepoName repo = true)
    (hes : entries ⟨t⟩ repo = .ok es) : ∀ e ∈ es, ¬ Leftover t repo e.folder := by
  intro e he hleft
  rw [h.entries_eq hrepo, Except.ok.injEq] at hes
  rw [← hes] at he
  obtain ⟨s, hs, rfl⟩ := List.mem_map.1 he
  have hmanifest := (h.occupied _ _ _ (h.held_of_mem_shelf (mem_latestFirst.1 hs))).2 manifestName
  rw [fileOf, if_pos rfl] at hmanifest
  cases hmanifest.symm.trans hleft.2

/-- Where single snapshots are taken away, nothing else goes. -/
theorem Turns.hasLeftover_thinned (h : Turns t held next left move.repo (move.effect es))
    (ht : Shelved t held) (hrepo : isRepoName move.repo = true)
    (hes : entries ⟨t⟩ move.repo = .ok es) (hmove : move.Thins) :
    HasLeftover ⟨next⟩ move.repo ↔ HasLeftover ⟨t⟩ move.repo := by
  obtain ⟨gone, hgone, heffect⟩ := Move.effect_of_thins es hmove
  refine exists_congr fun f => ?_
  rw [h.leftover, if_pos rfl, heffect]
  constructor
  · rintro (⟨hleft, -⟩ | hnone)
    · exact hleft
    · cases hnone
  · intro hleft
    refine Or.inl ⟨hleft, ?_⟩
    rw [Effect.drop, Bool.eq_false_iff, ne_eq, List.contains_iff_mem, List.mem_map]
    rintro ⟨e, he, rfl⟩
    exact ht.not_leftover hrepo hes e (hgone he) hleft

/-- After another change, what is left without a manifest does not tell the stores apart. -/
theorem Turns.hasLeftover_alike (h : Turns t held next left repo e)
    (g : Turns u kept after rest repo e) (ht : Shelved t held) (hu : Shelved u kept)
    (hrepo : isRepoName repo = true) (hsame : Alike asked ⟨t⟩ ⟨u⟩)
    (heffect : e = { opens := e.opens } ∨ e.put.isSome = true ∨ e.left.isSome = true ∨ e = .clear)
    (hnil : shelf next left repo = []) :
    HasLeftover ⟨next⟩ repo ↔ HasLeftover ⟨after⟩ repo := by
  simp only [HasLeftover, h.leftover, g.leftover, if_pos]
  rcases heffect with heffect | hput | hleft | rfl
  · -- nothing has gone, so the repository is listed as before
    have hbefore : repo ∈ repos ⟨t⟩ ↔ repo ∈ repos ⟨u⟩ := by rw [hsame.repos]
    have hempty : shelf t held repo = [] := by
      rw [h.listing, if_pos rfl, heffect] at hnil
      simpa using hnil
    have hempty' : shelf u kept repo = [] := by
      rwa [← hu.entries_eq_nil_iff hrepo, ← hsame.entries, ht.entries_eq_nil_iff hrepo]
    rw [ht.mem_repos, hu.mem_repos, hempty, hempty'] at hbefore
    rw [heffect]
    simpa [HasLeftover] using hbefore
  · rw [h.listing, if_pos rfl, List.append_eq_nil_iff] at hnil
    obtain ⟨s, hs⟩ := Option.isSome_iff_exists.1 hput
    rw [hs] at hnil
    cases hnil.2
  · obtain ⟨f, hf⟩ := Option.isSome_iff_exists.1 hleft
    exact iff_of_true ⟨f, Or.inr hf⟩ ⟨f, Or.inr hf⟩
  · simp [Effect.clear]

/-- In stores with the same entries a change does the same. -/
theorem Shelved.turns_both (ht : Shelved t held) (hu : Shelved u kept) (hsound : move.Sound)
    (hrepo : isRepoName move.repo = true)
    (hsame : entries ⟨t⟩ move.repo = entries ⟨u⟩ move.repo) :
    ∃ es next left after rest, entries ⟨t⟩ move.repo = .ok es ∧
      move.run ⟨t⟩ = (move.answer es (hasFolder ⟨t⟩ move.repo), ⟨next⟩) ∧
      move.run ⟨u⟩ = (move.answer es (hasFolder ⟨u⟩ move.repo), ⟨after⟩) ∧
      Turns t held next left move.repo (move.effect es) ∧
      Turns u kept after rest move.repo (move.effect es) := by
  have hes := ht.entries_eq hrepo
  have hes' := hsame.symm.trans hes
  rw [hu.entries_eq hrepo, Except.ok.injEq] at hes'
  obtain ⟨next, left, hrun, hturns⟩ := ht.turns_move hsound hrepo rfl
  obtain ⟨after, rest, hrun', hturns'⟩ := hu.turns_move hsound hrepo hes'.symm
  exact ⟨_, next, left, after, rest, hes, hrun, hrun', hturns, hturns'⟩

/-- What is told by a change of alike stores, and how far they are alike afterwards. -/
theorem Shelved.move_alike (ht : Shelved t held) (hu : Shelved u kept) (hsound : move.Sound)
    (hsame : Alike asked ⟨t⟩ ⟨u⟩) :
    ((move.run ⟨t⟩).1 = (move.run ⟨u⟩).1 ↔ ∀ repo, move = .deleteRepo repo →
      isRepoName repo = true → hasFolder ⟨t⟩ repo = hasFolder ⟨u⟩ repo) ∧
    ReadsAlike asked (move.run ⟨t⟩).2 (move.run ⟨u⟩).2 ∧
    ((move.run ⟨t⟩).2.repos = (move.run ⟨u⟩).2.repos ↔
      (move.Thins → (move.run ⟨t⟩).2.entries move.repo = .ok [] →
        (HasLeftover ⟨t⟩ move.repo ↔ HasLeftover ⟨u⟩ move.repo))) := by
  cases hrepo : isRepoName move.repo with
  | false =>
    rw [Move.run_refused _ hrepo, Move.run_refused _ hrepo, entries_refused _ hrepo]
    refine ⟨iff_of_true rfl ?_, hsame.toReadsAlike, iff_of_true hsame.repos ?_⟩
    · rintro repo rfl hvalid
      exact absurd (hvalid.symm.trans hrepo) (by decide)
    · intro _ hnil
      cases hnil
  | true =>
    obtain ⟨es, next, left, after, rest, hes, hrun, hrun', hturns, hturns'⟩ :=
      ht.turns_both hu hsound hrepo (hsame.entries move.repo)
    have hes' := (hsame.entries move.repo).symm.trans hes
    rw [hrun, hrun']
    refine ⟨?_, hturns.readsAlike hturns' ht hu hsame.toReadsAlike, ?_⟩
    · rw [Move.answer_eq_iff]
      constructor
      · rintro hall repo rfl -
        exact hall repo rfl
      · rintro hall repo rfl
        exact hall repo rfl hrepo
    · rw [hturns.repos_eq_iff hturns' ht hu hrepo hsame, hturns.shelved.entries_eq_nil_iff hrepo]
      by_cases hmove : move.Thins
      · rw [hturns.hasLeftover_thinned ht hrepo hes hmove,
          hturns'.hasLeftover_thinned hu hrepo hes' hmove]
        simp only [hmove, true_imp_iff]
      · have hleft := hturns.hasLeftover_alike hturns' ht hu hrepo hsame
          (Move.effect_cases es move hmove)
        exact iff_of_true hleft fun hthins => absurd hthins hmove

theorem Shelved.move_sameFolders (ht : Shelved t held) (hu : Shelved u kept)
    (hsound : move.Sound) (hsame : Alike asked ⟨t⟩ ⟨u⟩) (hfolders : SameFolders ⟨t⟩ ⟨u⟩) :
    SameFolders (move.run ⟨t⟩).2 (move.run ⟨u⟩).2 := by
  cases hrepo : isRepoName move.repo with
  | false =>
    rw [Move.run_refused _ hrepo, Move.run_refused _ hrepo]
    exact hfolders
  | true =>
    obtain ⟨es, next, left, after, rest, -, hrun, hrun', hturns, hturns'⟩ :=
      ht.turns_both hu hsound hrepo (hsame.entries move.repo)
    rw [hrun, hrun']
    exact hturns.sameFolders hturns' hfolders

theorem Reached.step (h : Reached a) (hsound : move.Sound) : Reached (move.run a).2 := by
  cases move with
  | save s => exact h.save s hsound.1 hsound.2
  | deleteRef repo ref => exact h.deleteRef repo ref
  | deleteRepo repo => exact h.deleteRepo repo
  | prune repo keep => exact h.prune repo keep

theorem Reached.run (moves : List Move) (hmoves : ∀ move ∈ moves, move.Sound) (h : Reached a) :
    Reached (runMoves a moves) := by
  induction moves generalizing a with
  | nil => exact h
  | cons move rest ih =>
    exact ih (fun m hm => hmoves m (List.mem_cons_of_mem move hm))
      (h.step (hmoves move List.mem_cons_self))

/-- With the same folders, a change keeps the stores alike and their folders the same. -/
theorem Alike.step (hsame : Alike asked a b) (ha : Reached a) (hb : Reached b)
    (hfolders : SameFolders a b) (hsound : move.Sound) :
    (move.run a).1 = (move.run b).1 ∧ Alike asked (move.run a).2 (move.run b).2 ∧
      SameFolders (move.run a).2 (move.run b).2 := by
  obtain ⟨held, ht⟩ := ha.shelved
  obtain ⟨kept, hu⟩ := hb.shelved
  obtain ⟨hanswer, hreads, hrepos⟩ := ht.move_alike hu hsound hsame
  refine ⟨hanswer.2 fun repo _ _ => hfolders.repos repo, ⟨hreads, hrepos.2 fun _ _ => ?_⟩,
    ht.move_sameFolders hu hsound hsame hfolders⟩
  exact exists_congr (hfolders.leftovers move.repo)

theorem Alike.run (moves : List Move) (hmoves : ∀ move ∈ moves, move.Sound)
    (hsame : Alike asked a b) (ha : Reached a) (hb : Reached b) (hfolders : SameFolders a b) :
    answersTo a moves = answersTo b moves ∧
      Alike asked (runMoves a moves) (runMoves b moves) := by
  induction moves generalizing a b with
  | nil => exact ⟨rfl, hsame⟩
  | cons move rest ih =>
    have hsound := hmoves move List.mem_cons_self
    obtain ⟨hanswer, hnext, hfolders'⟩ := hsame.step ha hb hfolders hsound
    obtain ⟨hanswers, hlast⟩ := ih (fun m hm => hmoves m (List.mem_cons_of_mem move hm)) hnext
      (ha.step hsound) (hb.step hsound) hfolders'
    refine ⟨?_, hlast⟩
    rw [answersTo, answersTo, hanswer, hanswers]

end Moves

/-- Stores that show the same answer a change alike unless it takes a repository away whose folder
is in one of them only, and they list the same snapshots afterwards. They list the same repositories
unless the last snapshot of one is taken away beside a folder without a manifest that is in one of
them only. With the same folders nothing ever tells them apart. The answer to taking a repository
away is whether its folder is there, as it is while the repository has a snapshot; a key
whose folder's name is too long tells it as well. -/
theorem alike_told_apart_iff {asked : Key → Prop} {a b : Store} (ha : Reached a) (hb : Reached b)
    (hsame : Alike asked a b) :
    (∀ move : Move, move.Sound →
      ((move.run a).1 = (move.run b).1 ↔ ∀ repo, move = .deleteRepo repo →
        isRepoName repo = true → a.hasFolder repo = b.hasFolder repo) ∧
      ReadsAlike asked (move.run a).2 (move.run b).2 ∧
      ((move.run a).2.repos = (move.run b).2.repos ↔
        (move.Thins → (move.run a).2.entries move.repo = .ok [] →
          (a.HasLeftover move.repo ↔ b.HasLeftover move.repo)))) ∧
    (SameFolders a b → ∀ moves : List Move, (∀ move ∈ moves, move.Sound) →
      answersTo a moves = answersTo b moves ∧
        Alike asked (runMoves a moves) (runMoves b moves)) ∧
    (∀ k, asked k → isRepoName k.repo = true → ¬ Fits k.folder →
      a.hasFolder k.repo = b.hasFolder k.repo) ∧
    ∀ repo, isRepoName repo = true → ((deleteRepo repo).run a).1 = .ok (a.hasFolder repo) ∧
      (a.entries repo ≠ .ok [] → a.hasFolder repo = true) := by
  obtain ⟨held, ht⟩ := ha.shelved
  obtain ⟨kept, hu⟩ := hb.shelved
  refine ⟨fun move hsound => ht.move_alike hu hsound hsame, ?_, ?_, ?_⟩
  · intro hfolders moves hmoves
    exact hsame.run moves hmoves ha hb hfolders
  · intro k hk hrepo hlong
    exact (ht.look_long_eq_iff hu hrepo hlong).1 (hsame.loads k hk)
  · intro repo hrepo
    obtain ⟨next, left, hrun, -⟩ := ht.run_deleteRepo hrepo
    refine ⟨congrArg Prod.fst hrun, fun hsome => ?_⟩
    rw [ne_eq, ht.entries_eq_nil_iff hrepo] at hsome
    obtain ⟨s, hs⟩ := List.exists_mem_of_ne_nil _ hsome
    have hfolder := (ht.occupied _ _ _ (ht.held_of_mem_shelf hs)).1
    rw [hasFolder, ht.top_of_folder hfolder]
    rfl

/-! ### A repository without snapshots -/

/-- A store whose only snapshot has been taken away. -/
def vacated (s : Snapshot) : Store := runMoves {} [.save s, .deleteRef s.repo s.ref]

section Vacated

variable {s : Snapshot}

theorem reached_vacated (hs : Plain s) (htime : s.capturedAt.IsMoment) : Reached (vacated s) := by
  refine Reached.run [.save s, .deleteRef s.repo s.ref] ?_ .empty
  simp only [List.forall_mem_cons, List.not_mem_nil, false_imp_iff, implies_true, and_true]
  exact ⟨⟨hs, htime⟩, trivial⟩

theorem firstFault?_eq_none (hs : Storable s) : firstFault? s.facts = none := by
  rw [firstFault?, List.findSome?_eq_none_iff]
  intro f hf
  have hwritable := hs.writable f hf
  exact (fileFault?_eq_none_iff (Or.inl hwritable.2)).2 hwritable

theorem saveEnds_empty (hs : Storable s) (hfits : Fits (folderOf s)) : saveEnds [] s = (.ok true,
    { gone := (· == folderOf s), put := some s, opens := some true }) := by
  rw [saveEnds, if_pos hfits, firstFault?_eq_none hs]
  rfl

/-- Nothing is left of the snapshot but the folder of its repository. -/
theorem shelved_vacated (hs : Storable s) (htime : s.capturedAt.IsMoment)
    (hfits : Fits (folderOf s)) : ∃ t held, vacated s = ⟨t⟩ ∧ Shelved t held ∧
      hasFolder ⟨t⟩ s.repo = true ∧ ∀ repo, shelf t held repo = [] ∧ ¬ HasLeftover ⟨t⟩ repo := by
  have hnone : [] = (latestFirst (shelf {} (fun _ _ => none) s.repo)).map entryOf := by
    rw [show shelf {} (fun _ _ => none) s.repo = [] from rfl, latestFirst, List.mergeSort_nil]
    rfl
  have hsave : (Move.save s).Sound := ⟨hs.plain, htime⟩
  obtain ⟨t, held, hrun, hturns⟩ := shelved_empty.turns_move hsave hs.repo hnone
  rw [Move.effect, saveEnds_empty hs hfits] at hturns
  have hshelf : shelf t held s.repo = [s] := (hturns.listing s.repo).trans (if_pos rfl)
  have hone : [entryOf s] = (latestFirst (shelf t held s.repo)).map entryOf := by
    rw [hshelf, latestFirst, List.mergeSort_singleton]
    rfl
  have hdelete : (Move.deleteRef s.repo s.ref).Sound := trivial
  obtain ⟨last, left, hrun', hturns'⟩ := hturns.shelved.turns_move hdelete hs.repo hone
  have hfor : (entryOf s).isFor s.ref = true := beq_self_eq_true s.ref
  have heffect : Move.effect [entryOf s] (.deleteRef s.repo s.ref) = .drop [folderOf s] := by
    have hfilter : [entryOf s].filter (fun e => e.isFor s.ref) = [entryOf s] :=
      List.filter_eq_self.2 (List.forall_mem_singleton.2 hfor)
    rw [Move.effect, hfilter]
    rfl
  rw [heffect] at hturns'
  refine ⟨last, left, ?_, hturns'.shelved, ?_, fun repo => ⟨?_, ?_⟩⟩
  · rw [vacated, runMoves, runMoves, runMoves, show ({} : Store) = ⟨{}⟩ from rfl, hrun, hrun']
  · rw [hasFolder, hturns'.opened, hturns.opened]
    simp [Effect.drop, Move.repo]
  · rw [hturns'.listing]
    split
    next hrepo =>
      rw [hrepo, Move.repo, hshelf]
      simp [Effect.drop]
    next hrepo =>
      rw [hturns.listing]
      exact if_neg hrepo
  · rintro ⟨f, hleft⟩
    have hfirst (r f : String) : ¬ Leftover {} r f := fun h => by cases h.1
    rw [hturns'.leftover, hturns.leftover] at hleft
    simp [Effect.drop, hfirst] at hleft

/-- A store in which nothing is left is seen as the empty one is. -/
theorem alike_vacated (hs : Storable s) (htime : s.capturedAt.IsMoment)
    (hfits : Fits (folderOf s)) : Alike (fun k => Fits k.folder) (vacated s) {} := by
  obtain ⟨t, held, hvacated, hshelved, -, hbare⟩ := shelved_vacated hs htime hfits
  rw [hvacated]
  have hnothing : ∀ repo, shelf {} (fun _ _ => none) repo = [] := fun _ => rfl
  refine ⟨⟨fun repo => ?_, fun k hfits => ?_⟩, ?_⟩
  · cases hrepo : isRepoName repo with
    | false => rw [entries_refused _ hrepo, entries_refused _ hrepo]
    | true =>
      rw [(hshelved.entries_eq_nil_iff hrepo).2 (hbare repo).1]
      exact ((shelved_empty.entries_eq_nil_iff hrepo).2 (hnothing repo)).symm
  · cases hrepo : isRepoName k.repo with
    | false => rw [look, look, load_refused _ _ hrepo, load_refused _ _ hrepo]
    | true =>
      have hheld : held k.repo k.folder = none := by
        rw [Option.eq_none_iff_forall_ne_some]
        intro s hs
        have hmem := hshelved.mem_shelf.2 ⟨_, hs⟩
        rw [(hbare k.repo).1] at hmem
        cases hmem
      refine (hshelved.look_fits hrepo hfits).trans ?_
      rw [hheld]
      exact (shelved_empty.look_fits hrepo hfits).symm
  · refine (repos_eq_iff hshelved.distinct shelved_empty.distinct).2 fun repo => ?_
    rw [hshelved.mem_repos, shelved_empty.mem_repos, (hbare repo).1]
    refine iff_of_false ?_ ?_
    · rintro (hne | hleft)
      · exact hne rfl
      · exact (hbare repo).2 hleft
    · rintro (hne | ⟨f, hleft⟩)
      · exact hne (hnothing repo)
      · cases hleft.1

end Vacated

theorem alike_told_apart_iff_vacated :
    Reached (vacated (capture "main" 0)) ∧ Reached {} ∧
      Alike (fun k => Fits k.folder) (vacated (capture "main" 0)) {} ∧
      ∀ move : Move, move.Sound →
        ReadsAlike (fun k => Fits k.folder) (move.run (vacated (capture "main" 0))).2
          (move.run {}).2 := by
  have hs := storable_capture "main" 0
  have htime := isMoment_capture "main" 0
  have hreached := reached_vacated hs.plain htime
  have hsame := alike_vacated hs htime (by decide)
  exact ⟨hreached, .empty, hsame, fun move hsound =>
    ((alike_told_apart_iff hreached .empty hsame).1 move hsound).2.1⟩

/-- A repository without a snapshot can be taken away as if it had one. -/
theorem deleteRepo_vacated :
    Reached (vacated (capture "main" 0)) ∧ Reached {} ∧
      Alike (fun k => Fits k.folder) (vacated (capture "main" 0)) {} ∧
      (vacated (capture "main" 0)).entries "shop" = .ok [] ∧
      (vacated (capture "main" 0)).repos = [] ∧
      ((deleteRepo "shop").run (vacated (capture "main" 0))).1 = .ok true ∧
      ((deleteRepo "shop").run {}).1 = .ok false := by
  have hs := storable_capture "main" 0
  have htime := isMoment_capture "main" 0
  have hfits : Fits (folderOf (capture "main" 0)) := by decide
  have hsame := alike_vacated hs htime hfits
  obtain ⟨t, held, hvacated, hshelved, hfolder, hbare⟩ := shelved_vacated hs htime hfits
  have hrepo : isRepoName "shop" = true := by decide
  obtain ⟨next, left, hrun, -⟩ := hshelved.run_deleteRepo hrepo
  refine ⟨reached_vacated hs.plain htime, .empty, hsame, ?_,
    hsame.repos.trans List.mergeSort_nil, ?_, rfl⟩
  · rw [hvacated]
    exact (hshelved.entries_eq_nil_iff hrepo).2 (hbare "shop").1
  · rw [hvacated, hrun]
    exact congrArg Except.ok hfolder

end Store

end RepoAtlas
