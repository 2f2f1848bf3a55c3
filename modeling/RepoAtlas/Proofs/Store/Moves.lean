import RepoAtlas.Proofs.Store.Isolation
import RepoAtlas.Proofs.Store.Ledger

/-!
What a change of a store answers and does is told by the entries of its repository; only the answer
to taking away a whole repository is told by the folder of that alone.
-/
namespace RepoAtlas

namespace Store

/-- A change of a store. The number of snapshots to keep may be negative. -/
inductive Move where
  | save (s : Snapshot)
  | deleteRef (repo ref : String)
  | deleteRepo (repo : String)
  | prune (repo : String) (keep : Int)

namespace Move

def repo : Move → String
  | .save s => s.repo
  | .deleteRef repo _ | .deleteRepo repo | .prune repo _ => repo

def run (store : Store) : Move → Result Answer × Store
  | .save s => (((Store.save s).run store).1.map .flag, ((Store.save s).run store).2)
  | .deleteRef repo ref =>
    (((Store.deleteRef repo ref).run store).1.map .flag, ((Store.deleteRef repo ref).run store).2)
  | .deleteRepo repo =>
    (((Store.deleteRepo repo).run store).1.map .flag, ((Store.deleteRepo repo).run store).2)
  | .prune repo keep =>
    (((Store.prune repo keep).run store).1.map .refs, ((Store.prune repo keep).run store).2)

/-- A snapshot that is saved has domains with plain names and was captured at a point in time. -/
def Sound : Move → Prop
  | .save s => Plain s ∧ s.capturedAt.IsMoment
  | _ => True

end Move

/-! ### Effects of the changes -/

/-- The folder that the snapshot of an entry lies in. -/
def Entry.folder (e : Entry) : String := folderName e.refType.shown e.ref.shown

/-- How a save ends and what it does, by the entries of the repository. -/
def saveEnds (es : List Entry) (s : Snapshot) : Result Bool × Effect :=
  if Fits (folderOf s) then
    if es.any (fun e => e.folder == folderOf s && isNewer e s) then (.ok false, {})
    else match firstFault? s.facts with
      | some fault => (.error fault,
          { gone := (· == folderOf s), left := some (folderOf s), opens := some true })
      | none => (.ok true, { gone := (· == folderOf s), put := some s, opens := some true })
  else (.error (.file .nameTooLong), { opens := some true })

namespace Move

/-- What a change does, by the entries of its repository. -/
def effect (es : List Entry) : Move → Effect
  | .save s => (saveEnds es s).2
  | .deleteRef _ ref => .drop ((es.filter (·.isFor ref)).map Entry.folder)
  | .deleteRepo _ => .clear
  | .prune _ keep => .drop ((dropInt keep es).map Entry.folder)

/-- What a change answers, by the entries of its repository. Whether the repository's folder is
there counts for one change only. -/
def answer (es : List Entry) (opened : Bool) : Move → Result Answer
  | .save s => (saveEnds es s).1.map .flag
  | .deleteRef _ ref => .ok (.flag !(es.filter (·.isFor ref)).isEmpty)
  | .deleteRepo _ => .ok (.flag opened)
  | .prune _ keep => .ok (.refs ((dropInt keep es).map (·.ref)))

end Move

section Turns

variable {t next : FileTree} {held left : Contents} {repo folder : String} {s : Snapshot}

/-- A folder that is made anew, with a snapshot or without a manifest. -/
theorem Shelved.turns_apart (h : Shelved t held) (happart : Apart t next repo folder)
    (hchildren : ∀ r, next.children [r] =
      if r = repo then madeLast folder (t.children [r]) else t.children [r])
    {found : Option Snapshot} {bare : Option String}
    (hshelved : Shelved next (held.set repo folder found))
    (hbare : ∀ f, bare = some f ↔ f = folder ∧ Leftover next repo folder) :
    Turns t held next (held.set repo folder found) repo
      { gone := (· == folder), put := found, left := bare, opens := some true } where
  shelved := hshelved
  contents := by
    intro r f
    simp only [Contents.set, beq_iff_eq]
  listing := by
    intro r
    have hr := hchildren r
    split
    next hsame =>
      subst hsame
      rw [if_pos rfl, madeLast] at hr
      refine (h.shelf_eq (· == folder) [folder] ?_ ?_).trans ?_
      · rw [hr]
        refine congrArg (· ++ _) (List.filter_congr fun f _ => Bool.eq_iff_iff.2 ?_)
        simp
      · intro f hf
        refine Contents.set_other _ fun hplace => ?_
        simp [hplace.2] at hf
      · rw [List.filterMap_cons, Contents.set_self]
        cases found <;> rfl
    next hother =>
      rw [if_neg hother] at hr
      exact shelf_congr hr fun f => Contents.set_other _ fun hplace => hother hplace.1
  leftover := by
    intro r f
    by_cases hplace : r = repo ∧ f = folder
    · obtain ⟨rfl, rfl⟩ := hplace
      simp [hbare]
    · obtain ⟨hhere, hbelow⟩ := happart.below hplace
      simp only [Leftover, hhere, hbelow]
      split
      next hr =>
        have hf : f ≠ folder := fun hf => hplace ⟨hr, hf⟩
        simp [hbare, hf]
      next => exact Iff.rfl
  opened := by
    intro r
    split
    next hr =>
      rw [hr, happart.top]
      rfl
    next hr => rw [happart.find?_top hr]

theorem Shelved.any_newer_iff (h : Shelved t held) (s : Snapshot) :
    ((latestFirst (shelf t held s.repo)).map entryOf).any
        (fun e => e.folder == folderOf s && isNewer e s) = true ↔
      ∃ old, held s.repo (folderOf s) = some old ∧
        s.capturedAt.instant < old.capturedAt.reread.instant := by
  rw [List.any_map, List.any_eq_true]
  constructor
  · rintro ⟨old, hold, hnewer⟩
    have hheld := h.held_of_mem_shelf (mem_latestFirst.1 hold)
    rw [Function.comp_apply, Bool.and_eq_true, beq_iff_eq, isNewer_entryOf] at hnewer
    obtain ⟨hfolder, hlt⟩ := hnewer
    have hsame : folderOf old = folderOf s := hfolder
    rw [hsame] at hheld
    exact ⟨old, hheld, of_decide_eq_true hlt⟩
  · rintro ⟨old, hheld, hlt⟩
    refine ⟨old, mem_latestFirst.2 (h.mem_shelf.2 ⟨_, hheld⟩), ?_⟩
    rw [Function.comp_apply, Bool.and_eq_true, beq_iff_eq, isNewer_entryOf]
    exact ⟨(h.shelves _ _ _ hheld).named, decide_eq_true hlt⟩

/-- A save that is kept out by nothing ends as the filling of the folder does. -/
theorem Shelved.turns_filling (h : Shelved t held) (hfits : Fits (folderOf s))
    {answer : Result Bool} (hfill : Filling s t next answer) :
    (∃ left, Turns t held next left s.repo
      { gone := (· == folderOf s), put := some s, opens := some true } ∧
      answer = .ok true ∧ firstFault? s.facts = none) ∨
    ∃ left fault, Turns t held next left s.repo
      { gone := (· == folderOf s), left := some (folderOf s), opens := some true } ∧
      answer = .error fault ∧ firstFault? s.facts = some fault := by
  obtain ⟨happart, hchildren, ⟨hok, hnone, hstorable, hoccupied⟩ |
    ⟨⟨fault, herror, hfault⟩, -, hleft⟩⟩ := hfill
  · have hshelved : Shelved next (held.set s.repo (folderOf s) (some s)) := by
      refine h.update happart (fun hnone => by cases hnone) ?_
      rintro found ⟨⟩
      exact ⟨hoccupied, hstorable, rfl, rfl, hfits⟩
    refine Or.inl ⟨_, h.turns_apart happart hchildren hshelved ?_, hok, hnone⟩
    rintro f
    constructor
    · intro hbare
      cases hbare
    · rintro ⟨-, -, hmanifest⟩
      rw [hoccupied.2, fileOf, if_pos rfl] at hmanifest
      cases hmanifest
  · have hshelved : Shelved next (held.set s.repo (folderOf s) none) :=
      h.update happart (fun _ => Or.inr hleft) (fun _ hfound => by cases hfound)
    refine Or.inr ⟨_, fault, h.turns_apart happart hchildren hshelved ?_, herror, hfault⟩
    intro f
    simp [hleft, eq_comm]

theorem Shelved.turns_save (h : Shelved t held) (hs : Plain s) (htime : s.capturedAt.Readable)
    (hrepo : isRepoName s.repo = true) {es : List Entry}
    (hes : es = (latestFirst (shelf t held s.repo)).map entryOf) :
    ∃ next left, (save s).run ⟨t⟩ = ((saveEnds es s).1, ⟨next⟩) ∧
      Turns t held next left s.repo (saveEnds es s).2 := by
  rw [saveEnds]
  by_cases hfits : Fits (folderOf s)
  case neg =>
    obtain ⟨next, hrun, hnext, honly⟩ := h.save_long hrepo hfits
    rw [if_neg hfits]
    refine ⟨next, held, hrun, hnext, by simp, ?_, ?_, ?_⟩
    · intro r
      have hsame : shelf next held r = shelf t held r :=
        shelf_congr (honly.children r) (fun _ => rfl)
      simp [hsame]
    · intro r f
      simp [Leftover, honly.outside]
    · intro r
      split
      next hr =>
        rw [hr, honly.top]
        rfl
      next hr => rw [honly.outside _ (by simp) (by simpa using hr)]
  rw [if_pos hfits]
  by_cases hnewer : ∃ old, held s.repo (folderOf s) = some old ∧
      s.capturedAt.instant < old.capturedAt.reread.instant
  · have hany := (h.any_newer_iff s).2 hnewer
    rw [← hes] at hany
    obtain ⟨old, hold, hlt⟩ := hnewer
    rw [if_pos hany]
    exact ⟨t, held, h.run_save_kept hrepo hfits hold hlt, h.turns_nothing _⟩
  · have hany := fun hany => hnewer ((h.any_newer_iff s).1 hany)
    rw [← hes] at hany
    rw [if_neg hany, h.run_save_replace hrepo hfits
      (fun old hold hlt => hnewer ⟨old, hold, hlt⟩)]
    obtain ⟨next, answer, hrun, hfill⟩ :=
      (h.placed s.repo (folderOf s)).run_replace hs htime hrepo hfits
    rw [hrun]
    rcases h.turns_filling hfits hfill with ⟨left, hturns, rfl, hnone⟩ |
      ⟨left, fault, hturns, rfl, hfault⟩
    · rw [hnone]
      exact ⟨next, left, rfl, hturns⟩
    · rw [hfault]
      exact ⟨next, left, rfl, hturns⟩

/-- A change of a repository with a valid name does what its entries tell. -/
theorem Shelved.turns_move (h : Shelved t held) {move : Move} (hsound : move.Sound)
    (hrepo : isRepoName move.repo = true) {es : List Entry}
    (hes : es = (latestFirst (shelf t held move.repo)).map entryOf) :
    ∃ next left, move.run ⟨t⟩ = (move.answer es (t.find? [move.repo]).isSome, ⟨next⟩) ∧
      Turns t held next left move.repo (move.effect es) := by
  cases move with
  | save s =>
    obtain ⟨next, left, hrun, hturns⟩ := h.turns_save hsound.1 hsound.2.readable hrepo hes
    refine ⟨next, left, ?_, hturns⟩
    rw [Move.run, hrun]
    rfl
  | deleteRef repo ref =>
    have hvalid : isRepoName repo = true := hrepo
    obtain ⟨next, left, hrun, hturns⟩ := h.turns_deleteRef hvalid ref
    refine ⟨next, left, ?_, ?_⟩
    · rw [Move.run, hrun, hes, Move.answer, filter_isFor_map_entryOf, List.isEmpty_map]
      rfl
    · rw [Move.effect, hes, filter_isFor_map_entryOf, List.map_map]
      exact hturns
  | deleteRepo repo =>
    have hvalid : isRepoName repo = true := hrepo
    obtain ⟨next, left, hrun, hturns⟩ := h.turns_deleteRepo hvalid
    refine ⟨next, left, ?_, hturns⟩
    rw [Move.run, hrun]
    rfl
  | prune repo keep =>
    have hvalid : isRepoName repo = true := hrepo
    obtain ⟨next, left, hrun, hturns⟩ := h.turns_prune hvalid keep
    refine ⟨next, left, ?_, ?_⟩
    · rw [Move.run, hrun, hes, Move.answer, dropInt_map, List.map_map]
      rfl
    · rw [Move.effect, hes, dropInt_map, List.map_map]
      exact hturns

/-- A repository without a valid name is refused. -/
theorem Move.run_refused (store : Store) {move : Move} (hrepo : isRepoName move.repo = false) :
    move.run store = (.error (.repositoryName move.repo), store) := by
  cases move with
  | save s =>
    rw [Move.run, save_refused store hrepo]
    rfl
  | deleteRef repo ref =>
    have hbad : isRepoName repo = false := hrepo
    rw [Move.run, deleteRef_refused store ref hbad]
    rfl
  | deleteRepo repo =>
    have hbad : isRepoName repo = false := hrepo
    rw [Move.run, deleteRepo_refused store hbad]
    rfl
  | prune repo keep =>
    have hbad : isRepoName repo = false := hrepo
    rw [Move.run, prune_refused store keep hbad]
    rfl

end Turns

end Store

end RepoAtlas
