import RepoAtlas.Proofs.Store.Loading
import RepoAtlas.Store.Writing

/-!
How the steps of a change follow each other, and what becomes of a tree of snapshots when one
folder is filled or taken away.
-/
namespace RepoAtlas

namespace Store

/-! ### Steps -/

namespace Change

variable {α β : Type} {store next : Store}

theorem run_pure (a : α) (store : Store) : (pure a : Change α).run store = (.ok a, store) := rfl

theorem run_get (store : Store) : (get : Change FileTree).run store = (.ok store.tree, store) := rfl

theorem run_bind (c : Change α) (f : α → Change β) (store : Store) :
    (c >>= f).run store = match c.run store with
      | (.ok a, next) => (f a).run next
      | (.error fault, next) => (.error fault, next) := by
  have hsteps : (c >>= f).run store =
      (fun p : Result β × FileTree => (p.1, (⟨p.2⟩ : Store)))
        (ExceptT.bindCont f (c store.tree).1 (c store.tree).2) := rfl
  have hfirst : c.run store = ((c store.tree).1, ⟨(c store.tree).2⟩) := rfl
  rw [hsteps, hfirst]
  cases (c store.tree).1 with
  | ok a => rfl
  | error fault => rfl

theorem run_bind_ok {c : Change α} {f : α → Change β} {a : α}
    (h : c.run store = (.ok a, next)) : (c >>= f).run store = (f a).run next := by
  rw [run_bind, h]

theorem run_bind_error {c : Change α} {f : α → Change β} {fault : Fault}
    (h : c.run store = (.error fault, next)) : (c >>= f).run store = (.error fault, next) := by
  rw [run_bind, h]

theorem run_lift_ok {r : Result α} {a : α} (h : r = .ok a) :
    (lift r).run store = (.ok a, store) := by
  rw [h]
  rfl

theorem run_lift_error {r : Result α} {fault : Fault} (h : r = .error fault) :
    (lift r).run store = (.error fault, store) := by
  rw [h]
  rfl

theorem run_step_ok {f : FileTree → Result FileTree} {t : FileTree} (h : f store.tree = .ok t) :
    (step f).run store = (.ok (), ⟨t⟩) := by
  rw [step, run_bind_ok (run_get store), run_bind_ok (run_lift_ok h)]
  rfl

theorem run_step_error {f : FileTree → Result FileTree} {fault : Fault}
    (h : f store.tree = .error fault) : (step f).run store = (.error fault, store) := by
  rw [step, run_bind_ok (run_get store), run_bind_error (run_lift_error h)]

/-- A step and what follows it, if the step can be made. -/
theorem run_step_bind (f : FileTree → Result FileTree) (c : Unit → Change β) (t : FileTree) :
    (step f >>= c).run ⟨t⟩ = match f t with
      | .ok next => (c ()).run ⟨next⟩
      | .error fault => (.error fault, ⟨t⟩) := by
  cases hstep : f t with
  | ok next => rw [run_bind_ok (run_step_ok hstep)]
  | error fault => rw [run_bind_error (run_step_error hstep)]

end Change

/-! ### Trees after a change of one folder -/

section Update

variable {t next : FileTree} {held : Contents} {repo folder : String}

/-- The trees differ at most below a folder, which has its repository around it. -/
structure Apart (t next : FileTree) (repo folder : String) : Prop where
  distinct : next.Distinct
  top : next.find? [repo] = some .folder
  outside : ∀ path, ¬ [repo, folder] <+: path → path ≠ [] → path ≠ [repo] →
    next.find? path = t.find? path

theorem Contents.set_self (held : Contents) (repo folder : String) (found : Option Snapshot) :
    held.set repo folder found repo folder = found := by
  rw [Contents.set, if_pos ⟨rfl, rfl⟩]

theorem Contents.set_other {r f : String} (found : Option Snapshot)
    (h : ¬ (r = repo ∧ f = folder)) : held.set repo folder found r f = held r f := by
  rw [Contents.set, if_neg h]

theorem Apart.below {r f : String} (h : Apart t next repo folder)
    (hother : ¬ (r = repo ∧ f = folder)) :
    next.find? [r, f] = t.find? [r, f] ∧
      ∀ name, next.find? [r, f, name] = t.find? [r, f, name] := by
  have hbelow : ∀ rest, ¬ [repo, folder] <+: r :: f :: rest := by
    rintro rest ⟨tail, heq⟩
    simp only [List.cons_append, List.nil_append, List.cons.injEq] at heq
    exact hother ⟨heq.1.symm, heq.2.1.symm⟩
  refine ⟨h.outside _ (hbelow []) (by simp) (by simp), ?_⟩
  intro name
  exact h.outside _ (hbelow [name]) (by simp) (by simp)

theorem Apart.find?_top {r : String} (h : Apart t next repo folder) (hother : r ≠ repo) :
    next.find? [r] = t.find? [r] := by
  refine h.outside _ ?_ (by simp) (by simpa using hother)
  rintro ⟨tail, heq⟩
  simp at heq

/-- A change of one folder leaves the others with what they held. -/
theorem Shelved.update (h : Shelved t held) (happart : Apart t next repo folder)
    {found : Option Snapshot}
    (hvacant : found = none → Vacant next repo folder)
    (hoccupied : ∀ s, found = some s → Occupied next repo folder s ∧ Shelves repo folder s) :
    Shelved next (held.set repo folder found) where
  distinct := happart.distinct
  top := by
    intro r
    by_cases hr : r = repo
    · rw [hr]
      exact Or.inr happart.top
    · rw [happart.find?_top hr]
      exact h.top r
  bare := by
    intro r hnone f
    have hr : r ≠ repo := by
      rintro rfl
      rw [happart.top] at hnone
      cases hnone
    rw [happart.find?_top hr] at hnone
    rw [(happart.below (fun hsame => hr hsame.1)).1]
    exact h.bare r hnone f
  vacant := by
    intro r f hheld
    by_cases hsame : r = repo ∧ f = folder
    · obtain ⟨rfl, rfl⟩ := hsame
      rw [Contents.set_self] at hheld
      exact hvacant hheld
    · rw [Contents.set_other found hsame] at hheld
      obtain ⟨hfolder, hbelow⟩ := happart.below hsame
      simp only [Vacant, hfolder, hbelow]
      exact h.vacant r f hheld
  occupied := by
    intro r f s hheld
    by_cases hsame : r = repo ∧ f = folder
    · obtain ⟨rfl, rfl⟩ := hsame
      rw [Contents.set_self] at hheld
      exact (hoccupied s hheld).1
    · rw [Contents.set_other found hsame] at hheld
      obtain ⟨hfolder, hbelow⟩ := happart.below hsame
      simp only [Occupied, hfolder, hbelow]
      exact h.occupied r f s hheld
  shelves := by
    intro r f s hheld
    by_cases hsame : r = repo ∧ f = folder
    · obtain ⟨rfl, rfl⟩ := hsame
      rw [Contents.set_self] at hheld
      exact (hoccupied s hheld).2
    · rw [Contents.set_other found hsame] at hheld
      exact h.shelves r f s hheld

/-- Nothing of what is held lies in a folder where nothing can lie. -/
theorem Contents.set_none (h : held repo folder = none) : held.set repo folder none = held := by
  funext r f
  by_cases hsame : r = repo ∧ f = folder
  · obtain ⟨rfl, rfl⟩ := hsame
    rw [Contents.set_self, h]
  · rw [Contents.set_other none hsame]

end Update

end Store

end RepoAtlas
