import RepoAtlas.CommandLine.Run

/-!
What the steps of a command do to its session. Each step has one lemma, and commands are followed
step by step with these.
-/
namespace RepoAtlas.CommandLine

def Session.say (s : Session) (lines : List String) : Session :=
  { s with printed := s.printed ++ lines }

namespace Steps

variable {α β : Type} {s t : Session}

/-- How steps end, and the session after them. -/
def outcome (x : Steps α) (s : Session) : Except Ending α × Session :=
  StateT.run (ExceptT.run x) s

/-! ### One after the other -/

theorem outcome_pure (a : α) (s : Session) : outcome (pure a) s = (.ok a, s) := rfl

theorem outcome_bind (x : Steps α) (f : α → Steps β) (s : Session) :
    outcome (x >>= f) s = match outcome x s with
      | (.ok a, t) => outcome (f a) t
      | (.error e, t) => (.error e, t) := by
  have hsteps : outcome (x >>= f) s = ExceptT.bindCont f (outcome x s).1 (outcome x s).2 := rfl
  rw [hsteps]
  rcases outcome x s with ⟨_ | _, t⟩ <;> rfl

theorem outcome_bind_ok {x : Steps α} {f : α → Steps β} {a : α} (h : outcome x s = (.ok a, t)) :
    outcome (x >>= f) s = outcome (f a) t := by
  rw [outcome_bind, h]

theorem outcome_bind_error {x : Steps α} {f : α → Steps β} {e : Ending}
    (h : outcome x s = (.error e, t)) : outcome (x >>= f) s = (.error e, t) := by
  rw [outcome_bind, h]

/-! ### Asking -/

theorem outcome_desk (s : Session) : outcome desk s = (.ok s.desk, s) := rfl

theorem outcome_orFail_ok {r : Result α} {a : α} (h : r = .ok a) (s : Session) :
    outcome (orFail r) s = (.ok a, s) := by
  rw [h]
  rfl

theorem outcome_orMisuse (r : Result α) (s : Session) : outcome (orMisuse r) s = match r with
    | .ok a => (.ok a, s)
    | .error fault => (.error (if fault.isBadValue then .misused else .failed), s) := by
  cases r <;> rfl

/-! ### Printing -/

theorem outcome_say (line : String) (s : Session) :
    outcome (say line) s = (.ok (), s.say [line]) := rfl

theorem outcome_sayAll (lines : List String) (s : Session) :
    outcome (sayAll lines) s = (.ok (), s.say lines) := by
  induction lines generalizing s with
  | nil =>
    rw [Session.say, List.append_nil]
    rfl
  | cons line rest ih =>
    have hsteps : sayAll (line :: rest) = (say line >>= fun _ => sayAll rest) := rfl
    rw [hsteps, outcome_bind_ok (outcome_say line s), ih]
    simp [Session.say]

/-- What a marked-up text is on a page, if its tags are in order. -/
def pageLines? (page : Nat) (marked : String) : Option (List String) :=
  (Report.Markup.plain? marked).map
    (fun plain => (Report.wrap page .fold .loose plain).map String.ofList)

theorem outcome_sayMarked (marked : String) (s : Session) :
    outcome (sayMarked marked) s = match pageLines? s.desk.page marked with
      | some lines => (.ok (), s.say lines)
      | none => (.error .failed, s) := by
  rw [sayMarked, pageLines?]
  cases Report.Markup.plain? marked with
  | none => rfl
  | some plain =>
    have hplain : outcome (given .failed (some plain)) s = (.ok plain, s) := rfl
    rw [outcome_bind_ok hplain, outcome_bind_ok (outcome_desk s), outcome_sayAll]
    rfl

/-- Steps that leave the desk as it is, and can only fail. -/
structure Prints (x : Steps α) : Prop where
  desk : ∀ s, (outcome x s).2.desk = s.desk
  fails : ∀ s e, (outcome x s).1 = .error e → e = .failed

theorem prints_pure (a : α) : Prints (pure a : Steps α) :=
  ⟨fun _ => rfl, fun _ _ h => by cases h⟩

theorem prints_throw : Prints (throw .failed : Steps α) :=
  ⟨fun _ => rfl, fun _ _ h => (Except.error.inj h).symm⟩

theorem prints_sayMarked (marked : String) : Prints (sayMarked marked) := by
  constructor
  · intro s
    rw [outcome_sayMarked]
    split <;> rfl
  · intro s e h
    rw [outcome_sayMarked] at h
    split at h
    · cases h
    · exact (Except.error.inj h).symm

theorem Prints.bind {x : Steps α} {f : α → Steps β} (hx : Prints x) (hf : ∀ a, Prints (f a)) :
    Prints (x >>= f) := by
  constructor
  · intro s
    have hfirst := hx.desk s
    rw [outcome_bind]
    split
    next a t hstep => rw [(hf a).desk, ← hfirst, hstep]
    next e t hstep => rw [← hfirst, hstep]
  · intro s e h
    rw [outcome_bind] at h
    split at h
    next a t hstep => exact (hf a).fails t e h
    next other t hstep =>
      refine hx.fails s e ?_
      rw [hstep]
      exact congrArg Except.error (Except.error.inj h)

end Steps

open Steps

/-! ### Commands -/

theorem outcome_atlas {s : Session} {settings : Settings}
    (h : s.desk.settings.settings = .ok settings) :
    outcome atlas s = (.ok { store := s.desk.store, settings }, s) := by
  rw [atlas, outcome_bind_ok (outcome_desk s), outcome_bind_ok (outcome_orFail_ok h s),
    outcome_pure]

theorem prints_sayMiss (n : NotFound) : Prints (sayMiss n) := by
  refine (prints_sayMarked _).bind fun _ => ?_
  split
  · exact prints_sayMarked _
  · exact prints_pure ()

/-- A miss fails a command, whether or not it can be told. -/
theorem outcome_found_miss {α : Type} (n : NotFound) (s : Session) :
    ∃ t, outcome (found (.error n) : Steps α) s = (.error .failed, t) ∧ t.desk = s.desk := by
  have hprints : Prints (found (.error n) : Steps α) :=
    (prints_sayMiss n).bind fun _ => prints_throw
  have hstops : ∀ a, (outcome (found (.error n) : Steps α) s).1 ≠ .ok a := by
    intro a h
    rw [found, outcome_bind] at h
    split at h <;> cases h
  have hdesk := hprints.desk s
  have hfails := hprints.fails s
  generalize outcome (found (.error n) : Steps α) s = result at hstops hdesk hfails
  obtain ⟨answer | answer, t⟩ := result
  · exact ⟨t, by rw [hfails answer rfl], hdesk⟩
  · exact absurd rfl (hstops answer)

theorem run_of_ofWords? {ws : List String} {c : Command} (d : Desk)
    (h : Command.ofWords? ws = some c) : run ws d =
      (⟨(outcome (runCommand c) { desk := d }).2.output,
        endingOf (outcome (runCommand c) { desk := d }).1⟩,
        (outcome (runCommand c) { desk := d }).2.desk) := by
  rw [run, h]
  rfl

end RepoAtlas.CommandLine
