import Mathlib.Data.List.Forall2
import RepoAtlas.Fault

/-!
How a computation that may fail came to its result: what its parts gave, one after the other.
-/
namespace RepoAtlas

variable {α β : Type}

theorem bind_eq_ok_iff {x : Result α} {f : α → Result β} {b : β} :
    (x >>= f) = .ok b ↔ ∃ a, x = .ok a ∧ f a = .ok b := by
  cases x with
  | error e => simp [bind, Except.bind]
  | ok a => simp [bind, Except.bind]

theorem pure_eq_ok_iff {a b : α} : (pure a : Result α) = .ok b ↔ a = b := by
  simp [pure, Except.pure]

theorem bind_eq_error_iff {x : Result α} {f : α → Result β} {fault : Fault} :
    (x >>= f) = .error fault ↔ x = .error fault ∨ ∃ a, x = .ok a ∧ f a = .error fault := by
  cases x with
  | error e => simp [bind, Except.bind]
  | ok a => simp [bind, Except.bind]

/-- A list is mapped if every item is. -/
theorem mapM_cons_eq_ok_iff {f : α → Result β} {x : α} {xs : List α} {ys : List β} :
    (x :: xs).mapM f = .ok ys ↔
      ∃ y, f x = .ok y ∧ ∃ rest, xs.mapM f = .ok rest ∧ y :: rest = ys := by
  rw [List.mapM_cons]
  simp only [bind_eq_ok_iff, pure_eq_ok_iff]

theorem mem_of_mapM_eq_ok {f : α → Result β} {xs : List α} {ys : List β}
    (h : xs.mapM f = .ok ys) {y : β} (hy : y ∈ ys) : ∃ x ∈ xs, f x = .ok y := by
  induction xs generalizing ys with
  | nil =>
    rw [List.mapM_nil, pure_eq_ok_iff] at h
    subst h
    simp at hy
  | cons x rest ih =>
    obtain ⟨z, hz, zs, hzs, rfl⟩ := mapM_cons_eq_ok_iff.1 h
    rcases List.mem_cons.1 hy with rfl | hy
    · exact ⟨x, List.mem_cons_self, hz⟩
    · obtain ⟨w, hw, hf⟩ := ih hzs hy
      exact ⟨w, List.mem_cons_of_mem x hw, hf⟩

theorem mem_of_filterMapM_eq_ok {f : α → Result (Option β)} {xs : List α} {ys : List β}
    (h : xs.filterMapM f = .ok ys) {y : β} (hy : y ∈ ys) : ∃ x ∈ xs, f x = .ok (some y) := by
  induction xs generalizing ys with
  | nil =>
    rw [List.filterMapM_nil, pure_eq_ok_iff] at h
    rw [← h] at hy
    cases hy
  | cons x rest ih =>
    rw [List.filterMapM_cons] at h
    obtain ⟨found, hfound, h⟩ := bind_eq_ok_iff.1 h
    cases found with
    | none =>
      obtain ⟨w, hw, hfw⟩ := ih h hy
      exact ⟨w, List.mem_cons_of_mem x hw, hfw⟩
    | some first =>
      obtain ⟨later, hlater, h⟩ := bind_eq_ok_iff.1 h
      obtain rfl := pure_eq_ok_iff.1 h
      rcases List.mem_cons.1 hy with rfl | hy
      · exact ⟨x, List.mem_cons_self, hfound⟩
      · obtain ⟨w, hw, hfw⟩ := ih hlater hy
        exact ⟨w, List.mem_cons_of_mem x hw, hfw⟩

theorem exists_mem_of_mapM_eq_ok {f : α → Result β} {xs : List α} {ys : List β}
    (h : xs.mapM f = .ok ys) {x : α} (hx : x ∈ xs) : ∃ y ∈ ys, f x = .ok y := by
  induction xs generalizing ys with
  | nil => simp at hx
  | cons w rest ih =>
    obtain ⟨z, hz, zs, hzs, rfl⟩ := mapM_cons_eq_ok_iff.1 h
    rcases List.mem_cons.1 hx with rfl | hx
    · exact ⟨z, List.mem_cons_self, hz⟩
    · obtain ⟨y, hy, hf⟩ := ih hzs hx
      exact ⟨y, List.mem_cons_of_mem z hy, hf⟩

/-- What each result has from its item, the results have from the items. -/
theorem map_eq_of_mapM_eq_ok {γ : Type} {f : α → Result β} {g : β → γ} {k : α → γ}
    (hf : ∀ x y, f x = .ok y → g y = k x) {xs : List α} {ys : List β}
    (h : xs.mapM f = .ok ys) : ys.map g = xs.map k := by
  induction xs generalizing ys with
  | nil =>
    rw [List.mapM_nil, pure_eq_ok_iff] at h
    rw [← h]
    rfl
  | cons x rest ih =>
    obtain ⟨y, hy, zs, hzs, rfl⟩ := mapM_cons_eq_ok_iff.1 h
    rw [List.map_cons, List.map_cons, hf x y hy, ih hzs]

theorem exists_mapM_eq_ok {f : α → Result β} {xs : List α} (h : ∀ x ∈ xs, ∃ y, f x = .ok y) :
    ∃ ys, xs.mapM f = .ok ys := by
  induction xs with
  | nil => exact ⟨[], rfl⟩
  | cons x rest ih =>
    obtain ⟨y, hy⟩ := h x List.mem_cons_self
    obtain ⟨ys, hys⟩ := ih (fun z hz => h z (List.mem_cons_of_mem x hz))
    exact ⟨y :: ys, mapM_cons_eq_ok_iff.2 ⟨y, hy, ys, hys, rfl⟩⟩

theorem exists_bind_iff {x : Result α} {f : α → Result β} :
    (∃ b, (x >>= f) = .ok b) ↔ ∃ a, x = .ok a ∧ ∃ b, f a = .ok b := by
  simp only [bind_eq_ok_iff]
  constructor
  · rintro ⟨b, a, ha, hb⟩
    exact ⟨a, ha, b, hb⟩
  · rintro ⟨a, ha, b, hb⟩
    exact ⟨b, a, ha, hb⟩

theorem exists_mapM_iff {f : α → Result β} {xs : List α} :
    (∃ ys, xs.mapM f = .ok ys) ↔ ∀ x ∈ xs, ∃ y, f x = .ok y := by
  constructor
  · rintro ⟨ys, hys⟩ x hx
    obtain ⟨y, -, hy⟩ := exists_mem_of_mapM_eq_ok hys hx
    exact ⟨y, hy⟩
  · exact exists_mapM_eq_ok

/-- A loop ends if each step does, whatever was found before. -/
theorem exists_foldlM_iff {σ : Type} {f : σ → α → Result σ} {p : α → Prop} {xs : List α}
    (hstep : ∀ s, ∀ x ∈ xs, (∃ t, f s x = .ok t) ↔ p x) (s : σ) :
    (∃ t, xs.foldlM f s = .ok t) ↔ ∀ x ∈ xs, p x := by
  induction xs generalizing s with
  | nil => exact iff_of_true ⟨s, rfl⟩ fun _ hx => absurd hx List.not_mem_nil
  | cons x rest ih =>
    have hrest := ih fun s y hy => hstep s y (List.mem_cons_of_mem x hy)
    rw [List.foldlM_cons, exists_bind_iff, List.forall_mem_cons, ← hstep s x List.mem_cons_self]
    constructor
    · rintro ⟨t, ht, h⟩
      exact ⟨⟨t, ht⟩, (hrest t).1 h⟩
    · rintro ⟨⟨t, ht⟩, h⟩
      exact ⟨t, ht, (hrest t).2 h⟩

theorem mapM_eq_ok_map {f : α → Result β} {g : α → β} {xs : List α}
    (h : ∀ x ∈ xs, f x = .ok (g x)) : xs.mapM f = .ok (xs.map g) := by
  induction xs with
  | nil => rfl
  | cons x rest ih =>
    have hrest := ih (fun z hz => h z (List.mem_cons_of_mem x hz))
    exact mapM_cons_eq_ok_iff.2 ⟨g x, h x List.mem_cons_self, rest.map g, hrest, rfl⟩

theorem forall₂_of_mapM_eq_ok {f : α → Result β} {xs : List α} {ys : List β}
    (h : xs.mapM f = .ok ys) : List.Forall₂ (fun x y => f x = .ok y) xs ys := by
  induction xs generalizing ys with
  | nil =>
    rw [List.mapM_nil, pure_eq_ok_iff] at h
    rw [← h]
    exact .nil
  | cons x rest ih =>
    obtain ⟨y, hy, zs, hzs, rfl⟩ := mapM_cons_eq_ok_iff.1 h
    exact .cons hy (ih hzs)

theorem mapM_eq_ok_iff_forall₂ {f : α → Result β} {xs : List α} {ys : List β} :
    xs.mapM f = .ok ys ↔ List.Forall₂ (fun x y => f x = .ok y) xs ys := by
  refine ⟨forall₂_of_mapM_eq_ok, fun h => ?_⟩
  induction h with
  | nil => rfl
  | cons hy _ ih => exact mapM_cons_eq_ok_iff.2 ⟨_, hy, _, ih, rfl⟩

theorem exists_mem_of_forall₂ {R : α → β → Prop} {xs : List α} {ys : List β}
    (h : List.Forall₂ R xs ys) {x : α} (hx : x ∈ xs) : ∃ y ∈ ys, R x y := by
  induction h with
  | nil => cases hx
  | @cons _ y _ _ hr _ ih =>
    rcases List.mem_cons.1 hx with rfl | hx
    · exact ⟨y, List.mem_cons_self, hr⟩
    · obtain ⟨z, hz, hrz⟩ := ih hx
      exact ⟨z, List.mem_cons_of_mem y hz, hrz⟩

theorem forall₂_mem {R : α → β → Prop} {xs : List α} {ys : List β} (h : List.Forall₂ R xs ys) :
    List.Forall₂ (fun x y => (x ∈ xs ∧ y ∈ ys) ∧ R x y) xs ys := by
  rw [List.forall₂_iff_zip] at h ⊢
  exact ⟨h.1, fun hpair => ⟨List.of_mem_zip hpair, h.2 hpair⟩⟩

theorem forall_iff_of_forall₂ {R : α → β → Prop} {p : α → Prop} {q : β → Prop}
    {xs : List α} {ys : List β} (h : List.Forall₂ R xs ys) (hpq : ∀ x y, R x y → (p x ↔ q y)) :
    (∀ x ∈ xs, p x) ↔ ∀ y ∈ ys, q y := by
  induction h with
  | nil =>
    refine iff_of_true (fun _ hx => ?_) (fun _ hy => ?_)
    · cases hx
    · cases hy
  | cons hfirst _ ih => rw [List.forall_mem_cons, List.forall_mem_cons, hpq _ _ hfirst, ih]

/-- The results of related items are those of the others. -/
theorem map_eq_of_forall₂ {γ : Type} {R : α → β → Prop} {f : α → γ} {g : β → γ} {xs : List α}
    {ys : List β} (h : List.Forall₂ R xs ys) (heq : ∀ x y, R x y → g y = f x) :
    ys.map g = xs.map f := by
  induction h with
  | nil => rfl
  | cons hfirst _ ih => rw [List.map_cons, List.map_cons, heq _ _ hfirst, ih]

/-- Where each result has a counterpart of another function, so have the results of a list. -/
theorem exists_mapM_related {γ : Type} {R : β → γ → Prop} {f : α → Result β} {f' : α → Result γ}
    {xs : List α} {ys' : List γ}
    (hstep : ∀ x ∈ xs, ∀ y', f' x = .ok y' → ∃ y, f x = .ok y ∧ R y y')
    (h : xs.mapM f' = .ok ys') : ∃ ys, xs.mapM f = .ok ys ∧ List.Forall₂ R ys ys' := by
  induction xs generalizing ys' with
  | nil =>
    rw [List.mapM_nil, pure_eq_ok_iff] at h
    rw [← h]
    exact ⟨[], rfl, .nil⟩
  | cons x rest ih =>
    obtain ⟨y', hy', zs', hzs', rfl⟩ := mapM_cons_eq_ok_iff.1 h
    obtain ⟨y, hy, hrel⟩ := hstep x List.mem_cons_self y' hy'
    obtain ⟨zs, hzs, hrest⟩ := ih (fun z hz => hstep z (List.mem_cons_of_mem x hz)) hzs'
    exact ⟨y :: zs, mapM_cons_eq_ok_iff.2 ⟨y, hy, zs, hzs, rfl⟩, .cons hrel hrest⟩

theorem mapM_map_result {γ : Type} (f : β → γ) (g : α → Result β) (xs : List α) :
    xs.mapM (fun x => f <$> g x) = List.map f <$> xs.mapM g := by
  induction xs with
  | nil => rfl
  | cons x rest ih =>
    rw [List.mapM_cons, List.mapM_cons, ih]
    cases g x with
    | error fault => rfl
    | ok y => cases rest.mapM g <;> rfl

/-- Lists that are mapped one after the other are mapped as one list. -/
theorem mapM_flatMap {γ : Type} (f : β → Result γ) (parts : α → List β) (xs : List α) :
    (xs.flatMap parts).mapM f = (do
      let found ← xs.mapM (fun x => (parts x).mapM f)
      return found.flatten) := by
  induction xs with
  | nil => rfl
  | cons x rest ih =>
    rw [List.flatMap_cons, List.mapM_append, List.mapM_cons, ih]
    cases (parts x).mapM f with
    | error e => rfl
    | ok ys =>
      cases rest.mapM (fun x => (parts x).mapM f) <;> rfl

theorem exists_mem_of_mapM_eq_error {f : α → Result β} {xs : List α} {fault : Fault}
    (h : xs.mapM f = .error fault) : ∃ x ∈ xs, f x = .error fault := by
  induction xs with
  | nil => cases h
  | cons x rest ih =>
    rw [List.mapM_cons] at h
    cases hx : f x with
    | error e =>
      rw [hx] at h
      cases h
      exact ⟨x, List.mem_cons_self, hx⟩
    | ok y =>
      cases hrest : rest.mapM f with
      | error e =>
        rw [hx, hrest] at h
        cases h
        obtain ⟨z, hz, he⟩ := ih hrest
        exact ⟨z, List.mem_cons_of_mem x hz, he⟩
      | ok ys =>
        rw [hx, hrest] at h
        cases h

/-- A list fails as the first of its items that does. -/
theorem mapM_eq_error_iff {f : α → Result β} {xs : List α} {fault : Fault} :
    xs.mapM f = .error fault ↔ ∃ earlier x later, xs = earlier ++ x :: later ∧
      (∀ w ∈ earlier, ∃ y, f w = .ok y) ∧ f x = .error fault := by
  constructor
  · intro h
    induction xs with
    | nil => cases h
    | cons x rest ih =>
      rw [List.mapM_cons] at h
      rcases bind_eq_error_iff.1 h with hfirst | ⟨y, hy, h⟩
      · exact ⟨[], x, rest, rfl, fun w hw => absurd hw List.not_mem_nil, hfirst⟩
      · rcases bind_eq_error_iff.1 h with hrest | ⟨_, -, hdone⟩
        · obtain ⟨earlier, z, later, rfl, hearlier, hz⟩ := ih hrest
          exact ⟨x :: earlier, z, later, rfl, List.forall_mem_cons.2 ⟨⟨y, hy⟩, hearlier⟩, hz⟩
        · cases hdone
  · rintro ⟨earlier, x, later, rfl, hearlier, hx⟩
    obtain ⟨ys, hys⟩ := exists_mapM_eq_ok hearlier
    rw [List.mapM_append, hys, List.mapM_cons, hx]
    rfl

/-- Where there is one way to fail only, a list fails that way if an item does. -/
theorem mapM_eq_error {f : α → Result β} {xs : List α} {fault : Fault}
    (hone : ∀ x ∈ xs, ∀ e, f x = .error e → e = fault) (h : ∃ x ∈ xs, ∃ e, f x = .error e) :
    xs.mapM f = .error fault := by
  cases hmap : xs.mapM f with
  | ok ys =>
    obtain ⟨x, hx, e, he⟩ := h
    obtain ⟨y, -, hy⟩ := exists_mem_of_mapM_eq_ok hmap hx
    rw [hy] at he
    cases he
  | error e =>
    obtain ⟨x, hx, he⟩ := exists_mem_of_mapM_eq_error hmap
    rw [hone x hx e he]

/-- Where items fail in one way only, the list fails if one of them does, and is mapped if none
does. -/
theorem mapM_cases {f : α → Result β} {g : α → β} {p : α → Prop} {fault : Fault} {xs : List α}
    (h : ∀ x ∈ xs, p x ∧ f x = .error fault ∨ ¬ p x ∧ f x = .ok (g x)) :
    (∃ x ∈ xs, p x) ∧ xs.mapM f = .error fault ∨
      (∀ x ∈ xs, ¬ p x) ∧ xs.mapM f = .ok (xs.map g) := by
  by_cases hbad : ∃ x ∈ xs, p x
  · refine Or.inl ⟨hbad, mapM_eq_error ?_ ?_⟩
    · intro x hx other hother
      rcases h x hx with ⟨-, hfails⟩ | ⟨-, hgood⟩
      · rw [hfails] at hother
        exact (Except.error.inj hother).symm
      · rw [hgood] at hother
        cases hother
    · obtain ⟨x, hx, hp⟩ := hbad
      exact ⟨x, hx, fault, ((h x hx).resolve_right fun hgood => hgood.1 hp).2⟩
  · have hgood : ∀ x ∈ xs, ¬ p x := fun x hx hp => hbad ⟨x, hx, hp⟩
    exact Or.inr ⟨hgood, mapM_eq_ok_map fun x hx =>
      ((h x hx).resolve_left fun hfails => hgood x hx hfails.1).2⟩

/-- The results of a list in another order are its results in another order. -/
theorem mapM_perm {f : α → Result β} {xs ws : List α} (hperm : xs.Perm ws) {ys : List β}
    (h : xs.mapM f = .ok ys) : ∃ zs, ws.mapM f = .ok zs ∧ ys.Perm zs := by
  induction hperm generalizing ys with
  | nil => exact ⟨ys, h, List.Perm.refl _⟩
  | cons x _ ih =>
    obtain ⟨y, hy, rest, hrest, rfl⟩ := mapM_cons_eq_ok_iff.1 h
    obtain ⟨zs, hzs, hsame⟩ := ih hrest
    exact ⟨y :: zs, mapM_cons_eq_ok_iff.2 ⟨y, hy, zs, hzs, rfl⟩, hsame.cons y⟩
  | swap x w _ =>
    obtain ⟨y, hy, rest, hrest, rfl⟩ := mapM_cons_eq_ok_iff.1 h
    obtain ⟨z, hz, zs, hzs, rfl⟩ := mapM_cons_eq_ok_iff.1 hrest
    have hback := mapM_cons_eq_ok_iff.2 ⟨y, hy, zs, hzs, rfl⟩
    exact ⟨z :: y :: zs, mapM_cons_eq_ok_iff.2 ⟨z, hz, y :: zs, hback, rfl⟩, List.Perm.swap _ _ _⟩
  | trans _ _ ih₁ ih₂ =>
    obtain ⟨zs, hzs, hfirst⟩ := ih₁ h
    obtain ⟨vs, hvs, hsecond⟩ := ih₂ hzs
    exact ⟨vs, hvs, hfirst.trans hsecond⟩

/-! ### Two computations -/

/-- The same fault, or related results. -/
inductive SameOutcome (R : α → β → Prop) : Result α → Result β → Prop
  | error (fault : Fault) : SameOutcome R (.error fault) (.error fault)
  | ok {a : α} {b : β} (h : R a b) : SameOutcome R (.ok a) (.ok b)

namespace SameOutcome

variable {γ δ : Type} {R : α → β → Prop} {S : γ → δ → Prop} {x : Result α} {y : Result β}

theorem refl {R : α → α → Prop} (hrefl : ∀ a, R a a) (x : Result α) : SameOutcome R x x := by
  cases x with
  | error fault => exact .error fault
  | ok a => exact .ok (hrefl a)

theorem eq {x y : Result α} (h : SameOutcome Eq x y) : x = y := by
  cases h with
  | error fault => rfl
  | ok h => rw [h]

theorem bind {f : α → Result γ} {g : β → Result δ} (h : SameOutcome R x y)
    (hrest : ∀ a b, R a b → SameOutcome S (f a) (g b)) : SameOutcome S (x >>= f) (y >>= g) := by
  cases h with
  | error fault => exact .error fault
  | ok h => exact hrest _ _ h

/-- Computations that begin alike. -/
theorem bind_self {f : α → Result γ} {g : α → Result δ}
    (hrest : ∀ a, x = .ok a → SameOutcome S (f a) (g a)) : SameOutcome S (x >>= f) (x >>= g) := by
  cases x with
  | error fault => exact .error fault
  | ok a => exact hrest a rfl

theorem bind_eq {f : α → Result γ} {g : β → Result γ} (h : SameOutcome R x y)
    (hrest : ∀ a b, R a b → f a = g b) : (x >>= f) = (y >>= g) := by
  cases h with
  | error fault => rfl
  | ok h => exact hrest _ _ h

theorem mapM {f : α → Result γ} {g : β → Result δ} {xs : List α} {ys : List β}
    (h : List.Forall₂ R xs ys) (hitem : ∀ a b, R a b → SameOutcome S (f a) (g b)) :
    SameOutcome (List.Forall₂ S) (xs.mapM f) (ys.mapM g) := by
  induction h with
  | nil => exact .ok .nil
  | cons hfirst _ ih =>
    rw [List.mapM_cons, List.mapM_cons]
    exact (hitem _ _ hfirst).bind fun _ _ hcd => ih.bind fun _ _ hrest => .ok (.cons hcd hrest)

end SameOutcome

theorem mapM_congr_forall₂ {γ : Type} {R : α → β → Prop} {f : α → Result γ} {g : β → Result γ}
    {xs : List α} {ys : List β} (h : List.Forall₂ R xs ys) (hitem : ∀ a b, R a b → f a = g b) :
    xs.mapM f = ys.mapM g := by
  induction h with
  | nil => rfl
  | cons hfirst _ ih => rw [List.mapM_cons, List.mapM_cons, hitem _ _ hfirst, ih]

theorem foldlM_congr_forall₂ {σ : Type} {R : α → β → Prop} {f : σ → α → Result σ}
    {g : σ → β → Result σ} {xs : List α} {ys : List β} (h : List.Forall₂ R xs ys)
    (hstep : ∀ s a b, R a b → f s a = g s b) (s : σ) : xs.foldlM f s = ys.foldlM g s := by
  induction h generalizing s with
  | nil => rfl
  | cons hfirst _ ih =>
    rw [List.foldlM_cons, List.foldlM_cons, hstep _ _ _ hfirst]
    exact bind_congr ih

end RepoAtlas
