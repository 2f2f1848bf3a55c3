import Mathlib.Data.List.Forall2
import Mathlib.Data.List.Nodup
import Mathlib.Data.Nat.Basic
import Mathlib.Data.Prod.Basic

/-!
Lists that hold just what stands under the keys of a relation, once for each key. Such lists are put
together from those of the parts of a structure.
-/
namespace RepoAtlas

variable {α β κ ι : Type}

theorem forall₂_map_self {R : α → β → Prop} {f : α → β} {xs : List α}
    (h : ∀ x ∈ xs, R x (f x)) : List.Forall₂ R xs (xs.map f) :=
  List.forall₂_map_right_iff.2 (List.forall₂_same.2 h)

/-- The items are what stands under the keys, and no key is used twice. -/
def ListsEach (stands : κ → β → Prop) (items : List β) : Prop :=
  ∃ entries : List (κ × β), (entries.map Prod.fst).Nodup ∧
    (∀ k b, (k, b) ∈ entries ↔ stands k b) ∧ entries.map Prod.snd = items

namespace ListsEach

variable {P Q : κ → β → Prop} {items later : List β}

theorem congr (h : ListsEach P items) (hiff : ∀ k b, P k b ↔ Q k b) : ListsEach Q items := by
  obtain ⟨entries, hkeys, hmem, hitems⟩ := h
  exact ⟨entries, hkeys, fun k b => (hmem k b).trans (hiff k b), hitems⟩

theorem nil (h : ∀ k b, ¬ P k b) : ListsEach P [] :=
  ⟨[], List.nodup_nil, fun k b => iff_of_false List.not_mem_nil (h k b), rfl⟩

/-- One key at most. -/
theorem option (key : κ) (found : Option β) :
    ListsEach (fun k b => k = key ∧ found = some b) found.toList := by
  cases found with
  | none => exact nil fun _ _ h => nomatch h.2
  | some b =>
    refine ⟨[(key, b)], List.nodup_singleton _, fun k c => ?_, rfl⟩
    simp only [List.mem_singleton, Prod.mk.injEq, Option.some.injEq, @eq_comm _ c]

theorem append (hP : ListsEach P items) (hQ : ListsEach Q later)
    (hapart : ∀ k b c, P k b → ¬ Q k c) :
    ListsEach (fun k b => P k b ∨ Q k b) (items ++ later) := by
  obtain ⟨entries, hkeys, hmem, rfl⟩ := hP
  obtain ⟨rest, hrestKeys, hrest, rfl⟩ := hQ
  refine ⟨entries ++ rest, ?_, fun k b => ?_, List.map_append⟩
  · rw [List.map_append]
    refine List.Nodup.append hkeys hrestKeys fun k hk hother => ?_
    obtain ⟨⟨_, b⟩, hb, rfl⟩ := List.mem_map.1 hk
    obtain ⟨⟨_, c⟩, hc, rfl⟩ := List.mem_map.1 hother
    exact hapart _ b c ((hmem _ b).1 hb) ((hrest _ c).1 hc)
  · rw [List.mem_append, hmem, hrest]

/-- The keys may be renamed. -/
theorem rekey (h : ListsEach P items) {f : κ → ι} (hf : Function.Injective f) :
    ListsEach (fun i b => ∃ k, f k = i ∧ P k b) items := by
  obtain ⟨entries, hkeys, hmem, rfl⟩ := h
  refine ⟨entries.map (Prod.map f id), ?_, fun i b => ?_, ?_⟩
  · have hfirsts : (entries.map (Prod.map f id)).map Prod.fst = (entries.map Prod.fst).map f := by
      rw [List.map_map, List.map_map]
      rfl
    rw [hfirsts]
    exact hkeys.map hf
  · rw [List.mem_map]
    constructor
    · rintro ⟨⟨k, c⟩, hentry, heq⟩
      obtain ⟨rfl, rfl⟩ := Prod.mk.inj heq
      exact ⟨k, rfl, (hmem k _).1 hentry⟩
    · rintro ⟨k, rfl, hstands⟩
      exact ⟨(k, b), (hmem k b).2 hstands, rfl⟩
  · rw [List.map_map]
    rfl

/-- Some of the items, turned into others. -/
theorem filterMap (h : ListsEach P items) (f : β → Option α) :
    ListsEach (fun k a => ∃ b, P k b ∧ f b = some a) (items.filterMap f) := by
  obtain ⟨entries, hkeys, hmem, rfl⟩ := h
  refine ⟨entries.filterMap fun e => (f e.2).map (e.1, ·), ?_, fun k a => ?_, ?_⟩
  · rw [List.Nodup, List.pairwise_map] at hkeys ⊢
    rw [List.pairwise_filterMap]
    refine hkeys.imp fun hne a ha b hb => ?_
    obtain ⟨x, -, rfl⟩ := Option.map_eq_some_iff.1 ha
    obtain ⟨y, -, rfl⟩ := Option.map_eq_some_iff.1 hb
    exact hne
  · rw [List.mem_filterMap]
    constructor
    · rintro ⟨⟨j, b⟩, hentry, heq⟩
      obtain ⟨c, hc, hpair⟩ := Option.map_eq_some_iff.1 heq
      obtain ⟨rfl, rfl⟩ := Prod.mk.inj hpair
      exact ⟨b, (hmem _ b).1 hentry, hc⟩
    · rintro ⟨b, hstands, hb⟩
      exact ⟨(k, b), (hmem k b).2 hstands, Option.map_eq_some_iff.2 ⟨a, hb, rfl⟩⟩
  · rw [List.map_filterMap, List.filterMap_map]
    refine List.filterMap_congr fun e _ => ?_
    cases hfound : f e.2 <;> simp [hfound]

theorem map (h : ListsEach P items) (f : β → α) :
    ListsEach (fun k a => ∃ b, P k b ∧ f b = a) (items.map f) := by
  rw [← List.filterMap_eq_map]
  exact (h.filterMap (some ∘ f)).congr fun k a => by simp

theorem filter (h : ListsEach P items) (p : β → Bool) :
    ListsEach (fun k b => P k b ∧ p b = true) (items.filter p) := by
  rw [← List.filterMap_eq_filter]
  refine (h.filterMap (Option.guard p)).congr fun k b => ?_
  constructor
  · rintro ⟨c, hc, hguard⟩
    obtain ⟨rfl, hp⟩ := Option.guard_eq_some_iff.1 hguard
    exact ⟨hc, hp⟩
  · rintro ⟨hb, hp⟩
    exact ⟨b, hb, Option.guard_eq_some_iff.2 ⟨rfl, hp⟩⟩

/-- The items of a list, each under its place. -/
theorem places (xs : List β) : ListsEach (fun (i : ℕ) b => xs[i]? = some b) xs := by
  induction xs with
  | nil => exact nil fun _ _ h => nomatch h
  | cons x rest ih =>
    refine ((option 0 (some x)).append (ih.rekey Nat.succ_injective) ?_).congr fun i b => ?_
    · rintro i b c ⟨rfl, -⟩ ⟨j, hj, -⟩
      exact Nat.succ_ne_zero j hj
    · cases i <;> simp

theorem mem_iff (h : ListsEach P items) {b : β} : b ∈ items ↔ ∃ k, P k b := by
  obtain ⟨entries, -, hmem, rfl⟩ := h
  simp [← hmem]

/-- The items of all parts, each under the place of its part and its key there. -/
theorem flatten {P : α → κ → β → Prop} {parts : List α} {lists : List (List β)}
    (h : List.Forall₂ (fun part items => ListsEach (P part) items) parts lists) :
    ListsEach (fun (p : ℕ × κ) b => ∃ part, parts[p.1]? = some part ∧ P part p.2 b)
      lists.flatten := by
  induction h with
  | nil => exact nil fun p b ⟨part, hpart, _⟩ => nomatch hpart
  | @cons part items parts lists hfirst _ ih =>
    have hhead := hfirst.rekey (Prod.mk_right_injective 0)
    have htail := ih.rekey (f := Prod.map Nat.succ id)
      (Function.Injective.prodMap Nat.succ_injective Function.injective_id)
    refine (hhead.append htail ?_).congr fun p b => ?_
    · rintro p b c ⟨k, rfl, -⟩ ⟨j, hj, -⟩
      cases (Prod.mk.inj hj).1
    · obtain ⟨i, k⟩ := p
      cases i with
      | zero => simp [Prod.ext_iff]
      | succ i => simp [Prod.ext_iff]

/-- What stands at an address of a tree: at the root what is its own, and below it what stands in a
part, which the first number tells. -/
def Below (own : κ → β → Prop) (parts : List α) (stands : α → List ℕ × κ → β → Prop) :
    List ℕ × κ → β → Prop
  | ([], k), b => own k b
  | (i :: rest, k), b => ∃ part, parts[i]? = some part ∧ stands part (rest, k) b

/-- The items of a root, then those of its parts. -/
theorem tree {own : κ → β → Prop} {P : α → List ℕ × κ → β → Prop} {parts : List α}
    {lists : List (List β)} (hown : ListsEach own items)
    (h : List.Forall₂ (fun part items => ListsEach (P part) items) parts lists) :
    ListsEach (Below own parts P) (items ++ lists.flatten) := by
  have hup : Function.Injective fun p : ℕ × List ℕ × κ => (p.1 :: p.2.1, p.2.2) := by
    rintro ⟨i, rest, k⟩ ⟨j, other, l⟩ heq
    simp only [Prod.mk.injEq, List.cons.injEq] at heq
    obtain ⟨⟨rfl, rfl⟩, rfl⟩ := heq
    rfl
  have hroot := hown.rekey (Prod.mk_right_injective ([] : List ℕ))
  refine (hroot.append ((flatten h).rekey hup) ?_).congr fun key b => ?_
  · rintro key b c ⟨k, rfl, -⟩ ⟨p, hp, -⟩
    cases (Prod.mk.inj hp).1
  · obtain ⟨address, k⟩ := key
    cases address with
    | nil => simp [Below]
    | cons i rest => simp [Below, and_assoc]

/-- A key without a second part. -/
theorem of_unit {P : κ × Unit → β → Prop} (h : ListsEach P items) :
    ListsEach (fun k b => P (k, ()) b) items :=
  (h.rekey (f := Prod.fst) fun _ _ heq => Prod.ext heq rfl).congr fun k _ =>
    ⟨fun ⟨_, hk, hb⟩ => hk ▸ hb, fun hb => ⟨(k, ()), rfl, hb⟩⟩

end ListsEach

end RepoAtlas
