import Mathlib.Data.List.Induction
import Mathlib.Data.List.ReduceOption
import RepoAtlas.Source.TypeAnnotation

/-!
What the members of a union mean together. Bars take two members at a time: the union of the first
two is a member of the union with the third, and so on. Brackets take all at once. The two meanings
agree as long as only `None` follows the second member, and hardly ever beyond that.
-/
namespace RepoAtlas

namespace TypeRef

mutual

/-- A reference without the texts that it was read from. -/
def unwritten : TypeRef → TypeRef
  | ⟨name, _, optional, isCollection, generics⟩ =>
    ⟨name, "", optional, isCollection, unwrittenAll generics⟩

def unwrittenAll : List TypeRef → List TypeRef
  | [] => []
  | r :: rest => r.unwritten :: unwrittenAll rest

end

theorem unwrittenAll_eq_map (rs : List TypeRef) : unwrittenAll rs = rs.map unwritten := by
  induction rs with
  | nil => rfl
  | cons r rest ih => rw [unwrittenAll, ih, List.map_cons]

@[simp] theorem unwritten_name (r : TypeRef) : r.unwritten.name = r.name := by
  cases r; rfl

@[simp] theorem unwritten_raw (r : TypeRef) : r.unwritten.raw = "" := by
  cases r; rfl

@[simp] theorem unwritten_optional (r : TypeRef) : r.unwritten.optional = r.optional := by
  cases r; rfl

@[simp] theorem unwritten_isCollection (r : TypeRef) :
    r.unwritten.isCollection = r.isCollection := by
  cases r; rfl

@[simp] theorem unwritten_generics (r : TypeRef) :
    r.unwritten.generics = r.generics.map unwritten := by
  cases r; exact unwrittenAll_eq_map _

/-- References that differ in their texts at most. -/
def SameMeaning (r s : TypeRef) : Prop := r.unwritten = s.unwritten

/-- References are finite, so none is an argument of its own. -/
theorem not_mem_generics (r : TypeRef) : r ∉ r.generics := by
  intro h
  have hsize := List.sizeOf_lt_of_mem h
  have hspec : sizeOf r.generics < sizeOf r := by
    cases r
    simp
  omega

end TypeRef

namespace Source

/-! ### The meanings -/

/-- A bar with a further member on the right. -/
def withBar (ref : TypeRef) (member : Option TypeRef) : TypeRef :=
  unionOfBars "" (ref :: member.toList)

/-- What members with bars between them mean. -/
def barsMeaning (first second : Option TypeRef) (rest : List (Option TypeRef)) : TypeRef :=
  rest.foldl withBar (unionOfBars "" (first.toList ++ second.toList))

/-- What members in brackets mean. -/
def bracketsMeaning (members : List (Option TypeRef)) : TypeRef :=
  subscripted "Union" "" (members.any Option.isNone) members.reduceOption

theorem unwritten_unionOfBars (raw : String) (members : List TypeRef) :
    (unionOfBars raw members).unwritten = unionOfBars "" (members.map TypeRef.unwritten) := by
  match members with
  | [] | _ :: _ :: _ => simp [unionOfBars, TypeRef.unwritten, TypeRef.unwrittenAll_eq_map]
  | [⟨_, _, _, _, _⟩] => simp [unionOfBars, TypeRef.unwritten]

theorem unwritten_subscripted (raw : String) (hasNone : Bool) (members : List TypeRef) :
    (subscripted "Union" raw hasNone members).unwritten =
      subscripted "Union" "" hasNone (members.map TypeRef.unwritten) := by
  match members with
  | [] | _ :: _ :: _ => simp [subscripted, TypeRef.unwritten, TypeRef.unwrittenAll_eq_map]
  | [⟨_, _, _, _, _⟩] => simp [subscripted, TypeRef.unwritten]

theorem raw_unionOfBars (raw : String) (members : List TypeRef) :
    (unionOfBars raw members).raw = raw := by
  match members with
  | [] | [_] | _ :: _ :: _ => rfl

theorem raw_subscripted (raw : String) (hasNone : Bool) (members : List TypeRef) :
    (subscripted "Union" raw hasNone members).raw = raw := by
  match members with
  | [] | [_] | _ :: _ :: _ => rfl

/-! ### When the two meanings agree -/

/-- Whether members mean the same with bars as in brackets: only `None` follows the second member;
or one of the first two is an optional reference, the other is `None`, and one further reference
and then `None` follow. -/
def ReadsFlat (first second : Option TypeRef) (rest : List (Option TypeRef)) : Prop :=
  (∀ p ∈ rest, p = none) ∨ ∃ ref last, [first, second].reduceOption = [ref] ∧
    ref.optional = true ∧ rest.reduceOption = [last] ∧ rest.getLast? = some none

/-- Either there are no references in a list, or there is a last one. -/
theorem exists_last_ref (rest : List (Option TypeRef)) :
    (∃ k, rest = List.replicate k none) ∨
      ∃ before ref k, rest = before ++ some ref :: List.replicate k none := by
  induction rest using List.reverseRecOn with
  | nil => exact .inl ⟨0, rfl⟩
  | append_singleton init p ih =>
    cases p with
    | some ref => exact .inr ⟨init, ref, 0, rfl⟩
    | none =>
      rcases ih with ⟨k, rfl⟩ | ⟨before, ref, k, rfl⟩
      · exact .inl ⟨k + 1, List.replicate_succ'.symm⟩
      · refine .inr ⟨before, ref, k + 1, ?_⟩
        rw [List.append_assoc, List.cons_append, List.replicate_succ']

/-- Each `None` makes the reference before it optional. -/
theorem foldl_withBar_none (ref : TypeRef) (k : Nat) :
    (List.replicate k none).foldl withBar ref =
      if k = 0 then ref else { ref with raw := "", optional := true } := by
  induction k generalizing ref with
  | zero => rfl
  | succ k ih =>
    rw [List.replicate_succ, List.foldl_cons, ih, if_neg (Nat.succ_ne_zero k)]
    split <;> rfl

/-- The last reference is a member of a union with all that stands before it. -/
theorem foldl_withBar_last (ref last : TypeRef) (before : List (Option TypeRef)) (k : Nat) :
    (before ++ some last :: List.replicate k none).foldl withBar ref =
      { name := "Union", raw := "", optional := decide (0 < k)
        generics := [before.foldl withBar ref, last] } := by
  rw [List.foldl_append, List.foldl_cons, foldl_withBar_none]
  cases k with
  | zero => rfl
  | succ k => simp [withBar, unionOfBars]

theorem reduceOption_eq_nil_iff {parts : List (Option TypeRef)} :
    parts.reduceOption = [] ↔ ∃ k, parts = List.replicate k none := by
  constructor
  · intro h
    rcases exists_last_ref parts with hnone | ⟨before, ref, k, rfl⟩
    · exact hnone
    · simp [List.reduceOption_append] at h
  · rintro ⟨k, rfl⟩
    exact List.reduceOption_replicate_none

theorem reduceOption_last (before : List (Option TypeRef)) (last : TypeRef) (k : Nat) :
    (before ++ some last :: List.replicate k none).reduceOption = before.reduceOption ++ [last] := by
  rw [List.reduceOption_append, List.reduceOption_cons_of_some, List.reduceOption_replicate_none]

theorem reduceOption_pair (first second : Option TypeRef) :
    [first, second].reduceOption = first.toList ++ second.toList := by
  cases first <;> cases second <;> rfl

/-- Being made optional changes nothing about an optional reference without text. -/
theorem eq_madeOptional_iff {ref : TypeRef} (hraw : ref.raw = "") :
    ref = { ref with raw := "", optional := true } ↔ ref.optional = true := by
  obtain ⟨name, raw, optional, isCollection, generics⟩ := ref
  subst hraw
  simp

/-- Only `None` follows the second member. -/
theorem barsMeaning_replicate {first second : Option TypeRef} (k : Nat)
    (hsome : [first, second].reduceOption ≠ []) :
    barsMeaning first second (List.replicate k none) =
      bracketsMeaning (first :: second :: List.replicate k none) := by
  rw [barsMeaning, foldl_withBar_none, bracketsMeaning]
  cases first with
  | none =>
    cases second with
    | none => exact absurd rfl hsome
    | some b => cases k <;> simp [unionOfBars, subscripted]
  | some a =>
    cases second with
    | none => cases k <;> simp [unionOfBars, subscripted]
    | some b => cases k <;> simp [unionOfBars, subscripted]

/-- What stands before the last reference means the same with bars as the references alone exactly
if there is one reference, which is optional, among the first two members. -/
theorem heads_eq_iff {heads : List TypeRef} (hraw : ∀ ref ∈ heads, ref.raw = "")
    (before : List (Option TypeRef)) :
    heads ++ before.reduceOption = [before.foldl withBar (unionOfBars "" heads)] ↔
      before.reduceOption = [] ∧ ∃ ref, heads = [ref] ∧ ref.optional = true := by
  have hsingle : ∀ ref k, ref.raw = "" → ((List.replicate k none).foldl withBar
      (unionOfBars "" [ref]) = ref ↔ ref.optional = true) := by
    intro ref k href
    rw [foldl_withBar_none, ← eq_madeOptional_iff href, eq_comm]
    cases k <;> rfl
  rw [List.append_eq_singleton_iff]
  constructor
  · rintro (⟨-, h⟩ | ⟨hheads, hbefore⟩)
    · rcases exists_last_ref before with ⟨k, rfl⟩ | ⟨init, ref, k, rfl⟩
      · rw [List.reduceOption_replicate_none] at h
        cases h
      · -- the last reference would be a union of which it is a member
        rw [reduceOption_last, foldl_withBar_last] at h
        have hlast := congrArg List.getLast? h
        rw [List.getLast?_concat, List.getLast?_singleton] at hlast
        have hgenerics := congrArg TypeRef.generics (Option.some.inj hlast)
        refine absurd ?_ (TypeRef.not_mem_generics ref)
        rw [hgenerics]
        exact List.mem_cons_of_mem _ List.mem_cons_self
    · obtain ⟨ref, rfl⟩ : ∃ ref, heads = [ref] := ⟨_, hheads⟩
      obtain ⟨k, rfl⟩ := reduceOption_eq_nil_iff.1 hbefore
      have hsame := (List.singleton_inj.1 hheads).symm
      exact ⟨hbefore, ref, rfl, (hsingle ref k (hraw ref List.mem_cons_self)).1 hsame⟩
  · rintro ⟨hbefore, ref, rfl, hoptional⟩
    obtain ⟨k, rfl⟩ := reduceOption_eq_nil_iff.1 hbefore
    rw [(hsingle ref k (hraw ref List.mem_cons_self)).2 hoptional]
    exact .inr ⟨rfl, hbefore⟩

theorem any_isNone_iff {parts : List (Option TypeRef)} :
    parts.any Option.isNone = true ↔ none ∈ parts := by
  rw [List.any_eq_true]
  constructor
  · rintro ⟨part, hpart, hnone⟩
    rwa [← Option.isNone_iff_eq_none.1 hnone]
  · exact fun h => ⟨none, h, rfl⟩

theorem barsMeaning_last (first second : Option TypeRef) (before : List (Option TypeRef))
    (last : TypeRef) (k : Nat) :
    barsMeaning first second (before ++ some last :: List.replicate k none) =
        bracketsMeaning (first :: second :: (before ++ some last :: List.replicate k none)) ↔
      [first, second].reduceOption ++ before.reduceOption =
        [before.foldl withBar (unionOfBars "" [first, second].reduceOption)] ∧
      (0 < k ↔ none ∈ first :: second :: (before ++ some last :: List.replicate k none)) := by
  have hrefs : (first :: second :: (before ++ some last :: List.replicate k none)).reduceOption =
      [first, second].reduceOption ++ before.reduceOption ++ [last] := by
    rw [List.append_assoc, ← reduceOption_last before last k, ← List.reduceOption_append]
    rfl
  rw [barsMeaning, foldl_withBar_last, bracketsMeaning, hrefs, ← reduceOption_pair]
  generalize [first, second].reduceOption ++ before.reduceOption = refs
  cases refs with
  | nil =>
    -- the union would be its own member
    constructor
    · intro h
      have hgenerics : [_, last] = last.generics := congrArg TypeRef.generics h
      refine absurd ?_ (TypeRef.not_mem_generics last)
      rw [← hgenerics]
      exact List.mem_cons_of_mem _ List.mem_cons_self
    · rintro ⟨h, -⟩
      cases h
  | cons ref refs =>
    obtain ⟨next, more, hmore⟩ : ∃ next more, refs ++ [last] = next :: more := by
      cases refs with
      | nil => exact ⟨last, [], rfl⟩
      | cons next refs => exact ⟨next, refs ++ [last], rfl⟩
    have hunion : ∀ hasNone, subscripted "Union" "" hasNone (ref :: refs ++ [last]) =
        { name := "Union", raw := "", optional := hasNone, generics := ref :: refs ++ [last] } := by
      intro hasNone
      rw [List.cons_append, hmore]
      rfl
    have hparted : ∀ head : TypeRef, [head, last] = ref :: refs ++ [last] ↔ ref :: refs = [head] := by
      intro head
      rw [show [head, last] = [head] ++ [last] from rfl, List.append_left_inj, eq_comm]
    rw [hunion, TypeRef.mk.injEq, hparted, Bool.eq_iff_iff, decide_eq_true_iff, any_isNone_iff]
    constructor
    · exact fun ⟨_, _, hnone, _, hrefs⟩ => ⟨hrefs, hnone⟩
    · exact fun ⟨hrefs, hnone⟩ => ⟨rfl, rfl, hnone, rfl, hrefs⟩

theorem barsMeaning_eq_iff {first second : Option TypeRef} {rest : List (Option TypeRef)}
    (hsome : (first :: second :: rest).reduceOption ≠ [])
    (hraw : ∀ ref ∈ [first, second].reduceOption, ref.raw = "") :
    barsMeaning first second rest = bracketsMeaning (first :: second :: rest) ↔
      ReadsFlat first second rest := by
  rcases exists_last_ref rest with ⟨k, rfl⟩ | ⟨before, last, k, rfl⟩
  · refine iff_of_true (barsMeaning_replicate k ?_) (.inl fun p hp => List.eq_of_mem_replicate hp)
    have hrefs := List.reduceOption_append [first, second] (List.replicate k none)
    rw [List.reduceOption_replicate_none, List.append_nil] at hrefs
    rw [← hrefs]
    exact hsome
  · rw [barsMeaning_last, heads_eq_iff hraw]
    have hends : (before ++ some last :: List.replicate k none).getLast? = some none ↔ 0 < k := by
      cases k with
      | zero => simp
      | succ k =>
        rw [List.replicate_succ', ← List.cons_append, ← List.append_assoc, List.getLast?_concat]
        simp
    have hnone : ∀ ref, [first, second].reduceOption = [ref] →
        none ∈ first :: second :: (before ++ some last :: List.replicate k none) := by
      intro ref href
      cases first with
      | none => exact List.mem_cons_self
      | some a =>
        cases second with
        | none => exact List.mem_cons_of_mem _ List.mem_cons_self
        | some b => cases href
    constructor
    · rintro ⟨⟨hbefore, ref, href, hoptional⟩, hafter⟩
      refine .inr ⟨ref, last, href, hoptional, ?_, hends.2 (hafter.2 (hnone ref href))⟩
      rw [reduceOption_last, hbefore, List.nil_append]
    · rintro (hall | ⟨ref, other, href, hoptional, hrefs, hlast⟩)
      · exact absurd (hall (some last) (by simp)) (by simp)
      · rw [reduceOption_last, List.append_eq_singleton_iff] at hrefs
        refine ⟨⟨?_, ref, href, hoptional⟩, fun _ => hnone ref href, fun _ => hends.1 hlast⟩
        rcases hrefs with ⟨hbefore, -⟩ | ⟨-, hempty⟩
        · exact hbefore
        · cases hempty

theorem readsFlat_map_unwritten (first second : Option TypeRef) (rest : List (Option TypeRef)) :
    ReadsFlat (first.map TypeRef.unwritten) (second.map TypeRef.unwritten)
      (rest.map (Option.map TypeRef.unwritten)) ↔ ReadsFlat first second rest := by
  have hpair : [first.map TypeRef.unwritten, second.map TypeRef.unwritten].reduceOption =
      [first, second].reduceOption.map TypeRef.unwritten := by
    cases first <;> cases second <;> rfl
  have hnone : (rest.map (Option.map TypeRef.unwritten)).getLast? = some none ↔
      rest.getLast? = some none := by
    rw [List.getLast?_map, Option.map_eq_some_iff]
    simp
  rw [ReadsFlat, ReadsFlat, hpair, hnone, List.reduceOption_map]
  refine or_congr (by simp) ⟨?_, ?_⟩
  · rintro ⟨_, _, hhead, hoptional, hlast, hends⟩
    obtain ⟨ref, href, rfl⟩ := List.map_eq_singleton_iff.1 hhead
    obtain ⟨last, hrefs, rfl⟩ := List.map_eq_singleton_iff.1 hlast
    exact ⟨ref, last, href, by rwa [TypeRef.unwritten_optional] at hoptional, hrefs, hends⟩
  · rintro ⟨ref, last, href, hoptional, hrefs, hends⟩
    refine ⟨ref.unwritten, last.unwritten, ?_, ?_, ?_, hends⟩
    · rw [href, List.map_singleton]
    · rw [TypeRef.unwritten_optional, hoptional]
    · rw [hrefs, List.map_singleton]

end Source

end RepoAtlas
