import Mathlib.Data.List.TakeWhile
import RepoAtlas.Proofs.OrderedMap
import RepoAtlas.Proofs.Outcome
import RepoAtlas.Proofs.Sorting
import RepoAtlas.Topology.Provider

/-!
Which service answers a target. Four tests are tried one after the other on all keys: a form of the
target itself, a glob that stands for one, the first label of the host, and a path at or above that
of the target. The first test that any key passes decides, longer keys go before shorter ones, and
a key belongs to the first service that claims it.
-/
namespace RepoAtlas.Topology

open RepoAtlas.Text

/-! ### The tests -/

/-- A key as a path: without stars at its end, and then without slashes. -/
def basePath (key : String) : List Char :=
  dropEndWhile (· == '/') (dropEndWhile (· == '*') key.toList)

namespace Target

variable (t : Target) (key : String)

def forms : List String := [t.text, t.host ++ t.path, t.path, t.host]

/-- The key is a form of the target. -/
def IsForm : Prop := key ≠ "" ∧ key ∈ t.forms

/-- The key is a glob that stands for the target, with or without its scheme, or for its path. -/
def IsGlobbed : Prop :=
  (∃ c ∈ key.toList, c = '*' ∨ c = '?' ∨ c = '[') ∧
    ∃ form ∈ [t.text, t.host ++ t.path, t.path], form ≠ "" ∧ globMatches key form = true

/-- The key is the host up to its first point. -/
def IsLabel : Prop :=
  t.host ≠ "" ∧ '.' ∉ key.toList ∧
    (t.host.toList = key.toList ∨ key.toList ++ ['.'] <+: t.host.toList)

/-- The key is the path of the target or of a folder above it. -/
def IsUnder : Prop :=
  t.path ≠ "" ∧ (basePath key).head? = some '/' ∧
    (t.path.toList = basePath key ∨ basePath key ++ ['/'] <+: t.path.toList)

end Target

/-- The key is the first form that is a key at all. -/
def IsFirstForm (keys : List String) (t : Target) (key : String) : Prop :=
  ∃ earlier later, t.forms = earlier ++ key :: later ∧ key ≠ "" ∧ key ∈ keys ∧
    ∀ form ∈ earlier, form = "" ∨ form ∉ keys

/-- No key with the property is longer, and none of those before it is as long. -/
def IsLongest (keys : List String) (p : String → Prop) (key : String) : Prop :=
  p key ∧ ∃ earlier later, keys = earlier ++ key :: later ∧
    (∀ other ∈ earlier, p other → other.length < key.length) ∧
    ∀ other ∈ later, p other → other.length ≤ key.length

/-- The key comes from the first test that any key passes. -/
inductive IsChosen (keys : List String) (t : Target) (key : String) : Prop
  | form (h : IsFirstForm keys t key)
  | glob (forms : ∀ k ∈ keys, ¬ t.IsForm k) (h : IsLongest keys t.IsGlobbed key)
  | label (forms : ∀ k ∈ keys, ¬ t.IsForm k) (globs : ∀ k ∈ keys, ¬ t.IsGlobbed k)
    (mem : key ∈ keys) (h : t.IsLabel key)
  | path (forms : ∀ k ∈ keys, ¬ t.IsForm k) (globs : ∀ k ∈ keys, ¬ t.IsGlobbed k)
    (labels : ∀ k ∈ keys, ¬ t.IsLabel k) (h : IsLongest keys t.IsUnder key)

/-- The keys that the services claim, in the order in which they are claimed first. -/
def claimedKeys (services : List Service) : List String := distinct (services.flatMap keysOf)

/-- The provider is the first service that claims its key. -/
def IsFirstClaim (services : List Service) (p : Provider) : Prop :=
  ∃ earlier s later, services = earlier ++ s :: later ∧ (∀ e ∈ earlier, p.key ∉ keysOf e) ∧
    p.key ∈ keysOf s ∧ p = ⟨p.key, s.owner, s.name, s.layer⟩

/-! ### The index -/

/-- What a service claims. -/
def claimsOf (s : Service) : List (String × Provider) :=
  (keysOf s).map (fun key => (key, ⟨key, s.owner, s.name, s.layer⟩))

theorem providerIndex_eq (services : List Service) :
    providerIndex services = .ofFirsts (services.flatMap claimsOf) := by
  rw [OrderedMap.ofFirsts, List.foldl_flatMap]
  simp only [claimsOf, List.foldl_map]
  rfl

theorem keys_providerIndex (services : List Service) :
    (providerIndex services).keys = claimedKeys services := by
  have hkeys : ∀ s, (claimsOf s).map (·.1) = keysOf s := by
    intro s
    rw [claimsOf, List.map_map]
    exact List.map_id _
  rw [providerIndex_eq, OrderedMap.keys_ofFirsts, claimedKeys, List.map_flatMap]
  simp only [hkeys]

theorem lookup_claimsOf (s : Service) (key : String) :
    OrderedMap.lookup key (claimsOf s) =
      if key ∈ keysOf s then some ⟨key, s.owner, s.name, s.layer⟩ else none := by
  rw [claimsOf]
  induction keysOf s with
  | nil => rfl
  | cons k rest ih =>
    rw [List.map_cons, OrderedMap.lookup, ih]
    by_cases hk : k = key
    · subst hk
      rw [if_pos rfl, if_pos List.mem_cons_self]
    · simp only [if_neg hk, List.mem_cons, Ne.symm hk, false_or]

theorem isFirstClaim_of_lookup {services : List Service} {key : String} {p : Provider}
    (h : OrderedMap.lookup key (services.flatMap claimsOf) = some p) :
    p.key = key ∧ IsFirstClaim services p := by
  induction services with
  | nil => cases h
  | cons s rest ih =>
    rw [List.flatMap_cons, OrderedMap.lookup_append, lookup_claimsOf] at h
    by_cases hkey : key ∈ keysOf s
    · rw [if_pos hkey] at h
      obtain rfl := Option.some.inj h
      exact ⟨rfl, [], s, rest, rfl, fun e he => absurd he List.not_mem_nil, hkey, rfl⟩
    · rw [if_neg hkey, Option.none_or] at h
      obtain ⟨rfl, earlier, owner, later, rfl, hearlier, hclaim⟩ := ih h
      refine ⟨rfl, s :: earlier, owner, later, rfl, ?_, hclaim⟩
      exact List.forall_mem_cons.2 ⟨hkey, hearlier⟩

/-- Under each key stands the first service that claims it. -/
theorem exists_firstClaim {services : List Service} {key : String}
    (h : key ∈ claimedKeys services) :
    ∃ p, (providerIndex services).get? key = some p ∧ p.key = key ∧ IsFirstClaim services p := by
  rw [← keys_providerIndex, ← OrderedMap.contains_iff, OrderedMap.contains,
    Option.isSome_iff_exists] at h
  obtain ⟨p, hp⟩ := h
  refine ⟨p, hp, isFirstClaim_of_lookup ?_⟩
  rwa [providerIndex_eq, OrderedMap.get?_ofFirsts] at hp

/-! ### The choice of a key -/

section Choice

variable {keys : List String} {t : Target} {key : String}

theorem isLongest_of_find? {p : String → Bool} (h : (longestFirst keys).find? p = some key) :
    IsLongest keys (fun k => p k = true) key := by
  have hlength : ∀ a b : String, decide (b.length ≤ a.length) = true ↔
      OrderDual.toDual a.length ≤ OrderDual.toDual b.length := by
    intro a b
    rw [decide_eq_true_iff, OrderDual.toDual_le_toDual]
  obtain ⟨hkey, earlier, later, hsplit, hearlier, hlater⟩ := find?_mergeSort_key hlength h
  refine ⟨hkey, earlier, later, hsplit, fun other hother hp => ?_, fun other hother hp => ?_⟩
  · exact OrderDual.toDual_lt_toDual.1 (hearlier other hother hp)
  · exact OrderDual.toDual_le_toDual.1 (hlater other hother hp)

theorem find?_longestFirst_eq_none_iff {p : String → Bool} :
    (longestFirst keys).find? p = none ↔ ∀ k ∈ keys, ¬ p k = true := by
  rw [List.find?_eq_none, longestFirst]
  simp only [List.mem_mergeSort]

theorem IsLongest.congr {p q : String → Prop} (hpq : ∀ k ∈ keys, p k ↔ q k)
    (h : IsLongest keys p key) : IsLongest keys q key := by
  obtain ⟨hkey, earlier, later, rfl, hearlier, hlater⟩ := h
  have hmem : ∀ other, other ∈ earlier ∨ other ∈ later → (p other ↔ q other) := by
    intro other hother
    refine hpq other (List.mem_append.2 ?_)
    exact hother.imp_right (List.mem_cons_of_mem key)
  have hself := hpq key (List.mem_append_right _ List.mem_cons_self)
  refine ⟨hself.1 hkey, earlier, later, rfl, fun other hother hq => ?_, fun other hother hq => ?_⟩
  · exact hearlier other hother ((hmem other (Or.inl hother)).2 hq)
  · exact hlater other hother ((hmem other (Or.inr hother)).2 hq)

theorem exactForms_eq : t.exactForms = t.forms.filter (!·.isEmpty) := rfl

theorem find?_exactForms_eq_none_iff :
    t.exactForms.find? keys.contains = none ↔ ∀ k ∈ keys, ¬ t.IsForm k := by
  simp only [List.find?_eq_none, exactForms_eq, List.mem_filter, List.contains_iff_mem,
    Target.IsForm, Bool.not_eq_true', String.isEmpty_eq_false_iff]
  constructor
  · exact fun h k hk hform => h k ⟨hform.2, hform.1⟩ hk
  · exact fun h k hform hk => h k hk ⟨hform.2, hform.1⟩

theorem isFirstForm_of_find? (h : t.exactForms.find? keys.contains = some key) :
    IsFirstForm keys t key := by
  rw [exactForms_eq, List.find?_filter, List.find?_eq_some_iff_append] at h
  obtain ⟨hkey, earlier, later, hsplit, hearlier⟩ := h
  rw [decide_eq_true_iff, List.contains_iff_mem, Bool.not_eq_true',
    String.isEmpty_eq_false_iff] at hkey
  refine ⟨earlier, later, hsplit, hkey.1, hkey.2, fun form hform => ?_⟩
  have hnot := hearlier form hform
  rw [Bool.not_eq_true', decide_eq_false_iff_not, List.contains_iff_mem, Bool.not_eq_true',
    String.isEmpty_eq_false_iff, not_and_or, not_not] at hnot
  exact hnot

theorem globTest_iff :
    (isGlob key && t.globForms.any (globMatches key)) = true ↔ t.IsGlobbed key := by
  simp only [isGlob, Target.globForms, Target.IsGlobbed, Bool.and_eq_true, List.any_eq_true,
    Bool.or_eq_true, beq_iff_eq, List.mem_filter, Bool.not_eq_true', String.isEmpty_eq_false_iff,
    or_assoc, and_assoc]

theorem isUnder_iff : (t.path ≠ "" ∧ isBelow t.path key = true) ↔ t.IsUnder key := by
  rw [isBelow, ← basePath]
  simp only [Target.IsUnder, Bool.and_eq_true, Bool.or_eq_true, beq_iff_eq,
    List.isPrefixOf_iff_prefix]

/-- A text up to its first `c` is known by what follows it. -/
theorem takeWhile_ne_eq_iff {c : Char} {s label : List Char} :
    s.takeWhile (· ≠ c) = label ↔ c ∉ label ∧ (s = label ∨ label ++ [c] <+: s) := by
  constructor
  · rintro rfl
    refine ⟨fun hc => by simpa using List.mem_takeWhile_imp hc, ?_⟩
    have hjoin := List.takeWhile_append_dropWhile (p := fun x => decide (x ≠ c)) (l := s)
    cases hrest : s.dropWhile (fun x => decide (x ≠ c)) with
    | nil =>
      rw [hrest, List.append_nil] at hjoin
      exact Or.inl hjoin.symm
    | cons x rest =>
      have hx : x = c := by
        have hsome : s.dropWhile (fun x => decide (x ≠ c)) ≠ [] := by
          rw [hrest]
          exact List.cons_ne_nil x rest
        have hhead := List.head_dropWhile_not (fun x => decide (x ≠ c)) hsome
        simpa only [hrest, List.head_cons, decide_eq_false_iff_not, not_not] using hhead
      subst hx
      right
      refine ⟨rest, ?_⟩
      rw [List.append_assoc, List.singleton_append, ← hrest]
      exact hjoin
  · rintro ⟨hc, hs⟩
    have hall : ∀ x ∈ label, decide (x ≠ c) = true := by
      intro x hx
      rw [decide_eq_true_iff]
      rintro rfl
      exact hc hx
    rcases hs with rfl | ⟨rest, rfl⟩
    · exact List.takeWhile_eq_self_iff.2 hall
    · rw [List.append_assoc, List.takeWhile_append_of_pos hall]
      simp

theorem hostLabel_eq_iff : t.hostLabel = key ↔ '.' ∉ key.toList ∧
    (t.host.toList = key.toList ∨ key.toList ++ ['.'] <+: t.host.toList) := by
  rw [← takeWhile_ne_eq_iff, Target.hostLabel]
  constructor
  · rintro rfl
    rw [String.toList_ofList]
  · intro h
    rw [h, String.ofList_toList]

theorem labelTest_eq_some_iff :
    (if !t.host.isEmpty && keys.contains t.hostLabel then some t.hostLabel else none) = some key ↔
      key ∈ keys ∧ t.IsLabel key := by
  rw [Target.IsLabel, ← hostLabel_eq_iff]
  simp only [Option.ite_none_right_eq_some, Bool.and_eq_true, Bool.not_eq_true',
    String.isEmpty_eq_false_iff, List.contains_iff_mem, Option.some.injEq]
  constructor
  · rintro ⟨⟨hhost, hmem⟩, rfl⟩
    exact ⟨hmem, hhost, rfl⟩
  · rintro ⟨hmem, hhost, rfl⟩
    exact ⟨⟨hhost, hmem⟩, rfl⟩

theorem labelTest_eq_none_iff :
    (if !t.host.isEmpty && keys.contains t.hostLabel then some t.hostLabel else none) = none ↔
      ∀ k ∈ keys, ¬ t.IsLabel k := by
  rw [Option.eq_none_iff_forall_ne_some]
  simp only [ne_eq, labelTest_eq_some_iff, not_and]

theorem isLongest_of_pathTest
    (h : (if t.path.isEmpty then none else (longestFirst keys).find? (isBelow t.path)) = some key) :
    IsLongest keys t.IsUnder key := by
  rw [Option.ite_none_left_eq_some, String.isEmpty_iff] at h
  refine (isLongest_of_find? h.2).congr fun k _ => ?_
  rw [← isUnder_iff, and_iff_right h.1]

theorem pathTest_eq_none_iff :
    (if t.path.isEmpty then none else (longestFirst keys).find? (isBelow t.path)) = none ↔
      ∀ k ∈ keys, ¬ t.IsUnder k := by
  simp only [← isUnder_iff, not_and]
  split
  next hpath =>
    rw [String.isEmpty_iff] at hpath
    exact iff_of_true rfl fun k _ hsome => absurd hpath hsome
  next hpath =>
    rw [String.isEmpty_iff] at hpath
    rw [find?_longestFirst_eq_none_iff]
    exact forall₂_congr fun k _ => (imp_iff_right hpath).symm

theorem matchingKey?_eq_none_iff : matchingKey? keys t = none ↔ ∀ k ∈ keys,
    ¬ (t.IsForm k ∨ t.IsGlobbed k ∨ t.IsLabel k ∨ t.IsUnder k) := by
  rw [matchingKey?, Option.or_eq_none_iff, Option.or_eq_none_iff, Option.or_eq_none_iff,
    find?_exactForms_eq_none_iff, find?_longestFirst_eq_none_iff, labelTest_eq_none_iff,
    pathTest_eq_none_iff]
  simp only [globTest_iff, not_or, ← forall₂_and]

theorem isChosen_of_matchingKey? (h : matchingKey? keys t = some key) :
    key ∈ keys ∧ IsChosen keys t key := by
  have hmem : ∀ {p : String → Prop}, IsLongest keys p key → key ∈ keys := by
    rintro p ⟨-, earlier, later, rfl, -⟩
    exact List.mem_append_right _ List.mem_cons_self
  rw [matchingKey?, Option.or_eq_some_iff] at h
  rcases h with hform | ⟨hforms, h⟩
  · have hfirst := isFirstForm_of_find? hform
    obtain ⟨-, -, -, -, hkey, -⟩ := hfirst
    exact ⟨hkey, .form (isFirstForm_of_find? hform)⟩
  rw [find?_exactForms_eq_none_iff] at hforms
  rw [Option.or_eq_some_iff] at h
  rcases h with hglob | ⟨hglobs, h⟩
  · have hlongest := (isLongest_of_find? hglob).congr fun k _ => globTest_iff
    exact ⟨hmem hlongest, .glob hforms hlongest⟩
  rw [find?_longestFirst_eq_none_iff] at hglobs
  simp only [globTest_iff] at hglobs
  rw [Option.or_eq_some_iff] at h
  rcases h with hlabel | ⟨hlabels, hpath⟩
  · obtain ⟨hkey, hlabel⟩ := labelTest_eq_some_iff.1 hlabel
    exact ⟨hkey, .label hforms hglobs hkey hlabel⟩
  · have hlongest := isLongest_of_pathTest hpath
    exact ⟨hmem hlongest, .path hforms hglobs (labelTest_eq_none_iff.1 hlabels) hlongest⟩

end Choice

theorem text_of_parse {target : String} {t : Target} (h : Target.parse target = .ok t) :
    t.text = target := by
  rw [Target.parse] at h
  dsimp only at h
  split at h
  · obtain rfl := Except.ok.inj h
    rfl
  split at h
  · obtain ⟨_, -, h⟩ := bind_eq_ok_iff.1 h
    obtain rfl := Except.ok.inj h
    rfl
  split at h
  · obtain ⟨_, -, h⟩ := bind_eq_ok_iff.1 h
    obtain rfl := Except.ok.inj h
    rfl
  · obtain rfl := Except.ok.inj h
    rfl

/-- A target that reads is answered by the first service that claims the chosen key, and by none
exactly if no key passes a test. -/
theorem matchProvider_isChosen (services : List Service) {target : String} {t : Target}
    (ht : Target.parse target = .ok t) :
    t.text = target ∧ ∃ answer, matchProvider (providerIndex services) target = .ok answer ∧
      (answer = none ↔ ∀ key ∈ claimedKeys services,
        ¬ (t.IsForm key ∨ t.IsGlobbed key ∨ t.IsLabel key ∨ t.IsUnder key)) ∧
      ∀ p, answer = some p →
        IsChosen (claimedKeys services) t p.key ∧ IsFirstClaim services p := by
  refine ⟨text_of_parse ht,
    (matchingKey? (claimedKeys services) t).bind (providerIndex services).get?, ?_, ?_⟩
  · rw [matchProvider, ht, keys_providerIndex]
    rfl
  rw [← matchingKey?_eq_none_iff]
  cases hkey : matchingKey? (claimedKeys services) t with
  | none => exact ⟨iff_of_true rfl rfl, fun p hp => by cases hp⟩
  | some key =>
    obtain ⟨hmem, hchosen⟩ := isChosen_of_matchingKey? hkey
    obtain ⟨p, hp, rfl, hclaim⟩ := exists_firstClaim hmem
    rw [Option.bind_some, hp]
    refine ⟨iff_of_false (Option.some_ne_none p) (Option.some_ne_none p.key), fun q hq => ?_⟩
    obtain rfl := Option.some.inj hq
    exact ⟨hchosen, hclaim⟩

/-- A gateway that sends users to the shop, and a later one that claims them again. -/
def twoGateways : List Service :=
  [{ name := "gateway", layer := .edge, owner := "shop",
     routes := ["api.shop.com/*", "api.shop.com/users/*"] },
   { name := "accounts", layer := .edge, owner := "bank", routes := ["api.shop.com/users/*"] }]

/-- Two routes stand for the target, so the choice is between them; the host in capitals and the
query do not matter. -/
theorem matchProvider_isChosen_twoGateways :
    Target.parse "https://API.shop.com/users/7?full=1" =
      .ok ⟨"https://API.shop.com/users/7?full=1", "api.shop.com", "/users/7"⟩ ∧
    ∃ p, matchProvider (providerIndex twoGateways) "https://API.shop.com/users/7?full=1" =
        .ok (some p) ∧
      IsChosen (claimedKeys twoGateways)
        ⟨"https://API.shop.com/users/7?full=1", "api.shop.com", "/users/7"⟩ p.key ∧
      IsFirstClaim twoGateways p := by
  have hparse : Target.parse "https://API.shop.com/users/7?full=1" =
      .ok ⟨"https://API.shop.com/users/7?full=1", "api.shop.com", "/users/7"⟩ := by
    decide +kernel
  obtain ⟨-, answer, hanswer, hnone, hsome⟩ := matchProvider_isChosen twoGateways hparse
  cases answer with
  | none =>
    have hkey : "api.shop.com/*" ∈ claimedKeys twoGateways := by decide +kernel
    have hglob : Target.IsGlobbed
        ⟨"https://API.shop.com/users/7?full=1", "api.shop.com", "/users/7"⟩ "api.shop.com/*" :=
      globTest_iff.1 (by decide +kernel)
    exact absurd (Or.inr (Or.inl hglob)) (hnone.1 rfl _ hkey)
  | some p => exact ⟨hparse, p, hanswer, hsome p rfl⟩

end RepoAtlas.Topology
