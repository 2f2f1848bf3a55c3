import Mathlib.Data.List.Nodup
import Mathlib.Data.List.Perm.Subperm
import RepoAtlas.Diagram.Parts
import RepoAtlas.Proofs.Number.DigitText
import RepoAtlas.Proofs.OrderedMap

/-!
Identifiers tell names apart. Each is a bare token that begins with a letter, none is reserved, and
no two names share one, because a name only takes a candidate that nobody has taken. The search for
a candidate has no bound of its own; it ends because every number makes another one. What is given
to a name stays with it, whatever names follow.
-/
namespace RepoAtlas.Diagram

/-- A bare token of letters, digits and underscores that begins with a letter. -/
structure IsIdentifier (id : String) : Prop where
  chars : ∀ c ∈ id.toList, isIdChar c = true
  start : ∃ c, id.toList.head? = some c ∧ isLeadingJunk c = false

instance (id : String) : Decidable (IsIdentifier id) :=
  decidable_of_iff (id.toList.all isIdChar = true ∧
      id.toList.head?.any (fun c => !isLeadingJunk c) = true) <| by
    rw [List.all_eq_true, Option.any_eq_true]
    simp only [Bool.not_eq_true']
    exact ⟨fun h => ⟨h.1, h.2⟩, fun h => ⟨h.chars, h.start⟩⟩

/-- Identifiers that tell the names apart and leave the reserved ones alone. -/
structure TellsApart (id : String → String) (names reserved : List String) : Prop where
  valid : ∀ n ∈ names, IsIdentifier (id n)
  apart : ∀ m ∈ names, ∀ n ∈ names, id m = id n → m = n
  free : ∀ n ∈ names, id n ∉ reserved

theorem TellsApart.of_subset {id : String → String} {names names' reserved : List String}
    (h : TellsApart id names reserved) (hsub : names' ⊆ names) : TellsApart id names' reserved where
  valid := fun n hn => h.valid n (hsub hn)
  apart := fun m hm n hn => h.apart m (hsub hm) n (hsub hn)
  free := fun n hn => h.free n (hsub hn)

/-- Two choices of names are told apart by their identifiers. -/
theorem TellsApart.map_filter_eq_iff {id : String → String} {names reserved : List String}
    (h : TellsApart id names reserved) {p q : String → Prop} [DecidablePred p] [DecidablePred q] :
    (names.filter (p ·)).map id = (names.filter (q ·)).map id ↔ ∀ n ∈ names, (p n ↔ q n) := by
  have hchosen : ∀ (r : String → Prop) [DecidablePred r], ∀ n ∈ names,
      id n ∈ (names.filter (r ·)).map id ↔ r n := by
    intro r _ n hn
    constructor
    · intro hmem
      obtain ⟨m, hm, hid⟩ := List.mem_map.1 hmem
      obtain ⟨hm, hr⟩ := List.mem_filter.1 hm
      exact h.apart m hm n hn hid ▸ of_decide_eq_true hr
    · intro hr
      exact List.mem_map_of_mem (List.mem_filter.2 ⟨hn, decide_eq_true hr⟩)
  constructor
  · intro hsame n hn
    rw [← hchosen p n hn, hsame, hchosen q n hn]
  · intro hsame
    exact congrArg _ (List.filter_congr fun n hn => decide_eq_decide.2 (hsame n hn))

/-! ### Candidates -/

theorem isIdentifier_identifier (name : String) : IsIdentifier (identifier name) := by
  rw [identifier, identifierChars]
  split
  next => decide
  next hsome =>
    generalize hcleaned : (name.toList.map (fun c => if isIdChar c then c else '_')).dropWhile
      isLeadingJunk = cleaned at hsome
    constructor
    · rw [String.toList_ofList, ← hcleaned]
      intro c hc
      obtain ⟨d, -, rfl⟩ := List.mem_map.1 ((List.dropWhile_sublist _).subset hc)
      split
      next hd => exact hd
      next => rfl
    · rw [String.toList_ofList]
      cases cleaned with
      | nil => exact absurd rfl hsome
      | cons c rest =>
        have hfirst := List.head?_dropWhile_not isLeadingJunk
          (name.toList.map (fun c => if isIdChar c then c else '_'))
        rw [hcleaned] at hfirst
        exact ⟨c, rfl, by simpa using hfirst⟩

theorem toList_candidate_succ (base : String) (n : Nat) :
    (candidate base (n + 1)).toList = base.toList ++ '_' :: (toString (n + 1)).toList := by
  rw [candidate, if_neg (Nat.succ_ne_zero n)]
  simp

theorem isIdentifier_candidate {base : String} (h : IsIdentifier base) (n : Nat) :
    IsIdentifier (candidate base n) := by
  cases n with
  | zero => exact h
  | succ n =>
    obtain ⟨c, hc, hletter⟩ := h.start
    constructor
    · rw [toList_candidate_succ]
      refine List.forall_mem_append.2 ⟨h.chars, List.forall_mem_cons.2 ⟨rfl, fun d hd => ?_⟩⟩
      rw [Numeral.toList_toString] at hd
      have hdigit : d.isDigit = true := Numeral.allDigits_toDigits _ d hd
      rw [isIdChar, Char.isAlphanum, hdigit, Bool.or_true, Bool.true_or]
    · refine ⟨c, ?_, hletter⟩
      rw [toList_candidate_succ, List.head?_append, hc]
      rfl

/-- Each number makes another candidate. -/
theorem candidate_injective (base : String) : Function.Injective (candidate base) := by
  intro m n h
  have hlist := congrArg String.toList h
  cases m with
  | zero =>
    cases n with
    | zero => rfl
    | succ n =>
      have hlength := congrArg List.length hlist
      rw [toList_candidate_succ, List.length_append, List.length_cons] at hlength
      exact absurd hlength (by rw [candidate, if_pos rfl]; omega)
  | succ m =>
    cases n with
    | zero =>
      have hlength := congrArg List.length hlist
      rw [toList_candidate_succ, List.length_append, List.length_cons] at hlength
      exact absurd hlength (by rw [candidate, if_pos rfl]; omega)
    | succ n =>
      rw [toList_candidate_succ, toList_candidate_succ, List.append_cancel_left_eq,
        List.cons.injEq] at hlist
      have hdigits := congrArg Numeral.digitsValue hlist.2
      rwa [Numeral.toList_toString, Numeral.toList_toString, Numeral.digitsValue_toDigits,
        Numeral.digitsValue_toDigits] at hdigits

/-- One of the candidates is free, and it is the one that is taken. -/
theorem firstFree_spec (taken : List String) (base : String) :
    firstFree taken base ∉ taken ∧ ∃ n, firstFree taken base = candidate base n := by
  rw [firstFree]
  cases hfind : ((List.range (taken.length + 1)).map (candidate base)).find?
      (fun c => !taken.contains c) with
  | some c =>
    obtain ⟨n, -, rfl⟩ := List.mem_map.1 (List.mem_of_find?_eq_some hfind)
    have hfree := List.find?_some hfind
    rw [Bool.not_eq_true', List.contains_eq_mem, decide_eq_false_iff_not] at hfree
    exact ⟨hfree, n, rfl⟩
  | none =>
    -- All candidates are taken, and there are more of them than taken identifiers.
    have hall : (List.range (taken.length + 1)).map (candidate base) ⊆ taken := by
      intro c hc
      have htaken := List.find?_eq_none.1 hfind c hc
      rwa [Bool.not_eq_true', Bool.not_eq_false, List.contains_iff_mem] at htaken
    have hnodup : ((List.range (taken.length + 1)).map (candidate base)).Nodup :=
      List.Nodup.map (candidate_injective base) List.nodup_range
    have hlength := (hnodup.subperm hall).length_le
    rw [List.length_map, List.length_range] at hlength
    exact absurd hlength (Nat.not_succ_le_self _)

/-! ### Assignments -/

/-- What holds after any number of names. -/
structure Assignment.Sound (a : Assignment) (reserved names : List String) : Prop where
  named : ∀ n, n ∈ a.ids.keys ↔ n ∈ names
  given : ∀ n id, a.ids.get? n = some id → IsIdentifier id ∧ id ∈ a.taken ∧ id ∉ reserved
  apart : ∀ m n id, a.ids.get? m = some id → a.ids.get? n = some id → m = n
  kept : reserved ⊆ a.taken

section Sound

variable {a : Assignment} {reserved names : List String}

theorem Assignment.sound_empty (reserved : List String) :
    Assignment.Sound ⟨{}, reserved⟩ reserved [] where
  named := fun _ => Iff.rfl
  given := fun _ _ h => by cases h
  apart := fun _ _ _ h => by cases h
  kept := fun _ h => h

/-- A name gets an identifier that no name has before it. -/
theorem Assignment.Sound.add (h : a.Sound reserved names) (name : String) :
    (a.add name).Sound reserved (names ++ [name]) := by
  rw [Assignment.add]
  split
  next hold =>
    have hname : name ∈ names := (h.named name).1 (OrderedMap.contains_iff.1 hold)
    refine ⟨fun n => ?_, h.given, h.apart, h.kept⟩
    rw [h.named, List.mem_append, List.mem_singleton]
    exact ⟨Or.inl, fun hn => hn.elim id fun heq => heq ▸ hname⟩
  next hnew =>
    obtain ⟨hfree, k, hk⟩ := firstFree_spec a.taken (identifier name)
    generalize firstFree a.taken (identifier name) = id at hfree hk
    have hother : ∀ n other, a.ids.get? n = some other → other ≠ id := by
      rintro n other hother rfl
      exact hfree (h.given n other hother).2.1
    refine ⟨?_, ?_, ?_, fun r hr => List.mem_cons_of_mem _ (h.kept hr)⟩
    · intro n
      have hkeys : (a.ids.insert name id).keys = a.ids.keys ++ [name] := by
        rw [OrderedMap.insert, OrderedMap.keys_update, if_neg (mt OrderedMap.contains_iff.2 hnew)]
      rw [hkeys, List.mem_append, List.mem_append, h.named]
    · intro n other hn
      rw [OrderedMap.get?_insert] at hn
      split at hn
      · obtain rfl := Option.some.inj hn
        refine ⟨?_, List.mem_cons_self, fun hr => hfree (h.kept hr)⟩
        rw [hk]
        exact isIdentifier_candidate (isIdentifier_identifier name) k
      · obtain ⟨hvalid, htaken, hr⟩ := h.given n other hn
        exact ⟨hvalid, List.mem_cons_of_mem _ htaken, hr⟩
    · intro m n other hm hn
      rw [OrderedMap.get?_insert] at hm hn
      split at hm
      next hmname =>
        obtain rfl := Option.some.inj hm
        split at hn
        next hnname => rw [hmname, hnname]
        next => exact absurd rfl (hother n _ hn)
      next =>
        split at hn
        next => exact absurd (Option.some.inj hn).symm (hother m _ hm)
        next => exact h.apart m n other hm hn

theorem Assignment.Sound.addAll (h : a.Sound reserved names) (more : List String) :
    (more.foldl Assignment.add a).Sound reserved (names ++ more) := by
  induction more generalizing a names with
  | nil =>
    rw [List.append_nil]
    exact h
  | cons name rest ih =>
    have hnext := ih (h.add name)
    rwa [List.append_assoc, List.singleton_append] at hnext

end Sound

/-- What is assigned after some names. -/
def assigned (names reserved : List String) : Assignment :=
  names.foldl Assignment.add ⟨{}, reserved⟩

theorem sound_assigned (names reserved : List String) :
    (assigned names reserved).Sound reserved names := by
  simpa [assigned] using (Assignment.sound_empty reserved).addAll names

/-- Every name gets an identifier. -/
theorem get?_assigned {names : List String} {name : String} (h : name ∈ names)
    (reserved : List String) : (assigned names reserved).ids.get? name =
      some (idOf (uniqueIds names reserved) name) := by
  have hkey := OrderedMap.contains_iff.2 (((sound_assigned names reserved).named name).2 h)
  obtain ⟨id, hid⟩ := Option.isSome_iff_exists.1 hkey
  have hget : (uniqueIds names reserved).get? name = some id := hid
  rw [hid, idOf, hget, Option.getD_some]

/-- The identifiers of some names tell them apart. -/
theorem tellsApart_uniqueIds (names reserved : List String) :
    TellsApart (idOf (uniqueIds names reserved)) names reserved := by
  have hsound := sound_assigned names reserved
  constructor
  · exact fun n hn => (hsound.given n _ (get?_assigned hn reserved)).1
  · intro m hm n hn heq
    have hsame := get?_assigned hn reserved
    rw [← heq] at hsame
    exact hsound.apart m n _ (get?_assigned hm reserved) hsame
  · exact fun n hn => (hsound.given n _ (get?_assigned hn reserved)).2.2

/-! ### Plain identifiers -/

theorem isAlpha_iff {c : Char} :
    c.isAlpha = true ↔ isIdChar c = true ∧ isLeadingJunk c = false := by
  by_cases hunder : c = '_'
  · subst hunder
    decide
  · have hdigit : isLeadingJunk.isAsciiDigit c = c.isDigit := rfl
    have hrange : c.isAlpha = true → c.isDigit = false := by
      intro halpha
      rw [Bool.eq_false_iff]
      intro hnumeral
      have hnine : c.val.toNat ≤ 57 := of_decide_eq_true (Bool.and_eq_true_iff.1 hnumeral).2
      rcases Bool.or_eq_true_iff.1 halpha with hupper | hlower
      · have hletter : 65 ≤ c.val.toNat := (of_decide_eq_true hupper).1
        omega
      · have hletter : 97 ≤ c.val.toNat := of_decide_eq_true (Bool.and_eq_true_iff.1 hlower).1
        omega
    simp only [isIdChar, isLeadingJunk, hdigit, Char.isAlphanum, beq_eq_false_iff_ne.2 hunder,
      Bool.or_false]
    cases halpha : c.isAlpha
    · simp
    · simp [hrange halpha]

/-- A letter, and then letters, digits and underscores, all of them plain ones. -/
def IsWord (id : String) : Prop :=
  ∃ c rest, id.toList = c :: rest ∧ c.isAlpha = true ∧
    ∀ d ∈ rest, d.isAlpha = true ∨ d.isDigit = true ∨ d = '_'

theorem isIdentifier_iff_isWord {id : String} : IsIdentifier id ↔ IsWord id := by
  have hchar : ∀ d, isIdChar d = true ↔ d.isAlpha = true ∨ d.isDigit = true ∨ d = '_' := by
    intro d
    simp [isIdChar, Char.isAlphanum, or_assoc]
  constructor
  · intro h
    obtain ⟨c, hc, hletter⟩ := h.start
    obtain ⟨rest, hrest⟩ := List.head?_eq_some_iff.1 hc
    have hchars := h.chars
    rw [hrest, List.forall_mem_cons] at hchars
    exact ⟨c, rest, hrest, isAlpha_iff.2 ⟨hchars.1, hletter⟩, fun d hd => (hchar d).1 (hchars.2 d hd)⟩
  · rintro ⟨c, rest, hlist, hc, hrest⟩
    obtain ⟨hplain, hletter⟩ := isAlpha_iff.1 hc
    refine ⟨?_, c, by simp [hlist], hletter⟩
    rw [hlist, List.forall_mem_cons]
    exact ⟨hplain, fun d hd => (hchar d).2 (hrest d hd)⟩

/-- What is an identifier already is kept. -/
theorem identifier_of_isIdentifier {id : String} (h : IsIdentifier id) : identifier id = id := by
  obtain ⟨c, hc, hletter⟩ := h.start
  obtain ⟨rest, hrest⟩ := List.head?_eq_some_iff.1 hc
  have hkept : id.toList.map (fun d => if isIdChar d then d else '_') = id.toList := by
    conv_rhs => rw [← List.map_id id.toList]
    exact List.map_congr_left fun d hd => if_pos (h.chars d hd)
  rw [identifier, identifierChars, hkept, hrest, List.dropWhile_cons_of_neg (by simp [hletter])]
  rw [List.isEmpty_cons, if_neg Bool.false_ne_true, ← hrest, String.ofList_toList]

/-! ### The search -/

/-- A search for an identifier of a base that has come to the `n`-th candidate ends with `id`. -/
inductive Finds (taken : List String) (base : String) : Nat → String → Prop where
  | free {n : Nat} (h : candidate base n ∉ taken) : Finds taken base n (candidate base n)
  | next {n : Nat} {id : String} (h : candidate base n ∈ taken)
      (hnext : Finds taken base (n + 1) id) : Finds taken base n id

section Search

variable {taken taken' : List String} {base id : String} {n : Nat}

theorem Finds.congr (h : ∀ c, c ∈ taken ↔ c ∈ taken') (hfinds : Finds taken base n id) :
    Finds taken' base n id := by
  induction hfinds with
  | free hfree => exact .free (mt (h _).2 hfree)
  | next htaken _ ih => exact .next ((h _).1 htaken) ih

/-- A base that is free is found at once. -/
theorem Finds.eq_of_notMem (h : Finds taken base 0 id) (hfree : base ∉ taken) : id = base := by
  cases h with
  | free => rfl
  | next htaken => exact absurd htaken hfree

/-- The search gets past taken candidates to the first one that is free. -/
theorem finds_of_least (hfree : candidate base n ∉ taken) (hleast : ∀ m < n, candidate base m ∈ taken) :
    Finds taken base 0 (candidate base n) := by
  have hback : ∀ k ≤ n, Finds taken base (n - k) (candidate base n) := by
    intro k
    induction k with
    | zero => exact fun _ => .free hfree
    | succ k ih =>
      intro hk
      have hnext := ih (by omega)
      rw [show n - k = n - (k + 1) + 1 by omega] at hnext
      exact .next (hleast _ (by omega)) hnext
  simpa using hback n le_rfl

/-- The search for an identifier ends. -/
theorem finds_firstFree (taken : List String) (base : String) :
    Finds taken base 0 (firstFree taken base) := by
  obtain ⟨hfree, -⟩ := firstFree_spec taken base
  rw [firstFree, List.find?_map] at hfree ⊢
  cases hfind : (List.range (taken.length + 1)).find?
      ((fun c => !taken.contains c) ∘ candidate base) with
  | none =>
    rw [hfind] at hfree
    exact Finds.free (n := 0) hfree
  | some n =>
    rw [hfind] at hfree
    rw [List.find?_range_eq_some] at hfind
    exact finds_of_least hfree (fun m hm => by simpa using hfind.2.2 m hm)

end Search

/-! ### One name after the other -/

section Assigned

variable {names reserved : List String} {name : String}

theorem assigned_append_singleton (names reserved : List String) (name : String) :
    assigned (names ++ [name]) reserved = (assigned names reserved).add name := by
  simp [assigned]

theorem entries_add_of_mem (h : name ∈ names) :
    (assigned names reserved).add name = assigned names reserved := by
  rw [Assignment.add, if_pos]
  exact OrderedMap.contains_iff.2 (((sound_assigned names reserved).named name).2 h)

/-- A new name goes to the end. -/
theorem entries_add_of_notMem (h : name ∉ names) :
    ((assigned names reserved).add name).ids.entries = (assigned names reserved).ids.entries ++
      [(name, firstFree (assigned names reserved).taken (identifier name))] := by
  have hnew : name ∉ (assigned names reserved).ids.keys :=
    mt ((sound_assigned names reserved).named name).1 h
  rw [Assignment.add, if_neg (mt OrderedMap.contains_iff.1 hnew)]
  exact OrderedMap.updateEntries_of_notMem hnew

theorem keys_assigned (names reserved : List String) :
    (assigned names reserved).ids.keys = distinct names := by
  induction names using List.reverseRecOn with
  | nil => rfl
  | append_singleton names name ih =>
    rw [assigned_append_singleton, OrderedMap.distinct_append_singleton]
    by_cases h : name ∈ names
    · rw [if_pos h, entries_add_of_mem h, ih]
    · rw [if_neg h, OrderedMap.keys, entries_add_of_notMem h, List.map_append, ← ih]
      rfl

/-- Names that follow add to the end. -/
theorem entries_assigned_prefix (names more reserved : List String) :
    (assigned names reserved).ids.entries <+: (assigned (names ++ more) reserved).ids.entries := by
  induction more using List.reverseRecOn with
  | nil => simp
  | append_singleton more name ih =>
    rw [← List.append_assoc, assigned_append_singleton]
    by_cases h : name ∈ names ++ more
    · rwa [entries_add_of_mem h]
    · rw [entries_add_of_notMem h]
      exact ih.trans (List.prefix_append _ _)

theorem idOf_append (h : name ∈ names) (more reserved : List String) :
    idOf (uniqueIds (names ++ more) reserved) name = idOf (uniqueIds names reserved) name := by
  obtain ⟨added, hadded⟩ := entries_assigned_prefix names more reserved
  have hget := get?_assigned (List.mem_append_left more h) reserved
  rw [OrderedMap.get?, ← hadded, OrderedMap.lookup_append] at hget
  have hold : OrderedMap.lookup name (assigned names reserved).ids.entries = _ :=
    get?_assigned h reserved
  rw [hold] at hget
  exact (Option.some.inj hget).symm

/-- A new name gets what is free when it comes. -/
theorem idOf_append_singleton (h : name ∉ names) :
    idOf (uniqueIds (names ++ [name]) reserved) name =
      firstFree (assigned names reserved).taken (identifier name) := by
  have hnone : OrderedMap.lookup name (assigned names reserved).ids.entries = none := by
    rw [← Option.not_isSome_iff_eq_none, OrderedMap.lookup_isSome_iff]
    exact mt ((sound_assigned names reserved).named name).1 h
  have hlast : name ∈ names ++ [name] := by simp
  have hget := get?_assigned hlast reserved
  rw [assigned_append_singleton, OrderedMap.get?, entries_add_of_notMem h,
    OrderedMap.lookup_append, hnone] at hget
  simpa [OrderedMap.lookup] using hget.symm

theorem map_idOf_append (names more reserved : List String) :
    names.map (idOf (uniqueIds (names ++ more) reserved)) =
      names.map (idOf (uniqueIds names reserved)) :=
  List.map_congr_left fun _ hn => idOf_append hn more reserved

/-- Taken are the reserved identifiers and those of the names so far. -/
theorem mem_taken_assigned {id : String} : id ∈ (assigned names reserved).taken ↔
    id ∈ reserved ++ names.map (idOf (uniqueIds names reserved)) := by
  induction names using List.reverseRecOn with
  | nil => simp [assigned]
  | append_singleton names name ih =>
    rw [assigned_append_singleton, List.map_append, ← List.append_assoc, List.mem_append,
      map_idOf_append, ← ih]
    by_cases h : name ∈ names
    · rw [entries_add_of_mem h, List.map_singleton, List.mem_singleton, idOf_append h]
      refine (or_iff_left_of_imp ?_).symm
      rintro rfl
      exact ih.2 (List.mem_append_right _ (List.mem_map_of_mem h))
    · have hnew : ¬ (assigned names reserved).ids.contains name = true :=
        fun hold => h (((sound_assigned names reserved).named name).1 (OrderedMap.contains_iff.1 hold))
      rw [List.map_singleton, idOf_append_singleton h, Assignment.add, if_neg hnew]
      simp [or_comm]

/-- Each name, when it is first seen, gets what its search finds among the identifiers that are
neither reserved nor given to a name before it. -/
theorem finds_idOf (reserved : List String) {before after : List String}
    (hnames : names = before ++ name :: after) (hnew : name ∉ before) :
    Finds (reserved ++ before.map (idOf (uniqueIds names reserved))) (identifier name) 0
      (idOf (uniqueIds names reserved) name) := by
  subst hnames
  rw [map_idOf_append, List.append_cons, idOf_append (by simp), idOf_append_singleton hnew]
  exact (finds_firstFree _ _).congr fun _ => mem_taken_assigned

end Assigned

/-- Names are told apart by identifiers that stay theirs. The map has the names in first-seen order;
each got the first candidate that was free when it came, which is its plain identifier if that was
free; and names that follow change nothing. Plain identifiers are kept as they are. -/
theorem uniqueIds_name (names reserved : List String) :
    (uniqueIds names reserved).keys = distinct names ∧
    (∀ name ∈ names, IsWord (idOf (uniqueIds names reserved) name)) ∧
    TellsApart (idOf (uniqueIds names reserved)) names reserved ∧
    (∀ before name after, names = before ++ name :: after → name ∉ before →
      Finds (reserved ++ before.map (idOf (uniqueIds names reserved))) (identifier name) 0
          (idOf (uniqueIds names reserved) name) ∧
        (identifier name ∉ reserved ++ before.map (idOf (uniqueIds names reserved)) →
          idOf (uniqueIds names reserved) name = identifier name)) ∧
    (∀ more, (uniqueIds names reserved).entries <+: (uniqueIds (names ++ more) reserved).entries) ∧
    ∀ name, IsWord (identifier name) ∧ identifier (identifier name) = identifier name := by
  have hapart := tellsApart_uniqueIds names reserved
  refine ⟨keys_assigned names reserved, fun n hn => isIdentifier_iff_isWord.1 (hapart.valid n hn),
    hapart, ?_, fun more => entries_assigned_prefix names more reserved, ?_⟩
  · intro before name after hnames hnew
    have hfinds := finds_idOf reserved hnames hnew
    exact ⟨hfinds, hfinds.eq_of_notMem⟩
  · intro name
    have hvalid := isIdentifier_identifier name
    exact ⟨isIdentifier_iff_isWord.1 hvalid, identifier_of_isIdentifier hvalid⟩

/-- A name that looks like a numbered one is in the way of its numbers. -/
example : (uniqueIds ["a b", "a-b", "a_b_1"] ["a_b_2"]).entries =
    [("a b", "a_b"), ("a-b", "a_b_1"), ("a_b_1", "a_b_1_1")] := by decide +kernel

end RepoAtlas.Diagram
