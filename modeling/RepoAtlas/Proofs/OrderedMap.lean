import Mathlib.Data.List.Forall2
import Mathlib.Data.List.Induction
import RepoAtlas.OrderedMap

/-!
What the entries of a map are: each key once, with the value that a lookup finds. Grouping keeps
every item, under its key.
-/
namespace RepoAtlas.OrderedMap

variable {κ ν : Type} [DecidableEq κ]

theorem mem_of_lookup {k : κ} {v : ν} {entries : List (κ × ν)}
    (h : lookup k entries = some v) : (k, v) ∈ entries := by
  induction entries with
  | nil => simp [lookup] at h
  | cons e rest ih =>
    obtain ⟨j, w⟩ := e
    simp only [lookup] at h
    split at h
    next hj =>
      cases h
      simp [hj]
    next => exact List.mem_cons_of_mem _ (ih h)

theorem lookup_of_mem {e : κ × ν} {entries : List (κ × ν)}
    (hnodup : (entries.map (·.1)).Nodup) (he : e ∈ entries) :
    lookup e.1 entries = some e.2 := by
  induction entries with
  | nil => cases he
  | cons first rest ih =>
    obtain ⟨hnew, hrest⟩ := List.nodup_cons.1 hnodup
    rw [lookup]
    rcases List.mem_cons.1 he with rfl | he
    · rw [if_pos rfl]
    · have hne : first.1 ≠ e.1 := by
        intro heq
        exact hnew (List.mem_map.2 ⟨e, he, heq.symm⟩)
      rw [if_neg hne, ih hrest he]

theorem mem_entries_iff {m : OrderedMap κ ν} (h : m.keys.Nodup) {k : κ} {v : ν} :
    (k, v) ∈ m.entries ↔ m.get? k = some v :=
  ⟨lookup_of_mem h, mem_of_lookup⟩

/-- A new key goes to the end. -/
theorem updateEntries_of_notMem {k : κ} {f : Option ν → ν} {entries : List (κ × ν)}
    (h : k ∉ entries.map (·.1)) : updateEntries k f entries = entries ++ [(k, f none)] := by
  induction entries with
  | nil => rfl
  | cons e rest ih =>
    rw [List.map_cons, List.mem_cons, not_or] at h
    rw [updateEntries, if_neg (Ne.symm h.1), ih h.2, List.cons_append]

/-- Pairs with distinct keys stay as they stand. -/
theorem entries_ofList {ms : List (κ × ν)} (h : (ms.map (·.1)).Nodup) :
    (ofList ms).entries = ms := by
  have hstep : ∀ (done rest : List (κ × ν)), ((done ++ rest).map (·.1)).Nodup →
      (insertAll ⟨done⟩ rest).entries = done ++ rest := by
    intro done rest
    induction rest generalizing done with
    | nil => simp [insertAll]
    | cons m rest ih =>
      intro hnodup
      have hnew : m.1 ∉ done.map (·.1) := by
        rw [List.map_append, List.nodup_append] at hnodup
        intro hmem
        exact hnodup.2.2 m.1 hmem m.1 (by simp) rfl
      have hinsert : (OrderedMap.mk done).insert m.1 m.2 = ⟨done ++ [m]⟩ :=
        congrArg OrderedMap.mk (updateEntries_of_notMem hnew)
      have hnext := ih (done ++ [m]) (by simpa using hnodup)
      rw [List.append_assoc, List.singleton_append] at hnext
      rw [← hnext, ← hinsert]
      rfl
  exact hstep [] ms h

/-- One more item counts if it is new. -/
theorem distinct_append_singleton (xs : List κ) (x : κ) :
    distinct (xs ++ [x]) = if x ∈ xs then distinct xs else distinct xs ++ [x] := by
  induction xs with
  | nil => rfl
  | cons z rest ih =>
    rw [List.cons_append, distinct, distinct, ih]
    by_cases hz : x = z
    · subst hz
      by_cases hx : x ∈ rest <;> simp [hx]
    · by_cases hx : x ∈ rest <;> simp [hx, hz]

theorem ofList_append_singleton (ms : List (κ × ν)) (m : κ × ν) :
    ofList (ms ++ [m]) = (ofList ms).insert m.1 m.2 := by
  rw [ofList, insertAll, List.foldl_append]
  rfl

/-- The keys are those of the pairs, each once. -/
theorem keys_ofList (ms : List (κ × ν)) : (ofList ms).keys = distinct (ms.map (·.1)) := by
  induction ms using List.reverseRecOn with
  | nil => rfl
  | append_singleton ms m ih =>
    rw [ofList_append_singleton, insert, keys_update, ih, List.map_append, List.map_singleton,
      distinct_append_singleton]
    simp only [mem_distinct]

theorem mem_of_mem_updateEntries {k : κ} {v : ν} {e : κ × ν} {entries : List (κ × ν)}
    (h : e ∈ updateEntries k (fun _ => v) entries) : e ∈ entries ∨ e = (k, v) := by
  induction entries with
  | nil => exact Or.inr (List.mem_singleton.1 h)
  | cons first rest ih =>
    obtain ⟨j, w⟩ := first
    rw [updateEntries] at h
    split at h
    next hsame =>
      rcases List.mem_cons.1 h with rfl | hrest
      · exact Or.inr (by rw [hsame])
      · exact Or.inl (List.mem_cons_of_mem _ hrest)
    next =>
      rcases List.mem_cons.1 h with rfl | hrest
      · exact Or.inl List.mem_cons_self
      · exact (ih hrest).imp_left (List.mem_cons_of_mem _)

/-- Each entry was written as it stands. -/
theorem mem_of_mem_ofList {ms : List (κ × ν)} {e : κ × ν} (h : e ∈ (ofList ms).entries) :
    e ∈ ms := by
  induction ms using List.reverseRecOn with
  | nil => exact absurd h List.not_mem_nil
  | append_singleton ms m ih =>
    rw [ofList_append_singleton] at h
    rcases mem_of_mem_updateEntries h with hold | hnew
    · exact List.mem_append_left _ (ih hold)
    · exact List.mem_append_right _ (List.mem_singleton.2 hnew)

theorem nodup_keys_ofList (ms : List (κ × ν)) : (ofList ms).keys.Nodup := by
  rw [keys_ofList]
  exact nodup_distinct _

theorem lookup_append (k : κ) (xs ys : List (κ × ν)) :
    lookup k (xs ++ ys) = (lookup k xs).or (lookup k ys) := by
  induction xs with
  | nil => rfl
  | cons e rest ih =>
    rw [List.cons_append, lookup, lookup]
    split
    · rfl
    · exact ih

/-- Of pairs with distinct keys that are written to a map each one counts. -/
theorem get?_insertAll {ms : List (κ × ν)} (h : (ms.map (·.1)).Nodup) (m : OrderedMap κ ν) (k : κ) :
    (m.insertAll ms).get? k = (lookup k ms).or (m.get? k) := by
  induction ms generalizing m with
  | nil => rfl
  | cons e rest ih =>
    obtain ⟨hnew, hrest⟩ := List.nodup_cons.1 h
    have hstep := ih hrest (m.insert e.1 e.2)
    rw [insertAll, List.foldl_cons, ← insertAll, hstep, get?_insert, lookup]
    by_cases hk : k = e.1
    · subst hk
      have hnone : lookup e.1 rest = none := by
        rw [← Option.not_isSome_iff_eq_none, lookup_isSome_iff]
        exact hnew
      simp [hnone]
    · simp [hk, Ne.symm hk]

/-! ### Maps with other values -/

section MapValues

variable {μ : Type} {f f' : ν → μ} {m : OrderedMap κ ν}

/-- The same keys in the same order, with other values. -/
def mapValues (f : ν → μ) (m : OrderedMap κ ν) : OrderedMap κ μ :=
  ⟨m.entries.map (fun e => (e.1, f e.2))⟩

@[simp] theorem get?_mapValues (k : κ) : (m.mapValues f).get? k = (m.get? k).map f := by
  obtain ⟨entries⟩ := m
  rw [get?, get?, mapValues]
  induction entries with
  | nil => rfl
  | cons e rest ih =>
    obtain ⟨j, v⟩ := e
    rw [List.map_cons, lookup, lookup]
    split
    · rfl
    · exact ih

omit [DecidableEq κ] in
theorem mapValues_congr (h : ∀ v ∈ m.values, f v = f' v) : m.mapValues f = m.mapValues f' := by
  rw [mapValues, mapValues]
  congr 1
  apply List.map_congr_left
  intro e he
  rw [h e.2 (List.mem_map_of_mem he)]

/-- An update of the other values, if it agrees with one of the values at the key. -/
theorem update_mapValues {k : κ} {g : Option ν → ν} {g' : Option μ → μ}
    (h : g' ((m.get? k).map f) = f (g (m.get? k))) :
    (m.mapValues f).update k g' = (m.update k g).mapValues f := by
  obtain ⟨entries⟩ := m
  rw [get?] at h
  rw [update, update, mapValues, mapValues]
  congr 1
  induction entries with
  | nil => simpa [updateEntries, lookup] using h
  | cons e rest ih =>
    obtain ⟨j, v⟩ := e
    rw [lookup] at h
    rw [List.map_cons, updateEntries, updateEntries]
    split at h
    next hj =>
      rw [if_pos hj, if_pos hj, List.map_cons, ← h]
      rfl
    next hj => rw [if_neg hj, if_neg hj, List.map_cons, ih h]

/-- Where no value stands under two keys, another reading of the value of one key changes that key. -/
theorem mapValues_eq_update {k : κ} {v : ν} {g : Option μ → μ}
    (hnodup : m.values.Nodup) (hk : m.get? k = some v) (hchanged : f' v = g (some (f v)))
    (hothers : ∀ w ≠ v, f' w = f w) : m.mapValues f' = (m.mapValues f).update k g := by
  obtain ⟨entries⟩ := m
  rw [get?] at hk
  rw [values] at hnodup
  rw [update, mapValues, mapValues]
  congr 1
  induction entries with
  | nil => cases hk
  | cons e rest ih =>
    obtain ⟨j, w⟩ := e
    obtain ⟨hnew, hrest⟩ := List.nodup_cons.1 hnodup
    rw [lookup] at hk
    simp only [List.map_cons, updateEntries]
    split at hk
    next hj =>
      obtain rfl := Option.some.inj hk
      rw [if_pos hj, hchanged]
      congr 1
      apply List.map_congr_left
      intro e he
      have hne : e.2 ≠ w := fun heq => hnew (heq ▸ List.mem_map_of_mem (f := (·.2)) he)
      rw [hothers e.2 hne]
    next hj =>
      have hne : w ≠ v := by
        rintro rfl
        exact hnew (List.mem_map_of_mem (f := (·.2)) (mem_of_lookup hk))
      rw [if_neg hj, hothers w hne, ih hrest hk]

end MapValues

/-! ### Maps of first pairs -/

/-- The map of the pairs in which the first pair of a key counts. -/
def ofFirsts (ms : List (κ × ν)) : OrderedMap κ ν :=
  ms.foldl (fun m e => m.insertNew e.1 e.2) {}

theorem ofFirsts_append_singleton (ms : List (κ × ν)) (e : κ × ν) :
    ofFirsts (ms ++ [e]) = (ofFirsts ms).insertNew e.1 e.2 := by
  rw [ofFirsts, List.foldl_append]
  rfl

theorem get?_ofFirsts (ms : List (κ × ν)) (k : κ) : (ofFirsts ms).get? k = lookup k ms := by
  induction ms using List.reverseRecOn with
  | nil => rfl
  | append_singleton ms e ih =>
    rw [ofFirsts_append_singleton, insertNew, get?_update, lookup_append, lookup, ih]
    by_cases hk : k = e.1
    · subst hk
      rw [if_pos rfl, if_pos rfl, ih]
      cases lookup e.1 ms <;> rfl
    · rw [if_neg hk, if_neg (Ne.symm hk), lookup, Option.or_none]

theorem keys_ofFirsts (ms : List (κ × ν)) : (ofFirsts ms).keys = distinct (ms.map (·.1)) := by
  induction ms using List.reverseRecOn with
  | nil => rfl
  | append_singleton ms e ih =>
    rw [ofFirsts_append_singleton, insertNew, keys_update, ih, List.map_append, List.map_singleton,
      distinct_append_singleton]
    simp only [mem_distinct]

/-! ### Maps with the same keys -/

section Related

variable {R : ν → ν → Prop} {m m' : OrderedMap κ ν}

/-- The same keys in the same order, with related values. -/
def Related (R : ν → ν → Prop) (m m' : OrderedMap κ ν) : Prop :=
  List.Forall₂ (fun e e' => e.1 = e'.1 ∧ R e.2 e'.2) m.entries m'.entries

omit [DecidableEq κ] in
theorem Related.keys_eq (h : m.Related R m') : m.keys = m'.keys := by
  have hentries : List.Forall₂ (fun e e' => e.1 = e'.1) m.entries m'.entries :=
    h.imp fun _ _ hrel => hrel.1
  rw [keys, keys, ← List.forall₂_eq_eq_eq, List.forall₂_map_left_iff, List.forall₂_map_right_iff]
  exact hentries

theorem Related.get? (h : m.Related R m') (k : κ) : Option.Rel R (m.get? k) (m'.get? k) := by
  obtain ⟨entries⟩ := m
  obtain ⟨entries'⟩ := m'
  unfold Related at h
  rw [OrderedMap.get?, OrderedMap.get?]
  dsimp only at h ⊢
  induction h with
  | nil => exact .none
  | @cons e e' _ _ hrel _ ih =>
    obtain ⟨j, v⟩ := e
    obtain ⟨j', v'⟩ := e'
    obtain ⟨rfl, hv⟩ := hrel
    rw [lookup, lookup]
    split
    · exact .some hv
    · exact ih

theorem Related.update (h : m.Related R m') (k : κ) {f f' : Option ν → ν}
    (hf : ∀ v v', Option.Rel R v v' → R (f v) (f' v')) :
    (m.update k f).Related R (m'.update k f') := by
  obtain ⟨entries⟩ := m
  obtain ⟨entries'⟩ := m'
  unfold Related at h ⊢
  rw [OrderedMap.update, OrderedMap.update]
  dsimp only at h ⊢
  induction h with
  | nil => exact .cons ⟨rfl, hf none none .none⟩ .nil
  | @cons e e' _ _ hrel hrest ih =>
    obtain ⟨j, w⟩ := e
    obtain ⟨j', w'⟩ := e'
    obtain ⟨rfl, hw⟩ := hrel
    rw [updateEntries, updateEntries]
    split
    · exact .cons ⟨rfl, hf _ _ (.some hw)⟩ hrest
    · exact .cons ⟨rfl, hw⟩ ih

theorem Related.insertNew (h : m.Related R m') (k : κ) {v v' : ν} (hv : R v v') :
    (m.insertNew k v).Related R (m'.insertNew k v') := by
  refine h.update k fun found found' hfound => ?_
  cases hfound with
  | none => exact hv
  | some hw => exact hw

theorem Related.insertAll (h : m.Related R m') {ms ms' : List (κ × ν)}
    (hms : List.Forall₂ (fun e e' => e.1 = e'.1 ∧ R e.2 e'.2) ms ms') :
    (m.insertAll ms).Related R (m'.insertAll ms') := by
  induction hms generalizing m m' with
  | nil => exact h
  | @cons e e' _ _ he _ ih =>
    obtain ⟨k, v⟩ := e
    obtain ⟨k', v'⟩ := e'
    obtain ⟨rfl, hv⟩ := he
    exact ih (h.update k fun _ _ _ => hv)

theorem related_ofList {ms ms' : List (κ × ν)}
    (h : List.Forall₂ (fun e e' => e.1 = e'.1 ∧ R e.2 e'.2) ms ms') :
    (ofList ms).Related R (ofList ms') :=
  Related.insertAll .nil h

end Related

/-! ### Groups -/

section Groups

variable (key : ν → κ)

theorem groupedBy_append_singleton (items : List ν) (x : ν) :
    groupedBy key (items ++ [x]) =
      (groupedBy key items).update (key x) (fun found => found.getD [] ++ [x]) := by
  rw [groupedBy, List.foldl_append]
  rfl

theorem nodup_keys_groupedBy (items : List ν) : (groupedBy key items).keys.Nodup := by
  induction items using List.reverseRecOn with
  | nil => exact List.nodup_nil
  | append_singleton items x ih =>
    rw [groupedBy_append_singleton]
    exact nodup_keys_update ih _ _

/-- A key's group has all the items of the key, in their order; no group is empty. -/
theorem get?_groupedBy (items : List ν) (k : κ) :
    (groupedBy key items).get? k =
      if items.filter (fun x => key x = k) = [] then none
      else some (items.filter (fun x => key x = k)) := by
  induction items using List.reverseRecOn with
  | nil => rfl
  | append_singleton items x ih =>
    rw [groupedBy_append_singleton, get?_update, List.filter_append]
    by_cases hk : key x = k
    · subst hk
      have hgroup : ((groupedBy key items).get? (key x)).getD [] =
          items.filter (fun y => key y = key x) := by
        rw [ih]
        split
        next hnone => exact hnone.symm
        next => rfl
      simp [hgroup]
    · have hnone : [x].filter (fun y => key y = k) = [] := by simp [hk]
      rw [if_neg (Ne.symm hk), ih, hnone, List.append_nil]

theorem getD_get?_groupedBy (items : List ν) (k : κ) :
    ((groupedBy key items).get? k).getD [] = items.filter (fun x => key x = k) := by
  rw [get?_groupedBy]
  split
  next hnone => exact hnone.symm
  next => rfl

theorem mem_entries_groupedBy {items : List ν} {k : κ} {group : List ν} :
    (k, group) ∈ (groupedBy key items).entries ↔
      group = items.filter (fun x => key x = k) ∧ group ≠ [] := by
  rw [mem_entries_iff (nodup_keys_groupedBy key items), get?_groupedBy]
  split
  next hnone =>
    simp only [reduceCtorEq, false_iff, not_and, not_not]
    exact fun h => h.trans hnone
  next hsome =>
    rw [Option.some.injEq]
    constructor
    · rintro rfl
      exact ⟨rfl, hsome⟩
    · exact fun h => h.1.symm

theorem mem_keys_groupedBy {items : List ν} {k : κ} :
    k ∈ (groupedBy key items).keys ↔ ∃ x ∈ items, key x = k := by
  rw [← contains_iff, contains, get?_groupedBy]
  split
  next hnone => simpa [List.filter_eq_nil_iff] using hnone
  next hsome => simpa [List.filter_eq_nil_iff] using hsome

theorem values_updateEntries_perm (k : κ) (x : ν) (entries : List (κ × List ν)) :
    ((updateEntries k (fun found => found.getD [] ++ [x]) entries).flatMap (·.2)).Perm
      (entries.flatMap (·.2) ++ [x]) := by
  induction entries with
  | nil => exact List.Perm.refl _
  | cons e rest ih =>
    obtain ⟨j, group⟩ := e
    rw [updateEntries]
    split
    · simp only [List.flatMap_cons, Option.getD_some, List.append_assoc]
      exact List.perm_append_comm.append_left group
    · simp only [List.flatMap_cons, List.append_assoc]
      exact ih.append_left group

/-- Grouping neither loses nor doubles an item. -/
theorem values_groupedBy_perm (items : List ν) :
    (groupedBy key items).values.flatten.Perm items := by
  rw [values, ← List.flatMap_def]
  induction items using List.reverseRecOn with
  | nil => exact List.Perm.refl _
  | append_singleton items x ih =>
    rw [groupedBy_append_singleton]
    exact (values_updateEntries_perm (key x) x _).trans (ih.append_right [x])

end Groups

/-- Groups of items by a key that is one of some keys hold all the items. -/
theorem flatMap_filter_perm {α β : Type} [BEq β] [LawfulBEq β] (key : α → β) {keys : List β}
    (hkeys : keys.Nodup) {items : List α} (h : ∀ x ∈ items, key x ∈ keys) :
    (keys.flatMap (fun k => items.filter (fun x => key x == k))).Perm items := by
  induction keys generalizing items with
  | nil =>
    obtain rfl := List.eq_nil_iff_forall_not_mem.2 fun x hx => List.not_mem_nil (h x hx)
    exact .refl _
  | cons k rest ih =>
    obtain ⟨hnew, hrest⟩ := List.nodup_cons.1 hkeys
    have hmem : ∀ x ∈ items.filter (fun x => !(key x == k)), key x ∈ rest := by
      intro x hx
      obtain ⟨hx, hne⟩ := List.mem_filter.1 hx
      rw [Bool.not_eq_true', beq_eq_false_iff_ne] at hne
      exact (List.mem_cons.1 (h x hx)).resolve_left hne
    have hothers := ih hrest hmem
    have hsame : rest.flatMap (fun j => (items.filter (fun x => !(key x == k))).filter
        (fun x => key x == j)) = rest.flatMap (fun j => items.filter (fun x => key x == j)) := by
      refine List.flatMap_congr fun j hj => ?_
      rw [List.filter_filter]
      refine List.filter_congr fun x _ => ?_
      cases hkey : key x == j with
      | false => rfl
      | true =>
        rw [eq_of_beq hkey, Bool.true_and, Bool.not_eq_true', beq_eq_false_iff_ne]
        exact fun heq => hnew (heq ▸ hj)
    rw [hsame] at hothers
    rw [List.flatMap_cons]
    exact (hothers.append_left _).trans (List.filter_append_perm _ _)

end RepoAtlas.OrderedMap
