import Mathlib.Data.List.Find
import RepoAtlas.Diff.Detail
import RepoAtlas.Diff.Domain
import RepoAtlas.Proofs.Doc.JsonValue
import RepoAtlas.Proofs.Outcome

/-!
How sets of keys and the fields of types are compared. Between lists with the same keys nothing has
changed. Each definition of a type is held against the last one of its name, so in a payload
compared with itself a change is noted exactly if two definitions of one name have different fields.
-/
namespace RepoAtlas.Diff

open Doc

/-! ### Sets of keys -/

theorem mem_firstSeen {α : Type} [BEq α] {x : α} {xs : List α} (h : x ∈ firstSeen xs) :
    x ∈ xs := by
  induction xs with
  | nil => exact h
  | cons y rest ih =>
    rcases List.mem_cons.1 h with rfl | h
    · exact List.mem_cons_self
    · exact List.mem_cons_of_mem y (ih (List.mem_filter.1 h).1)

theorem mem_firstSeen_iff {α : Type} [BEq α] [LawfulBEq α] {x : α} {xs : List α} :
    x ∈ firstSeen xs ↔ x ∈ xs := by
  constructor
  · exact mem_firstSeen
  · intro h
    induction xs with
    | nil => exact h
    | cons y rest ih =>
      rw [firstSeen, List.mem_cons, List.mem_filter]
      rcases List.mem_cons.1 h with rfl | h
      · exact Or.inl rfl
      · by_cases hy : x = y
        · exact Or.inl hy
        · exact Or.inr ⟨ih h, by simpa using hy⟩

theorem nodup_firstSeen (xs : List String) : (firstSeen xs).Nodup := by
  induction xs with
  | nil => exact List.nodup_nil
  | cons x rest ih =>
    rw [firstSeen, List.nodup_cons]
    refine ⟨fun hx => ?_, ih.filter _⟩
    simpa using (List.mem_filter.1 hx).2

theorem nodup_missingFrom (others keys : List String) : (missingFrom others keys).Nodup :=
  (nodup_firstSeen keys).filter _

/-- Keys that equal themselves are not missing from their own list. -/
theorem missingFrom_self {α : Type} [BEq α] {xs : List α} (h : ∀ x ∈ xs, (x == x) = true) :
    missingFrom xs xs = [] := by
  rw [missingFrom, List.filter_eq_nil_iff]
  intro x hx
  have hmem := mem_firstSeen hx
  have : xs.contains x = true := List.contains_iff_exists_mem_beq.2 ⟨x, hmem, h x hmem⟩
  simp [this]

theorem SetChange.between_self {α : Type} [BEq α] {xs : List α}
    (h : ∀ x ∈ xs, (x == x) = true) : SetChange.between xs xs = {} := by
  rw [SetChange.between, missingFrom_self h]

theorem missingFrom_eq_nil_iff {xs ys : List String} :
    missingFrom xs ys = [] ↔ ∀ y ∈ ys, y ∈ xs := by
  rw [missingFrom, List.filter_eq_nil_iff]
  simp [mem_firstSeen_iff]

/-- Nothing has changed between lists with the same keys. -/
theorem SetChange.isEmpty_between_iff {xs ys : List String} :
    (SetChange.between xs ys).isEmpty = true ↔ ∀ x, x ∈ xs ↔ x ∈ ys := by
  simp only [SetChange.isEmpty, SetChange.between, Bool.and_eq_true, List.isEmpty_iff,
    missingFrom_eq_nil_iff]
  constructor
  · rintro ⟨hy, hx⟩ x
    exact ⟨hx x, hy x⟩
  · intro h
    exact ⟨fun y hy => (h y).2 hy, fun x hx => (h x).1 hx⟩

/-! ### Names -/

/-- Scalars are the same exactly if their plain forms are equal. -/
theorem same_iff_plain_eq {a b : Doc} (ha : isKey a = true) (hb : isKey b = true)
    (hja : a.isJson = true) (hjb : b.isJson = true) : a.same b = true ↔ a.plain = b.plain := by
  cases a with
  | list | object => simp [isKey] at ha
  | foreign => cases hja
  | float x =>
    cases b with
    | list | object => simp [isKey] at hb
    | foreign => cases hjb
    | float y => exact same_float_iff hja hjb
    | null | bool | int | text => cases hx : x.toInt? <;> simp [same, plain, whole?, hx]
  | null | bool | int | text =>
    cases b with
    | list | object => simp [isKey] at hb
    | foreign => cases hjb
    | float y => cases hy : y.toInt? <;> simp [same, plain, whole?, hy]
    | null | bool | int | text => simp [same, plain, whole?]

theorem same_self {d : Doc} (hk : isKey d = true) (hj : d.isJson = true) : d.same d = true :=
  (same_iff_plain_eq hk hk hj hj).2 rfl

/-- A JSON value that can stand in a set. -/
structure IsScalar (d : Doc) : Prop where
  key : isKey d = true
  json : d.isJson = true

theorem IsScalar.same_iff {a b : Doc} (ha : IsScalar a) (hb : IsScalar b) :
    a.same b = true ↔ a.plain = b.plain :=
  same_iff_plain_eq ha.key hb.key ha.json hb.json

theorem IsScalar.same_symm {a b : Doc} (ha : IsScalar a) (hb : IsScalar b)
    (h : a.same b = true) : b.same a = true := by
  rw [hb.same_iff ha, (ha.same_iff hb).1 h]

theorem IsScalar.same_congr {a b d : Doc} (ha : IsScalar a) (hb : IsScalar b) (hd : IsScalar d)
    (h : a.same b = true) : d.same b = d.same a := by
  rw [Bool.eq_iff_iff, hd.same_iff hb, hd.same_iff ha, (ha.same_iff hb).1 h]

theorem toKey_eq_ok_iff {d k : Doc} : toKey d = .ok k ↔ isKey d = true ∧ d = k := by
  simp only [toKey]
  split
  next h => simp [h]
  next h => simp [h]

/-! ### Fields of types -/

/-- Two definitions have the same name and different fields. -/
def HasRivalDefinitions (payload : Doc) : Prop :=
  ∃ types, itemsOf payload "types" = .ok types ∧ ∃ t ∈ types, ∃ u ∈ types,
    ∃ name other, requiredMember t "name" = .ok name ∧ requiredMember u "name" = .ok other ∧
      name.same other = true ∧
    ∃ fields others, namedItems "fields" t = .ok fields ∧ namedItems "fields" u = .ok others ∧
      ∃ f ∈ fields, f ∉ others

/-- The fields of a definition differ from those of the last old one of its name. -/
def ChangesFields (old : List (Doc × Doc)) (new : Doc) : Prop :=
  ∃ name t fields others, requiredMember new "name" = .ok name ∧ lastNamed? old name = some t ∧
    namedItems "fields" t = .ok fields ∧ namedItems "fields" new = .ok others ∧
    ¬ ∀ f, f ∈ fields ↔ f ∈ others

theorem put_ne_nil (found : FieldChanges) (name : Doc) (c : SetChange String) :
    found.put name c ≠ [] := by
  cases found with
  | nil => simp [FieldChanges.put]
  | cons e rest =>
    obtain ⟨n, old⟩ := e
    simp only [FieldChanges.put]
    split <;> simp

/-- One step of the comparison notes something exactly if the fields of the type differ. -/
theorem addFieldChange_eq_nil_iff {old : List (Doc × Doc)} {found cs : FieldChanges} {new : Doc}
    (h : addFieldChange old found new = .ok cs) :
    cs = [] ↔ found = [] ∧ ¬ ChangesFields old new := by
  simp only [addFieldChange, bind_eq_ok_iff, toKey_eq_ok_iff] at h
  obtain ⟨name, hname, _, ⟨_, rfl⟩, h⟩ := h
  cases hlast : lastNamed? old name with
  | none =>
    rw [hlast] at h
    obtain rfl := pure_eq_ok_iff.1 h
    simp [ChangesFields, hname, hlast]
  | some t =>
    simp only [hlast, bind_eq_ok_iff, pure_eq_ok_iff] at h
    obtain ⟨fields, hfields, others, hothers, rfl⟩ := h
    have hchange : ChangesFields old new ↔ ¬ ∀ f, f ∈ fields ↔ f ∈ others := by
      simp [ChangesFields, hname, hlast, hfields, hothers]
    rw [hchange, ← SetChange.isEmpty_between_iff]
    split
    next hempty => simp [hempty]
    next hempty => simp [hempty, put_ne_nil]

theorem foldlM_addFieldChange_eq_nil_iff {old : List (Doc × Doc)} {types : List Doc}
    {found cs : FieldChanges} (h : types.foldlM (addFieldChange old) found = .ok cs) :
    cs = [] ↔ found = [] ∧ ∀ t ∈ types, ¬ ChangesFields old t := by
  induction types generalizing found with
  | nil =>
    rw [List.foldlM_nil, pure_eq_ok_iff] at h
    simp [h]
  | cons t rest ih =>
    rw [List.foldlM_cons, bind_eq_ok_iff] at h
    obtain ⟨next, hnext, hrest⟩ := h
    rw [ih hrest, addFieldChange_eq_nil_iff hnext, List.forall_mem_cons, and_assoc]

theorem mem_of_lastNamed? {types : List (Doc × Doc)} {name t : Doc}
    (h : lastNamed? types name = some t) : ∃ n, (n, t) ∈ types ∧ n.same name = true := by
  simp only [lastNamed?, Option.map_eq_some_iff] at h
  obtain ⟨e, he, rfl⟩ := h
  have hsame := List.find?_some he
  exact ⟨e.1, by simpa using List.mem_of_find?_eq_some he, hsame⟩

theorem exists_lastNamed? {types : List (Doc × Doc)} {n name t : Doc} (ht : (n, t) ∈ types)
    (h : n.same name = true) : ∃ u, lastNamed? types name = some u := by
  have hsome : (types.reverse.find? (fun t => t.1.same name)).isSome = true := by
    rw [List.find?_isSome]
    exact ⟨(n, t), by simpa using ht, h⟩
  obtain ⟨e, he⟩ := Option.isSome_iff_exists.1 hsome
  exact ⟨e.2, by simp [lastNamed?, he]⟩

/-- The items of a member of a JSON value are JSON values. -/
theorem isJson_of_mem_itemsOf {d : Doc} (hj : d.isJson = true) {name : String}
    {items : List Doc} (h : itemsOf d name = .ok items) {item : Doc} (hi : item ∈ items) :
    item.isJson = true := by
  simp only [itemsOf, bind_eq_ok_iff] at h
  obtain ⟨member, hm, h⟩ := h
  cases d with
  | object ms =>
    obtain rfl : OrderedMap.lookup name ms = member := by simpa [memberOf] using hm
    cases hl : OrderedMap.lookup name ms with
    | none =>
      rw [hl] at h
      obtain rfl := pure_eq_ok_iff.1 h
      simp at hi
    | some v =>
      rw [hl] at h
      exact isJson_of_toItems (isJson_of_lookup hj hl) h item hi
  | _ => simp [memberOf] at hm

theorem isJson_of_requiredMember {d v : Doc} (hj : d.isJson = true) {name : String}
    (h : requiredMember d name = .ok v) : v.isJson = true := by
  cases d with
  | object ms =>
    simp only [requiredMember] at h
    split at h
    next w hw =>
      cases h
      exact isJson_of_lookup hj hw
    next => simp at h
  | _ => simp [requiredMember] at h

theorem isJson_of_mem_requestTargets {payload : Doc} (hj : payload.isJson = true)
    {targets : List Doc} (h : requestTargets payload = .ok targets) {target : Doc}
    (ht : target ∈ targets) : target.isJson = true := by
  simp only [requestTargets, bind_eq_ok_iff] at h
  obtain ⟨items, hitems, h⟩ := h
  obtain ⟨item, hi, h⟩ := mem_of_mapM_eq_ok h ht
  exact isJson_of_requiredMember (isJson_of_mem_itemsOf hj hitems hi) h

/-- The names of the types of a payload can stand in a set, and are JSON values. -/
theorem name_of_mem_namedTypes {payload : Doc} (hj : payload.isJson = true)
    {types : List (Doc × Doc)} (h : namedTypes payload = .ok types) {n t : Doc}
    (ht : (n, t) ∈ types) : ∃ items, itemsOf payload "types" = .ok items ∧ t ∈ items ∧
      requiredMember t "name" = .ok n ∧ IsScalar n := by
  simp only [namedTypes, bind_eq_ok_iff] at h
  obtain ⟨items, hitems, h⟩ := h
  obtain ⟨u, hu, h⟩ := mem_of_mapM_eq_ok h ht
  simp only [bind_eq_ok_iff, pure_eq_ok_iff, toKey_eq_ok_iff, Prod.mk.injEq] at h
  obtain ⟨name, hname, _, ⟨hkey, rfl⟩, rfl, rfl⟩ := h
  have hjson := isJson_of_requiredMember (isJson_of_mem_itemsOf hj hitems hu) hname
  exact ⟨items, hitems, hu, hname, hkey, hjson⟩

theorem exists_mem_namedTypes {payload : Doc} {types : List (Doc × Doc)} {items : List Doc}
    (h : namedTypes payload = .ok types) (hitems : itemsOf payload "types" = .ok items) {t : Doc}
    (ht : t ∈ items) : ∃ n, (n, t) ∈ types ∧ requiredMember t "name" = .ok n := by
  simp only [namedTypes, hitems, bind_eq_ok_iff, Except.ok.injEq, exists_eq_left'] at h
  obtain ⟨e, he, h⟩ := exists_mem_of_mapM_eq_ok h ht
  simp only [bind_eq_ok_iff, pure_eq_ok_iff, toKey_eq_ok_iff] at h
  obtain ⟨name, hname, _, ⟨_, rfl⟩, rfl⟩ := h
  exact ⟨name, he, hname⟩

theorem lastNamed?_congr {types : List (Doc × Doc)} {name other : Doc}
    (h : ∀ e ∈ types, e.1.same name = e.1.same other) :
    lastNamed? types name = lastNamed? types other := by
  rw [lastNamed?, lastNamed?]
  congr 1
  apply List.find?_congr
  intro e he
  exact h e (List.mem_reverse.1 he)

/-- A comparison that succeeds has the fields of every type and of the one it is compared
with. -/
theorem fields_of_foldlM_addFieldChange {old : List (Doc × Doc)} {types : List Doc}
    {found cs : FieldChanges} (h : types.foldlM (addFieldChange old) found = .ok cs) {new : Doc}
    (hnew : new ∈ types) {name t : Doc} (hname : requiredMember new "name" = .ok name)
    (hlast : lastNamed? old name = some t) : ∃ fields others,
      namedItems "fields" t = .ok fields ∧ namedItems "fields" new = .ok others := by
  induction types generalizing found with
  | nil => simp at hnew
  | cons u rest ih =>
    rw [List.foldlM_cons, bind_eq_ok_iff] at h
    obtain ⟨next, hnext, hrest⟩ := h
    rcases List.mem_cons.1 hnew with rfl | hnew
    · simp only [addFieldChange, hname, bind_eq_ok_iff, toKey_eq_ok_iff, Except.ok.injEq,
        exists_eq_left'] at hnext
      obtain ⟨_, ⟨_, rfl⟩, hnext⟩ := hnext
      simp only [hlast, bind_eq_ok_iff] at hnext
      obtain ⟨fields, hfields, others, hothers, _⟩ := hnext
      exact ⟨fields, others, hfields, hothers⟩
    · exact ih hrest hnew

section SelfComparison

variable {payload : Doc} {old : List (Doc × Doc)} {items : List Doc}

theorem mem_namedTypes (hold : namedTypes payload = .ok old)
    (hitems : itemsOf payload "types" = .ok items) {t name : Doc} (ht : t ∈ items)
    (hname : requiredMember t "name" = .ok name) : (name, t) ∈ old := by
  obtain ⟨n, hn, hnamed⟩ := exists_mem_namedTypes hold hitems ht
  rw [hname] at hnamed
  obtain rfl := Except.ok.inj hnamed
  exact hn

/-- If no definition differs from the last one of its name, no two of one name differ. -/
theorem not_hasRivalDefinitions (hj : payload.isJson = true)
    (hold : namedTypes payload = .ok old) (hitems : itemsOf payload "types" = .ok items)
    {cs : FieldChanges} (h : items.foldlM (addFieldChange old) [] = .ok cs)
    (hsame : ∀ t ∈ items, ¬ ChangesFields old t) : ¬ HasRivalDefinitions payload := by
  rintro ⟨items', hitems', t, ht, u, hu, name, other, hname, hother, hnames,
    fields, others, hfields, hothers, f, hf, hout⟩
  rw [hitems] at hitems'
  obtain rfl := Except.ok.inj hitems'
  have hmemt := mem_namedTypes hold hitems ht hname
  have hmemu := mem_namedTypes hold hitems hu hother
  obtain ⟨_, _, _, _, hnt⟩ := name_of_mem_namedTypes hj hold hmemt
  obtain ⟨_, _, _, _, hnu⟩ := name_of_mem_namedTypes hj hold hmemu
  obtain ⟨last, hlast⟩ := exists_lastNamed? hmemt (same_self hnt.key hnt.json)
  have hlast' : lastNamed? old other = some last := by
    rw [← hlast]
    apply lastNamed?_congr
    rintro ⟨n, d⟩ he
    obtain ⟨_, _, _, _, hn⟩ := name_of_mem_namedTypes hj hold he
    exact hnt.same_congr hnu hn hnames
  obtain ⟨common, _, hcommon, _⟩ := fields_of_foldlM_addFieldChange h ht hname hlast
  -- both definitions have the fields of the last one of their name
  have hft : ∀ f, f ∈ common ↔ f ∈ fields := by
    by_contra hne
    exact hsame t ht ⟨name, last, common, fields, hname, hlast, hcommon, hfields, hne⟩
  have hfu : ∀ f, f ∈ common ↔ f ∈ others := by
    by_contra hne
    exact hsame u hu ⟨other, last, common, others, hother, hlast', hcommon, hothers, hne⟩
  exact hout ((hfu f).1 ((hft f).2 hf))

/-- A definition that differs from the last one of its name is one of two that differ. -/
theorem hasRivalDefinitions_of_changesFields (hj : payload.isJson = true)
    (hold : namedTypes payload = .ok old) (hitems : itemsOf payload "types" = .ok items)
    {t : Doc} (ht : t ∈ items) (h : ChangesFields old t) : HasRivalDefinitions payload := by
  obtain ⟨name, u, fields, others, hname, hlast, hfields, hothers, hdiff⟩ := h
  obtain ⟨n, hn, hnames⟩ := mem_of_lastNamed? hlast
  obtain ⟨items', hitems', hu, hun, hscalar⟩ := name_of_mem_namedTypes hj hold hn
  rw [hitems] at hitems'
  obtain rfl := Except.ok.inj hitems'
  have hmemt := mem_namedTypes hold hitems ht hname
  obtain ⟨_, _, _, _, hscalart⟩ := name_of_mem_namedTypes hj hold hmemt
  have hback : name.same n = true := hscalar.same_symm hscalart hnames
  by_contra hrivals
  apply hdiff
  intro f
  constructor
  · intro hf
    by_contra hout
    exact hrivals ⟨items, hitems, u, hu, t, ht, n, name, hun, hname, hnames, fields, others,
      hfields, hothers, f, hf, hout⟩
  · intro hf
    by_contra hout
    exact hrivals ⟨items, hitems, t, ht, u, hu, name, n, hname, hun, hback, others, fields,
      hothers, hfields, f, hf, hout⟩

/-- Comparing the types of a payload with themselves notes nothing exactly if no two of one
name have different fields. -/
theorem fieldChanges_self_eq_nil_iff (hj : payload.isJson = true) {cs : FieldChanges}
    (h : fieldChanges payload payload = .ok cs) : cs = [] ↔ ¬ HasRivalDefinitions payload := by
  simp only [fieldChanges, bind_eq_ok_iff] at h
  obtain ⟨old, hold, items, hitems, h⟩ := h
  rw [foldlM_addFieldChange_eq_nil_iff h]
  constructor
  · rintro ⟨-, hsame⟩
    exact not_hasRivalDefinitions hj hold hitems h hsame
  · intro hrivals
    refine ⟨rfl, ?_⟩
    intro t ht hchange
    exact hrivals (hasRivalDefinitions_of_changesFields hj hold hitems ht hchange)

end SelfComparison

/-! ### Payloads compared with themselves

A payload compared with itself. Keys, calls, relationships, requests and resources never differ;
fields do, as soon as two definitions of one name have different ones.
-/

theorem textChange_self {member : String} {text : Doc → Result String} {payload : Doc}
    {c : SetChange String} (h : textChange member text payload payload = .ok c) : c = {} := by
  simp only [textChange, bind_eq_ok_iff, pure_eq_ok_iff] at h
  obtain ⟨items, hitems, old, hold, items', hitems', new, hnew, rfl⟩ := h
  obtain rfl : items = items' := by simpa [hitems] using hitems'
  obtain rfl : old = new := by simpa [hold] using hnew
  exact SetChange.between_self (by simp)

theorem requestDetail_self {payload : Doc} (hj : payload.isJson = true) {detail : Detail}
    (h : requestDetail payload payload = .ok detail) : detail = .requests {} := by
  simp only [requestDetail, bind_eq_ok_iff, pure_eq_ok_iff] at h
  obtain ⟨old, hold, new, hnew, keys, hkeys, keys', hkeys', rfl⟩ := h
  obtain rfl : old = new := by simpa [hold] using hnew
  obtain rfl : keys = keys' := by simpa [hkeys] using hkeys'
  rw [SetChange.between_self]
  intro k hk
  obtain ⟨target, ht, hkey⟩ := mem_of_mapM_eq_ok hkeys hk
  obtain ⟨hscalar, rfl⟩ := toKey_eq_ok_iff.1 hkey
  exact same_self hscalar (isJson_of_mem_requestTargets hj hold ht)

theorem resourceDetail_self {payload : Doc} {detail : Detail}
    (h : resourceDetail payload payload = .ok detail) : detail.hasChanges = false := by
  simp only [resourceDetail, bind_eq_ok_iff, pure_eq_ok_iff] at h
  obtain ⟨old, hold, new, hnew, rfl⟩ := h
  obtain rfl : old = new := by simpa [hold] using hnew
  simp [Detail.hasChanges]

theorem isObject_of_hasRivalDefinitions {payload : Doc} (h : HasRivalDefinitions payload) :
    payload.isObject = true := by
  obtain ⟨types, htypes, _⟩ := h
  simp only [itemsOf, bind_eq_ok_iff] at htypes
  obtain ⟨member, hm, _⟩ := htypes
  cases payload with
  | object => rfl
  | _ => simp [memberOf] at hm

theorem typeDetail_self_hasChanges_iff {payload : Doc} (hj : payload.isJson = true)
    {detail : Detail} (h : typeDetail payload payload = .ok detail) :
    detail.hasChanges = true ↔ HasRivalDefinitions payload := by
  simp only [typeDetail, bind_eq_ok_iff, pure_eq_ok_iff] at h
  obtain ⟨calls, hcalls, relationships, hrelationships, fields, hfields, rfl⟩ := h
  obtain rfl := textChange_self hcalls
  obtain rfl := textChange_self hrelationships
  have hnil := fieldChanges_self_eq_nil_iff hj hfields
  cases fields with
  | nil => simpa [Detail.hasChanges, SetChange.isEmpty] using hnil
  | cons => simpa [Detail.hasChanges, SetChange.isEmpty] using hnil

/-- The detail of a payload compared with itself shows rival definitions and nothing else. -/
theorem detailOf_self_hasChanges_iff {domain : String} {payload : Doc}
    (hj : payload.isJson = true) {detail : Detail}
    (h : detailOf domain payload payload = .ok detail) :
    detail.hasChanges = true ↔ domain = typeDomain ∧ HasRivalDefinitions payload := by
  simp only [detailOf] at h
  split at h
  next hobject =>
    cases h
    have hnone : ¬ HasRivalDefinitions payload := by
      intro hr
      simp [isObject_of_hasRivalDefinitions hr] at hobject
    simp [Detail.hasChanges, hnone]
  next =>
    split at h
    next htype =>
      rw [typeDetail_self_hasChanges_iff hj h]
      simp [htype]
    next htype =>
      simp only [htype, false_and, iff_false, Bool.not_eq_true]
      split at h
      · obtain rfl := requestDetail_self hj h
        rfl
      · split at h
        · exact resourceDetail_self h
        · cases h
          rfl

/-- Two payloads are compared by their keys and their details. -/
theorem between_of_both {before after : Doc} (hbefore : before ≠ .null) (hafter : after ≠ .null)
    (domain : String) : DomainDiff.between domain before after = (do
      let old ← domainKeys domain before
      let keys := SetChange.between old (← domainKeys domain after)
      let detail ← detailOf domain before after
      let status := if keys.isEmpty && !detail.hasChanges then Status.unchanged else .changed
      return { domain, status, keys, detail }) := by
  cases before with
  | null => exact absurd rfl hbefore
  | bool | int | float | text | list | object | foreign =>
    cases after with
    | null => exact absurd rfl hafter
    | bool | int | float | text | list | object | foreign => rfl

/-- A comparison of a payload with itself, where there is one. -/
theorem between_self_eq {domain : String} {payload : Doc} {r : DomainDiff}
    (h : DomainDiff.between domain payload payload = .ok r) :
    (payload = .null ∧ r = { domain, status := .unchanged }) ∨
      ∃ detail, detailOf domain payload payload = .ok detail ∧
        r = { domain, status := if detail.hasChanges then .changed else .unchanged, detail } := by
  by_cases hnull : payload = .null
  · subst hnull
    cases h
    exact Or.inl ⟨rfl, rfl⟩
  · right
    simp only [between_of_both hnull hnull, bind_eq_ok_iff, pure_eq_ok_iff] at h
    obtain ⟨old, hold, new, hnew, detail, hdetail, rfl⟩ := h
    obtain rfl : old = new := by simpa [hold] using hnew
    refine ⟨detail, hdetail, ?_⟩
    rw [SetChange.between_self (by simp)]
    cases detail.hasChanges <;> simp [SetChange.isEmpty]

/-- A payload compared with itself never gains or loses keys, and counts as unchanged exactly
if it is no type payload with two definitions of one name and different fields. -/
theorem between_self_unchanged_iff (domain : String) (payload : Doc)
    (hj : payload.isJson = true) {r : DomainDiff}
    (h : DomainDiff.between domain payload payload = .ok r) :
    r.keys.added = [] ∧ r.keys.removed = [] ∧
      (r.status = .unchanged ↔ ¬ (domain = typeDomain ∧ HasRivalDefinitions payload)) ∧
      (r.isEmpty = true ↔ ¬ (domain = typeDomain ∧ HasRivalDefinitions payload)) := by
  rcases between_self_eq h with ⟨rfl, rfl⟩ | ⟨detail, hdetail, rfl⟩
  · have hnone : ¬ HasRivalDefinitions .null := by
      intro hr
      simpa [Doc.isObject] using isObject_of_hasRivalDefinitions hr
    simp [DomainDiff.isEmpty, SetChange.isEmpty, hnone]
  · rw [← detailOf_self_hasChanges_iff hj hdetail]
    cases hc : detail.hasChanges <;> simp [DomainDiff.isEmpty, SetChange.isEmpty]

/-- Two files of a repository define a type of the same name, with different fields. -/
def rivalPayload : Doc :=
  .object [("types", .list [
    .object [("name", .text "User"), ("file", .text "a.py"),
      ("fields", .list [.object [("name", .text "id")]])],
    .object [("name", .text "User"), ("file", .text "b.py"),
      ("fields", .list [.object [("name", .text "email")]])]])]

/-- A payload that counts as changed although it is compared with itself. -/
theorem between_self_changed : ∃ r, rivalPayload.isJson = true ∧
    DomainDiff.between typeDomain rivalPayload rivalPayload = .ok r ∧
      r.status ≠ .unchanged ∧ r.isEmpty = false := by
  refine ⟨_, by decide, rfl, by decide, by decide⟩

/-- The same type in two files is no change if the fields are the same. -/
theorem between_self_unchanged_iff_same_fields :
    let payload : Doc := .object [("types", .list [
      .object [("name", .text "User"), ("file", .text "a.py"),
        ("fields", .list [.object [("name", .text "id")]])],
      .object [("name", .text "User"), ("file", .text "b.py"),
        ("fields", .list [.object [("name", .text "id")]])]])]
    payload.isJson = true ∧ ∃ r, DomainDiff.between typeDomain payload payload = .ok r ∧
      r.keys.added = [] ∧ r.keys.removed = [] ∧
      (r.status = .unchanged ↔ ¬ (typeDomain = typeDomain ∧ HasRivalDefinitions payload)) ∧
      (r.isEmpty = true ↔ ¬ (typeDomain = typeDomain ∧ HasRivalDefinitions payload)) :=
  ⟨by decide, _, rfl, between_self_unchanged_iff typeDomain _ (by decide) rfl⟩

end RepoAtlas.Diff
