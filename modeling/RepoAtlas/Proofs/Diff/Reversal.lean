import Mathlib.Data.List.Induction
import Mathlib.Data.List.Nodup
import RepoAtlas.Proofs.Diff.RivalDefinitions

/-!
A comparison read backwards is the comparison the other way round: what one side gained the other
has lost. Only the fields of types need a word more, since each definition is held against the last
one of its name: where names are distinct, both directions compare the same definitions.
-/
namespace RepoAtlas.Diff

/-! ### Sets of keys -/

theorem SetChange.isEmpty_reverse {α : Type} (c : SetChange α) : c.reverse.isEmpty = c.isEmpty :=
  Bool.and_comm _ _

theorem mem_missingFrom_iff {xs ys : List String} {k : String} :
    k ∈ missingFrom xs ys ↔ k ∈ ys ∧ k ∉ xs := by
  rw [missingFrom, List.mem_filter, mem_firstSeen_iff]
  simp

/-! ### Fields of types with distinct names -/

/-- The types of a payload have distinct texts for names. -/
def HasDistinctNames (payload : Doc) : Prop :=
  ∀ types, itemsOf payload "types" = .ok types →
    ∃ named : List (String × Doc), named.map (·.2) = types ∧ (named.map (·.1)).Nodup ∧
      ∀ e ∈ named, requiredMember e.2 "name" = .ok (.text e.1)

/-- Both sides define the type, with fields that differ by the change. -/
def Differs (old new : List (String × Doc)) (name : String) (c : SetChange String) : Prop :=
  ∃ t u fields others, (name, t) ∈ old ∧ (name, u) ∈ new ∧ namedItems "fields" t = .ok fields ∧
    namedItems "fields" u = .ok others ∧ c = .between fields others ∧ c.isEmpty = false

theorem Differs.reverse {old new : List (String × Doc)} {name : String} {c : SetChange String}
    (h : Differs old new name c) : Differs new old name c.reverse := by
  obtain ⟨t, u, fields, others, ht, hu, hfields, hothers, rfl, hsome⟩ := h
  exact ⟨u, t, others, fields, hu, ht, hothers, hfields, rfl,
    (SetChange.isEmpty_reverse _).trans hsome⟩

/-- Entries whose names are texts. -/
def underTexts {α : Type} (entries : List (String × α)) : List (Doc × α) :=
  entries.map (fun e => (.text e.1, e.2))

theorem same_text_iff {a b : String} : (Doc.text a).same (.text b) = true ↔ a = b := by
  simp [Doc.same]

section Named

variable {old new : List (String × Doc)}

theorem put_underTexts {changes : List (String × SetChange String)} {name : String}
    (h : name ∉ changes.map (·.1)) (c : SetChange String) :
    FieldChanges.put (.text name) c (underTexts changes) = underTexts (changes ++ [(name, c)]) := by
  induction changes with
  | nil => rfl
  | cons e rest ih =>
    rw [List.map_cons, List.mem_cons, not_or] at h
    have hother : ¬ (Doc.text e.1).same (.text name) = true :=
      fun hsame => h.1 (same_text_iff.1 hsame).symm
    change (if (Doc.text e.1).same (.text name) then _ else _) = _
    rw [if_neg hother]
    exact congrArg ((Doc.text e.1, e.2) :: ·) (ih h.2)

/-- Under distinct names there is one type to find. -/
theorem lastNamed?_underTexts (hnodup : (old.map (·.1)).Nodup) {name : String} {t : Doc} :
    lastNamed? (underTexts old) (.text name) = some t ↔ (name, t) ∈ old := by
  have hmem : ∀ {u : Doc}, lastNamed? (underTexts old) (.text name) = some u → (name, u) ∈ old := by
    intro u hu
    obtain ⟨n, hn, hsame⟩ := mem_of_lastNamed? hu
    obtain ⟨e, he, heq⟩ := List.mem_map.1 hn
    obtain ⟨rfl, rfl⟩ := Prod.mk.inj heq
    obtain rfl := same_text_iff.1 hsame
    exact he
  constructor
  · exact hmem
  · intro ht
    have htext : (Doc.text name, t) ∈ underTexts old := List.mem_map.2 ⟨(name, t), ht, rfl⟩
    obtain ⟨u, hu⟩ := exists_lastNamed? htext (same_text_iff.2 rfl)
    have hsame := OrderedMap.lookup_of_mem hnodup (hmem hu)
    rw [OrderedMap.lookup_of_mem hnodup ht] at hsame
    exact hu.trans hsame.symm

/-- The changes noted for the types that both sides define. -/
structure Notes (old new : List (String × Doc)) (changes : List (String × SetChange String)) :
    Prop where
  names : (changes.map (·.1)).Sublist (new.map (·.1))
  mem_iff : ∀ name c, (name, c) ∈ changes ↔ Differs old new name c

theorem Differs.snoc_iff {name : String} {u : Doc} {other : String} {c : SetChange String} :
    Differs old (new ++ [(name, u)]) other c ↔
      Differs old new other c ∨ Differs old [(name, u)] other c := by
  constructor
  · rintro ⟨t, v, fields, others, ht, hv, hrest⟩
    rcases List.mem_append.1 hv with hv | hv
    · exact Or.inl ⟨t, v, fields, others, ht, hv, hrest⟩
    · exact Or.inr ⟨t, v, fields, others, ht, hv, hrest⟩
  · rintro (⟨t, v, fields, others, ht, hv, hrest⟩ | ⟨t, v, fields, others, ht, hv, hrest⟩)
    · exact ⟨t, v, fields, others, ht, List.mem_append_left _ hv, hrest⟩
    · exact ⟨t, v, fields, others, ht, List.mem_append_right _ hv, hrest⟩

theorem Notes.snoc_none {changes : List (String × SetChange String)} (h : Notes old new changes)
    {name : String} {u : Doc} (hnone : ∀ other c, ¬ Differs old [(name, u)] other c) :
    Notes old (new ++ [(name, u)]) changes where
  names := h.names.trans ((List.sublist_append_left new _).map _)
  mem_iff := by
    intro other c
    rw [h.mem_iff, Differs.snoc_iff]
    exact (or_iff_left (hnone other c)).symm

theorem Notes.snoc_some {changes : List (String × SetChange String)} (h : Notes old new changes)
    {name : String} {u : Doc} {c : SetChange String}
    (hone : ∀ other d, Differs old [(name, u)] other d ↔ other = name ∧ d = c) :
    Notes old (new ++ [(name, u)]) (changes ++ [(name, c)]) where
  names := by
    rw [List.map_append, List.map_append]
    exact h.names.append (List.Sublist.refl _)
  mem_iff := by
    intro other d
    rw [List.mem_append, h.mem_iff, Differs.snoc_iff, hone, List.mem_singleton, Prod.mk.injEq]

/-- The change that one type may give is that between its two definitions. -/
theorem Differs.singleton_iff (hold : (old.map (·.1)).Nodup) {name : String} {t u : Doc}
    {fields others : List String} (ht : (name, t) ∈ old)
    (hfields : namedItems "fields" t = .ok fields) (hothers : namedItems "fields" u = .ok others)
    {other : String} {d : SetChange String} :
    Differs old [(name, u)] other d ↔
      other = name ∧ d = .between fields others ∧ d.isEmpty = false := by
  constructor
  · rintro ⟨t', v, fields', others', ht', hv, hfields', hothers', rfl, hsome⟩
    obtain ⟨rfl, rfl⟩ := Prod.mk.inj (List.mem_singleton.1 hv)
    have hsame := OrderedMap.lookup_of_mem hold ht
    rw [OrderedMap.lookup_of_mem hold ht'] at hsame
    obtain rfl := Option.some.inj hsame
    obtain rfl := Except.ok.inj (hfields.symm.trans hfields')
    obtain rfl := Except.ok.inj (hothers.symm.trans hothers')
    exact ⟨rfl, rfl, hsome⟩
  · rintro ⟨rfl, rfl, hsome⟩
    exact ⟨t, u, fields, others, ht, List.mem_singleton_self _, hfields, hothers, rfl, hsome⟩

/-- One step of the comparison notes the change of one type. -/
theorem Notes.step (hold : (old.map (·.1)).Nodup) {changes : List (String × SetChange String)}
    (h : Notes old new changes) {name : String} {u : Doc} (hnew : name ∉ new.map (·.1))
    (hname : requiredMember u "name" = .ok (.text name)) {next : FieldChanges}
    (hnext : addFieldChange (underTexts old) (underTexts changes) u = .ok next) :
    ∃ more, next = underTexts more ∧ Notes old (new ++ [(name, u)]) more := by
  simp only [addFieldChange, hname, bind_eq_ok_iff, toKey_eq_ok_iff, Except.ok.injEq,
    exists_eq_left'] at hnext
  obtain ⟨_, ⟨-, rfl⟩, hnext⟩ := hnext
  cases hlast : lastNamed? (underTexts old) (.text name) with
  | none =>
    rw [hlast] at hnext
    obtain rfl := pure_eq_ok_iff.1 hnext
    refine ⟨changes, rfl, h.snoc_none ?_⟩
    rintro other c ⟨t, v, fields, others, ht, hv, -⟩
    obtain ⟨rfl, rfl⟩ := Prod.mk.inj (List.mem_singleton.1 hv)
    rw [(lastNamed?_underTexts hold).2 ht] at hlast
    cases hlast
  | some t =>
    have ht := (lastNamed?_underTexts hold).1 hlast
    simp only [hlast, bind_eq_ok_iff, pure_eq_ok_iff] at hnext
    obtain ⟨fields, hfields, others, hothers, rfl⟩ := hnext
    split
    next hempty =>
      refine ⟨changes, rfl, h.snoc_none ?_⟩
      intro other d hd
      obtain ⟨-, rfl, hsome⟩ := (Differs.singleton_iff hold ht hfields hothers).1 hd
      rw [hempty] at hsome
      cases hsome
    next hsome =>
      have hfresh : name ∉ changes.map (·.1) := fun hmem => hnew (h.names.subset hmem)
      refine ⟨_, put_underTexts hfresh _, h.snoc_some ?_⟩
      intro other d
      rw [Differs.singleton_iff hold ht hfields hothers]
      refine and_congr_right fun _ => and_iff_left_of_imp ?_
      rintro rfl
      exact Bool.eq_false_iff.2 hsome

/-- A whole comparison notes the changes of all types that both sides define. -/
theorem exists_notes (hold : (old.map (·.1)).Nodup) (hnew : (new.map (·.1)).Nodup)
    (hnames : ∀ e ∈ new, requiredMember e.2 "name" = .ok (.text e.1)) {cs : FieldChanges}
    (h : (new.map (·.2)).foldlM (addFieldChange (underTexts old)) [] = .ok cs) :
    ∃ changes, cs = underTexts changes ∧ Notes old new changes := by
  induction new using List.reverseRecOn generalizing cs with
  | nil =>
    obtain rfl := pure_eq_ok_iff.1 h
    refine ⟨[], rfl, List.Sublist.refl _, ?_⟩
    intro name c
    constructor
    · intro hmem
      cases hmem
    · rintro ⟨t, u, fields, others, -, hu, -⟩
      cases hu
  | append_singleton done e ih =>
    rw [List.map_append, List.foldlM_append, bind_eq_ok_iff] at h
    obtain ⟨found, hfound, hlast⟩ := h
    rw [List.map_append, List.nodup_append] at hnew
    obtain ⟨changes, rfl, hnotes⟩ := ih hnew.1
      (fun d hd => hnames d (List.mem_append_left _ hd)) hfound
    rw [List.map_singleton, List.foldlM_cons, bind_eq_ok_iff] at hlast
    obtain ⟨next, hnext, hdone⟩ := hlast
    obtain rfl := pure_eq_ok_iff.1 hdone
    refine hnotes.step hold ?_ (hnames e (List.mem_append_right _ List.mem_cons_self)) hnext
    intro hmem
    exact hnew.2.2 e.1 hmem e.1 (by simp) rfl

/-- The changes noted the other way round are the reversed ones. -/
theorem Notes.perm_reverse {changes others : List (String × SetChange String)}
    (hold : (old.map (·.1)).Nodup) (hnew : (new.map (·.1)).Nodup) (h : Notes old new changes)
    (hback : Notes new old others) :
    others.Perm (changes.map (fun e => (e.1, e.2.reverse))) := by
  have hothers : others.Nodup := List.Nodup.of_map _ (hold.sublist hback.names)
  have hnames : (changes.map (fun e => (e.1, e.2.reverse))).map (·.1) = changes.map (·.1) := by
    rw [List.map_map]
    rfl
  have hchanges : (changes.map (fun e => (e.1, e.2.reverse))).Nodup :=
    List.Nodup.of_map (·.1) (hnames ▸ hnew.sublist h.names)
  refine (List.perm_ext_iff_of_nodup hothers hchanges).2 ?_
  rintro ⟨name, c⟩
  rw [hback.mem_iff, List.mem_map]
  constructor
  · intro hc
    exact ⟨(name, c.reverse), (h.mem_iff _ _).2 hc.reverse, rfl⟩
  · rintro ⟨⟨other, d⟩, hd, heq⟩
    obtain ⟨rfl, rfl⟩ := Prod.mk.inj heq
    exact ((h.mem_iff _ _).1 hd).reverse

end Named

/-- Entries with their changes reversed. -/
def FieldChanges.reverse (cs : FieldChanges) : FieldChanges :=
  cs.map (fun e => (e.1, e.2.reverse))

theorem namedTypes_eq {payload : Doc} {named : List (String × Doc)}
    (hitems : itemsOf payload "types" = .ok (named.map (·.2)))
    (hnames : ∀ e ∈ named, requiredMember e.2 "name" = .ok (.text e.1)) :
    namedTypes payload = .ok (underTexts named) := by
  rw [namedTypes, hitems]
  change (named.map (·.2)).mapM _ = _
  rw [List.mapM_map]
  refine mapM_eq_ok_map ?_
  intro e he
  simp only [Function.comp_apply, hnames e he]
  rfl

/-- What the fields of one direction have gained those of the other have lost. -/
theorem fieldChanges_reverse {before after : Doc} (hbefore : HasDistinctNames before)
    (hafter : HasDistinctNames after) {cs back : FieldChanges}
    (h : fieldChanges before after = .ok cs) (hback : fieldChanges after before = .ok back) :
    List.Perm back cs.reverse := by
  simp only [fieldChanges, bind_eq_ok_iff] at h hback
  obtain ⟨old, hold, news, hnews, h⟩ := h
  obtain ⟨new, hnew, olds, holds, hback⟩ := hback
  obtain ⟨oldNamed, rfl, holdNodup, holdNames⟩ := hbefore olds holds
  obtain ⟨newNamed, rfl, hnewNodup, hnewNames⟩ := hafter news hnews
  obtain rfl := Except.ok.inj ((namedTypes_eq holds holdNames).symm.trans hold)
  obtain rfl := Except.ok.inj ((namedTypes_eq hnews hnewNames).symm.trans hnew)
  obtain ⟨changes, rfl, hchanges⟩ := exists_notes holdNodup hnewNodup hnewNames h
  obtain ⟨others, rfl, hothers⟩ := exists_notes hnewNodup holdNodup holdNames hback
  have hperm := (hchanges.perm_reverse holdNodup hnewNodup hothers).map
    (fun e => (Doc.text e.1, e.2))
  rw [List.map_map] at hperm
  rw [FieldChanges.reverse, underTexts, underTexts, List.map_map]
  exact hperm

/-! ### Details and statuses -/

/-- The status read backwards. -/
def Status.reverse : Status → Status
  | .new => .removed
  | .removed => .new
  | .changed => .changed
  | .unchanged => .unchanged

/-- The second detail is the first one read backwards; the fields of types are noted by name, in
any order. -/
inductive Detail.Mirrors : Detail → Detail → Prop
  | nothing : Mirrors .nothing .nothing
  | facts (payload) : Mirrors (.facts payload) (.facts payload)
  | types (calls relationships) {fields back : FieldChanges} : List.Perm back fields.reverse →
    Mirrors (.types calls relationships fields) (.types calls.reverse relationships.reverse back)
  | requests (targets) : Mirrors (.requests targets) (.requests targets.reverse)
  | resources (before after delta) :
    Mirrors (.resources before after delta) (.resources after before (-delta))

theorem Detail.Mirrors.hasChanges_eq {d back : Detail} (h : d.Mirrors back) :
    back.hasChanges = d.hasChanges := by
  cases h with
  | nothing | facts => rfl
  | @types calls relationships fields back hperm =>
    have hempty : back.isEmpty = fields.isEmpty := by
      rw [Bool.eq_iff_iff, List.isEmpty_iff, List.isEmpty_iff, ← List.length_eq_zero_iff,
        ← List.length_eq_zero_iff, hperm.length_eq, FieldChanges.reverse, List.length_map]
    simp only [hasChanges, SetChange.isEmpty_reverse, hempty]
  | requests targets => simp only [hasChanges, SetChange.isEmpty_reverse]
  | resources before after delta =>
    rw [hasChanges, hasChanges, Bool.eq_iff_iff, bne_iff_ne, bne_iff_ne, ne_eq, Int.neg_eq_zero]

section Both

variable {before after : Doc} {d back : Detail}

theorem textChange_reverse {member : String} {text : Doc → Result String} {c b : SetChange String}
    (h : textChange member text before after = .ok c)
    (hback : textChange member text after before = .ok b) : b = c.reverse := by
  simp only [textChange, bind_eq_ok_iff, pure_eq_ok_iff] at h hback
  obtain ⟨olds, holds, old, hold, news, hnews, new, hnew, rfl⟩ := h
  obtain ⟨news', hnews', new', hnew', olds', holds', old', hold', rfl⟩ := hback
  obtain rfl := Except.ok.inj (holds.symm.trans holds')
  obtain rfl := Except.ok.inj (hnews.symm.trans hnews')
  obtain rfl := Except.ok.inj (hold.symm.trans hold')
  obtain rfl := Except.ok.inj (hnew.symm.trans hnew')
  rfl

theorem typeDetail_mirrors (hbefore : HasDistinctNames before) (hafter : HasDistinctNames after)
    (h : typeDetail before after = .ok d) (hback : typeDetail after before = .ok back) :
    d.Mirrors back := by
  simp only [typeDetail, bind_eq_ok_iff, pure_eq_ok_iff] at h hback
  obtain ⟨calls, hcalls, relationships, hrelationships, fields, hfields, rfl⟩ := h
  obtain ⟨calls', hcalls', relationships', hrelationships', fields', hfields', rfl⟩ := hback
  obtain rfl := textChange_reverse hcalls hcalls'
  obtain rfl := textChange_reverse hrelationships hrelationships'
  exact .types _ _ (fieldChanges_reverse hbefore hafter hfields hfields')

theorem requestDetail_mirrors (h : requestDetail before after = .ok d)
    (hback : requestDetail after before = .ok back) : d.Mirrors back := by
  simp only [requestDetail, bind_eq_ok_iff, pure_eq_ok_iff] at h hback
  obtain ⟨old, hold, new, hnew, oldKeys, holdKeys, newKeys, hnewKeys, rfl⟩ := h
  obtain ⟨new', hnew', old', hold', newKeys', hnewKeys', oldKeys', holdKeys', rfl⟩ := hback
  obtain rfl := Except.ok.inj (hold.symm.trans hold')
  obtain rfl := Except.ok.inj (hnew.symm.trans hnew')
  obtain rfl := Except.ok.inj (holdKeys.symm.trans holdKeys')
  obtain rfl := Except.ok.inj (hnewKeys.symm.trans hnewKeys')
  exact .requests _

theorem resourceDetail_mirrors (h : resourceDetail before after = .ok d)
    (hback : resourceDetail after before = .ok back) : d.Mirrors back := by
  simp only [resourceDetail, bind_eq_ok_iff, pure_eq_ok_iff] at h hback
  obtain ⟨old, hold, new, hnew, rfl⟩ := h
  obtain ⟨new', hnew', old', hold', rfl⟩ := hback
  obtain rfl := Except.ok.inj (hold.symm.trans hold')
  obtain rfl := Except.ok.inj (hnew.symm.trans hnew')
  have hdelta : old.2 - new.2 = -(new.2 - old.2) := by omega
  rw [hdelta]
  exact .resources _ _ _

theorem detailOf_mirrors {domain : String}
    (hnames : domain = typeDomain → HasDistinctNames before ∧ HasDistinctNames after)
    (h : detailOf domain before after = .ok d) (hback : detailOf domain after before = .ok back) :
    d.Mirrors back := by
  rw [detailOf] at h hback
  rw [Bool.or_comm] at hback
  split at h
  next hplain =>
    rw [if_pos hplain] at hback
    cases h
    cases hback
    exact .nothing
  next hplain =>
    rw [if_neg hplain] at hback
    split at h
    next htype =>
      rw [if_pos htype] at hback
      exact typeDetail_mirrors (hnames htype).1 (hnames htype).2 h hback
    next htype =>
      rw [if_neg htype] at hback
      split at h
      next htopology =>
        rw [if_pos htopology] at hback
        exact requestDetail_mirrors h hback
      next htopology =>
        rw [if_neg htopology] at hback
        split at h
        next hinfrastructure =>
          rw [if_pos hinfrastructure] at hback
          exact resourceDetail_mirrors h hback
        next hinfrastructure =>
          rw [if_neg hinfrastructure] at hback
          cases h
          cases hback
          exact .nothing

end Both

/-! ### Domains -/

/-- A comparison where one side has no payload has no keys. -/
theorem between_null_left (domain : String) {after : Doc} (h : after ≠ .null) :
    DomainDiff.between domain .null after =
      .ok { domain, status := .new, detail := .facts after } := by
  cases after with
  | null => exact absurd rfl h
  | bool | int | float | text | list | object | foreign => rfl

theorem between_null_right (domain : String) {before : Doc} (h : before ≠ .null) :
    DomainDiff.between domain before .null =
      .ok { domain, status := .removed, detail := .facts before } := by
  cases before with
  | null => exact absurd rfl h
  | bool | int | float | text | list | object | foreign => rfl

/-- What a change says of two sets of keys. -/
structure SetChange.Tells (c : SetChange String) (old new : List String) : Prop where
  mem_iff : ∀ k, k ∈ new ↔ k ∈ old ∧ k ∉ c.removed ∨ k ∈ c.added
  added : ∀ k ∈ c.added, k ∉ old
  removed : ∀ k ∈ c.removed, k ∉ new

theorem SetChange.tells_between (old new : List String) :
    (SetChange.between old new).Tells old new where
  mem_iff := by
    intro k
    simp only [between, mem_missingFrom_iff]
    tauto
  added := fun _ hk => (mem_missingFrom_iff.1 hk).2
  removed := fun _ hk => (mem_missingFrom_iff.1 hk).2

section Both

variable {domain : String} {before after : Doc} {r back : DomainDiff}

/-- The parts of a comparison of two payloads. -/
theorem between_eq_ok {old new : List String} (hbefore : before ≠ .null) (hafter : after ≠ .null)
    (hold : domainKeys domain before = .ok old) (hnew : domainKeys domain after = .ok new)
    (h : DomainDiff.between domain before after = .ok r) :
    ∃ detail, detailOf domain before after = .ok detail ∧
      r = { domain, keys := .between old new, detail,
            status := if (SetChange.between old new).isEmpty && !detail.hasChanges then .unchanged
              else .changed } := by
  rw [between_of_both hbefore hafter, hold, hnew] at h
  obtain ⟨_, hold', h⟩ := bind_eq_ok_iff.1 h
  cases hold'
  obtain ⟨_, hnew', h⟩ := bind_eq_ok_iff.1 h
  cases hnew'
  obtain ⟨detail, hdetail, h⟩ := bind_eq_ok_iff.1 h
  exact ⟨detail, hdetail, (pure_eq_ok_iff.1 h).symm⟩

theorem exists_keys (hbefore : before ≠ .null) (hafter : after ≠ .null)
    (h : DomainDiff.between domain before after = .ok r) :
    ∃ old new, domainKeys domain before = .ok old ∧ domainKeys domain after = .ok new := by
  rw [between_of_both hbefore hafter] at h
  obtain ⟨old, hold, h⟩ := bind_eq_ok_iff.1 h
  obtain ⟨new, hnew, -⟩ := bind_eq_ok_iff.1 h
  exact ⟨old, new, hold, hnew⟩

end Both

/-- The comparison in the other direction exchanges what was added and what was removed. Its status
and its detail are mirrored as well, for types if their names are distinct texts on each side. -/
theorem between_reverse {domain : String} {before after : Doc} {r back : DomainDiff}
    (h : DomainDiff.between domain before after = .ok r)
    (hback : DomainDiff.between domain after before = .ok back) :
    back.keys = r.keys.reverse ∧
    (before ≠ .null → after ≠ .null → ∃ old new, domainKeys domain before = .ok old ∧
      domainKeys domain after = .ok new ∧ r.keys.Tells old new) ∧
    ((domain = typeDomain → HasDistinctNames before ∧ HasDistinctNames after) →
      back.status = r.status.reverse ∧ r.detail.Mirrors back.detail) := by
  by_cases hbefore : before = .null
  · subst hbefore
    by_cases hafter : after = .null
    · subst hafter
      cases h
      cases hback
      exact ⟨rfl, fun hne => absurd rfl hne, fun _ => ⟨rfl, .nothing⟩⟩
    · rw [between_null_left domain hafter] at h
      rw [between_null_right domain hafter] at hback
      cases h
      cases hback
      exact ⟨rfl, fun hne => absurd rfl hne, fun _ => ⟨rfl, .facts _⟩⟩
  · by_cases hafter : after = .null
    · subst hafter
      rw [between_null_right domain hbefore] at h
      rw [between_null_left domain hbefore] at hback
      cases h
      cases hback
      exact ⟨rfl, fun _ hne => absurd rfl hne, fun _ => ⟨rfl, .facts _⟩⟩
    · obtain ⟨old, new, hold, hnew⟩ := exists_keys hbefore hafter h
      obtain ⟨detail, hdetail, rfl⟩ := between_eq_ok hbefore hafter hold hnew h
      obtain ⟨other, hother, rfl⟩ := between_eq_ok hafter hbefore hnew hold hback
      refine ⟨rfl, fun _ _ => ⟨old, new, hold, hnew, SetChange.tells_between old new⟩, ?_⟩
      intro hnames
      have hmirrors := detailOf_mirrors hnames hdetail hother
      refine ⟨?_, hmirrors⟩
      dsimp only
      rw [SetChange.between_swap old new, SetChange.isEmpty_reverse, hmirrors.hasChanges_eq]
      split <;> rfl

/-- A definition of a type with one field. -/
def typeWithField (name field : String) : Doc :=
  .object [("name", .text name), ("fields", .list [.object [("name", .text field)]])]

def typesPayload (types : List Doc) : Doc := .object [("types", .list types)]

theorem hasDistinctNames_typesPayload {types : List (String × String)}
    (h : (types.map (·.1)).Nodup) :
    HasDistinctNames (typesPayload (types.map (fun t => typeWithField t.1 t.2))) := by
  intro items hitems
  obtain rfl := Except.ok.inj hitems
  refine ⟨types.map (fun t => (t.1, typeWithField t.1 t.2)), ?_, ?_, ?_⟩
  · rw [List.map_map]
    rfl
  · rw [List.map_map]
    exact h
  · intro e he
    obtain ⟨t, -, rfl⟩ := List.mem_map.1 he
    rfl

/-- The field of a type is renamed, and read backwards it is renamed back. -/
theorem between_reverse_renamed_field :
    let before := typesPayload [typeWithField "User" "id", typeWithField "Order" "total"]
    let after := typesPayload [typeWithField "Order" "total", typeWithField "User" "email"]
    ∃ r back, DomainDiff.between typeDomain before after = .ok r ∧
      DomainDiff.between typeDomain after before = .ok back ∧
      HasDistinctNames before ∧ HasDistinctNames after ∧ r.status = .changed ∧
      back.status = r.status.reverse ∧ r.detail.Mirrors back.detail := by
  have hbefore := @hasDistinctNames_typesPayload [("User", "id"), ("Order", "total")] (by decide)
  have hafter := @hasDistinctNames_typesPayload [("Order", "total"), ("User", "email")] (by decide)
  refine ⟨_, _, rfl, rfl, hbefore, hafter, rfl, ?_⟩
  exact (@between_reverse typeDomain _ _ _ _ rfl rfl).2.2 (fun _ => ⟨hbefore, hafter⟩)

end RepoAtlas.Diff
