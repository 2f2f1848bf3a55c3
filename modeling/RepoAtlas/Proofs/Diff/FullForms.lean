import RepoAtlas.Proofs.Diff.RivalDefinitions
import RepoAtlas.Proofs.Record.FullForm
import RepoAtlas.Record.Snapshot

/-!
What a comparison reads of a record is the same in its full form. It reads members that a record
must have and lists of records, and never what stands for a missing member.
-/
namespace RepoAtlas.Diff

/-- The document itself or its full form. -/
def Reads (kind : RecordKind) (d d' : Doc) : Prop := d' = d ∨ conform kind d = .ok d'

/-! ### Members -/

section Members

variable {kind inner : RecordKind} {d d' full : Doc} {name : String}

theorem isObject_of_conform (h : conform kind d = .ok full) : d.isObject = true := by
  cases d with
  | object ms => rfl
  | _ => simp [conform] at h

/-- Each member has its value in the full form. -/
theorem exists_taken {m : Member} (hm : m ∈ kind.members) (h : conform kind d = .ok full) :
    ∃ ms entries value, d = .object ms ∧ full = .object entries ∧ m.taken ms = .ok value ∧
      OrderedMap.lookup m.name entries = some value := by
  cases d with
  | object ms =>
    obtain ⟨entries, rfl, hentries, -⟩ := conform_object_eq_ok_iff.1 h
    obtain ⟨e, -, hlookup, -, htaken⟩ :=
      exists_mem_of_forall₂ (lookup_of_forall₂ (fun _ _ he => he.1) hentries) hm
    exact ⟨ms, entries, e.2, rfl, rfl, htaken, hlookup⟩
  | _ => simp [conform] at h

/-- A record has the members that it must have, and they stay as they are. -/
theorem exists_required (hm : ⟨name, .asIs, .refused⟩ ∈ kind.members)
    (h : conform kind d = .ok full) :
    ∃ ms entries v, d = .object ms ∧ full = .object entries ∧
      OrderedMap.lookup name ms = some v ∧ OrderedMap.lookup name entries = some v := by
  obtain ⟨ms, entries, value, hd, hfull, htaken, hlookup⟩ := exists_taken hm h
  refine ⟨ms, entries, value, hd, hfull, ?_, hlookup⟩
  rw [Member.taken, Member.given] at htaken
  cases hgiven : OrderedMap.lookup name ms with
  | none =>
    rw [hgiven] at htaken
    cases htaken
  | some v =>
    rw [hgiven] at htaken
    exact congrArg some (Except.ok.inj ((conformValue_asIs v).symm.trans htaken))

theorem itemsOf_object (ms : List (String × Doc)) (name : String) : itemsOf (.object ms) name =
    ((OrderedMap.lookup name ms).map Doc.toItems).getD (.ok []) := by
  rw [itemsOf, memberOf]
  cases OrderedMap.lookup name ms <;> rfl

/-- A list of records keeps its items, each in full form. -/
theorem exists_items (hm : ⟨name, .many inner, RecordKind.empty⟩ ∈ kind.members)
    (h : conform kind d = .ok full) :
    ∃ items fulls, itemsOf d name = .ok items ∧ itemsOf full name = .ok fulls ∧
      items.mapM (conform inner) = .ok fulls := by
  obtain ⟨ms, entries, value, rfl, rfl, htaken, hlookup⟩ := exists_taken hm h
  rw [Member.taken, Member.given] at htaken
  rw [itemsOf_object, itemsOf_object, hlookup]
  cases hgiven : OrderedMap.lookup name ms with
  | none =>
    rw [hgiven] at htaken
    obtain rfl := Except.ok.inj htaken
    exact ⟨[], [], rfl, rfl, rfl⟩
  | some v =>
    rw [hgiven] at htaken
    obtain ⟨items, fulls, hitems, hfulls, rfl⟩ := items_of_conformValue_many htaken
    exact ⟨items, fulls, hitems, rfl, hfulls⟩

theorem itemsOrNone_of_toItems {items : List Doc} (h : d.toItems = .ok items) :
    itemsOrNone d = .ok items := by
  rw [itemsOrNone]
  split
  next => exact h
  next hempty =>
    cases d with
    | list | object | text => simp_all [Doc.isTruthy, Doc.toItems]
    | _ => cases h

/-- The items of a member have keys, also where none are given. -/
theorem namedItems_of_itemsOf {items : List Doc} (h : itemsOf d name = .ok items) :
    namedItems name d = .ok (items.map itemKey) := by
  rw [itemsOf, bind_eq_ok_iff] at h
  obtain ⟨member, hmember, h⟩ := h
  have hitems : itemsOrNone (member.getD .null) = .ok items := by
    cases member with
    | none =>
      obtain rfl := pure_eq_ok_iff.1 h
      rfl
    | some v => exact itemsOrNone_of_toItems h
  rw [namedItems, hmember]
  change itemKeys (member.getD .null) = _
  rw [itemKeys, hitems]
  rfl

/-! ### Documents that read alike -/

theorem Reads.refl (kind : RecordKind) (d : Doc) : Reads kind d d := Or.inl rfl

theorem Reads.isObject_eq (h : Reads kind d d') : d.isObject = d'.isObject := by
  rcases h with rfl | hfull
  · rfl
  · rw [isObject_of_conform hfull, isObject_of_conform (conform_full hfull)]

theorem Reads.required (h : Reads kind d d') (hm : ⟨name, .asIs, .refused⟩ ∈ kind.members) :
    requiredMember d name = requiredMember d' name := by
  rcases h with rfl | hfull
  · rfl
  · obtain ⟨ms, entries, v, rfl, rfl, hraw, htyped⟩ := exists_required hm hfull
    simp only [requiredMember, hraw, htyped]

theorem Reads.member (h : Reads kind d d') (hm : ⟨name, .asIs, .refused⟩ ∈ kind.members) :
    memberOf d name = memberOf d' name := by
  rcases h with rfl | hfull
  · rfl
  · obtain ⟨ms, entries, v, rfl, rfl, hraw, htyped⟩ := exists_required hm hfull
    simp only [memberOf, hraw, htyped]

/-- A record with a name is known by it. -/
theorem Reads.itemKey_eq (h : Reads kind d d') (hm : ⟨"name", .asIs, .refused⟩ ∈ kind.members) :
    itemKey d = itemKey d' := by
  rcases h with rfl | hfull
  · rfl
  · obtain ⟨ms, entries, v, rfl, rfl, hraw, htyped⟩ := exists_required hm hfull
    simp only [itemKey, namingMembers, List.findSome?, Doc.get?, hraw, htyped, Option.getD_some]

theorem Reads.items (h : Reads kind d d')
    (hm : ⟨name, .many inner, RecordKind.empty⟩ ∈ kind.members) :
    SameOutcome (List.Forall₂ (Reads inner)) (itemsOf d name) (itemsOf d' name) := by
  rcases h with rfl | hfull
  · exact SameOutcome.refl (fun items => List.forall₂_same.2 fun x _ => Reads.refl inner x) _
  · obtain ⟨items, fulls, hraw, htyped, hitems⟩ := exists_items hm hfull
    rw [hraw, htyped]
    exact .ok ((mapM_eq_ok_iff_forall₂.1 hitems).imp fun _ _ => Or.inr)

theorem Reads.named (h : Reads kind d d')
    (hm : ⟨name, .many inner, RecordKind.empty⟩ ∈ kind.members)
    (hname : ⟨"name", .asIs, .refused⟩ ∈ inner.members) :
    namedItems name d = namedItems name d' := by
  rcases h with rfl | hfull
  · rfl
  · obtain ⟨items, fulls, hraw, htyped, hitems⟩ := exists_items hm hfull
    rw [namedItems_of_itemsOf hraw, namedItems_of_itemsOf htyped]
    have hkeys := map_eq_of_forall₂ (mapM_eq_ok_iff_forall₂.1 hitems)
      fun x y hxy => (Reads.itemKey_eq (Or.inr hxy) hname).symm
    rw [hkeys]

end Members

/-! ### Keys and details -/

section Comparison

variable {before after b a : Doc} {member : String} {text : Doc → Result String}

theorem callText_eq {c c' : Doc} (h : Reads .call c c') : callText c = callText c' := by
  rw [callText, callText, h.required (by simp [RecordKind.members]),
    h.required (by simp [RecordKind.members])]

theorem relationshipText_eq {r r' : Doc} (h : Reads .relationship r r') :
    relationshipText r = relationshipText r' := by
  rw [relationshipText, relationshipText, h.required (by simp [RecordKind.members]),
    h.required (by simp [RecordKind.members]), h.required (by simp [RecordKind.members])]

theorem serviceKey_eq {s s' : Doc} (h : Reads .service s s') : serviceKey s = serviceKey s' := by
  rw [serviceKey, serviceKey, h.member (by simp [RecordKind.members]),
    h.required (by simp [RecordKind.members])]

/-- Lists of items with the same texts change alike. -/
theorem textChange_congr {R : Doc → Doc → Prop}
    (hbefore : SameOutcome (List.Forall₂ R) (itemsOf before member) (itemsOf b member))
    (hafter : SameOutcome (List.Forall₂ R) (itemsOf after member) (itemsOf a member))
    (htext : ∀ x y, R x y → text x = text y) :
    textChange member text before after = textChange member text b a := by
  rw [textChange, textChange]
  refine hbefore.bind_eq fun items items' hitems => ?_
  rw [mapM_congr_forall₂ hitems htext]
  refine bind_congr fun old => hafter.bind_eq fun news news' hnews => ?_
  rw [mapM_congr_forall₂ hnews htext]

theorem Reads.types (h : Reads .typeFacts before b) :
    SameOutcome (List.Forall₂ (Reads .typeDefinition)) (itemsOf before "types")
      (itemsOf b "types") :=
  h.items (by simp [RecordKind.members])

theorem Reads.fields {t u : Doc} (h : Reads .typeDefinition t u) :
    namedItems "fields" t = namedItems "fields" u :=
  @Reads.named _ .field _ _ _ h (by simp [RecordKind.members]) (by simp [RecordKind.members])

/-- A type with its name, on both sides. -/
def AlikeNamed (e e' : Doc × Doc) : Prop := e.1 = e'.1 ∧ Reads .typeDefinition e.2 e'.2

theorem namedTypes_alike (h : Reads .typeFacts before b) :
    SameOutcome (List.Forall₂ AlikeNamed) (namedTypes before) (namedTypes b) := by
  rw [namedTypes, namedTypes]
  refine h.types.bind fun types types' htypes => ?_
  refine SameOutcome.mapM htypes fun t u htu => ?_
  rw [htu.required (by simp [RecordKind.members])]
  exact SameOutcome.bind_self fun name _ => SameOutcome.bind_self fun key _ => .ok ⟨rfl, htu⟩

theorem find?_alike {old old' : List (Doc × Doc)} (h : List.Forall₂ AlikeNamed old old')
    (name : Doc) : Option.Rel AlikeNamed (old.find? (fun t => t.1.same name))
      (old'.find? (fun t => t.1.same name)) := by
  induction h with
  | nil => exact .none
  | cons hfirst _ ih =>
    rw [List.find?_cons, List.find?_cons, hfirst.1]
    split
    · exact .some hfirst
    · exact ih

theorem addFieldChange_congr {old old' : List (Doc × Doc)} (hold : List.Forall₂ AlikeNamed old old')
    {t u : Doc} (htu : Reads .typeDefinition t u) (found : FieldChanges) :
    addFieldChange old found t = addFieldChange old' found u := by
  rw [addFieldChange, addFieldChange, htu.required (by simp [RecordKind.members])]
  refine bind_congr fun name => bind_congr fun key => ?_
  have hlast := find?_alike (List.forall₂_reverse_iff.2 hold) key
  rw [lastNamed?, lastNamed?]
  revert hlast
  generalize old.reverse.find? (fun t => t.1.same key) = e
  generalize old'.reverse.find? (fun t => t.1.same key) = e'
  rintro (⟨⟨-, hlast⟩⟩ | _)
  · rw [Option.map_some, Option.map_some]
    dsimp only
    rw [hlast.fields, htu.fields]
  · rfl

theorem fieldChanges_congr (hbefore : Reads .typeFacts before b)
    (hafter : Reads .typeFacts after a) : fieldChanges before after = fieldChanges b a := by
  rw [fieldChanges, fieldChanges]
  refine (namedTypes_alike hbefore).bind_eq fun old old' hold => ?_
  refine hafter.types.bind_eq fun types types' htypes => ?_
  exact foldlM_congr_forall₂ htypes (fun found t u htu => addFieldChange_congr hold htu found) []

theorem typeDetail_congr (hbefore : Reads .typeFacts before b) (hafter : Reads .typeFacts after a) :
    typeDetail before after = typeDetail b a := by
  have hcalls : textChange "calls" callText before after = textChange "calls" callText b a :=
    textChange_congr (hbefore.items (by simp [RecordKind.members]))
      (hafter.items (by simp [RecordKind.members])) fun _ _ => callText_eq
  have hrelationships : textChange "relationships" relationshipText before after =
      textChange "relationships" relationshipText b a :=
    textChange_congr (hbefore.items (by simp [RecordKind.members]))
      (hafter.items (by simp [RecordKind.members])) fun _ _ => relationshipText_eq
  rw [typeDetail, typeDetail, hcalls, hrelationships, fieldChanges_congr hbefore hafter]

theorem requestTargets_congr (h : Reads .topologyFacts before b) :
    requestTargets before = requestTargets b := by
  have hcalls : SameOutcome (List.Forall₂ (Reads .outboundCall)) (itemsOf before "outbound_calls")
      (itemsOf b "outbound_calls") := h.items (by simp [RecordKind.members])
  exact hcalls.bind_eq fun _ _ hitems => mapM_congr_forall₂ hitems fun _ _ hc =>
    hc.required (by simp [RecordKind.members])

theorem requestDetail_congr (hbefore : Reads .topologyFacts before b)
    (hafter : Reads .topologyFacts after a) : requestDetail before after = requestDetail b a := by
  rw [requestDetail, requestDetail, requestTargets_congr hbefore, requestTargets_congr hafter]

end Comparison

/-! ### Payloads of the domains with a schema -/

section Payloads

variable {domain : String} {kind : RecordKind} {before after b a : Doc}

theorem schemaOf?_eq_some (h : Snapshot.schemaOf? domain = some kind) :
    domain = typeDomain ∧ kind = .typeFacts ∨ domain = topologyDomain ∧ kind = .topologyFacts := by
  rw [Snapshot.schemaOf?] at h
  split at h
  next htypes => exact Or.inl ⟨htypes, (Option.some.inj h).symm⟩
  next =>
    split at h
    next htopology => exact Or.inr ⟨htopology, (Option.some.inj h).symm⟩
    next => cases h

theorem domainKeys_types (payload : Doc) :
    domainKeys typeDomain payload = namedItems "types" payload := rfl

theorem domainKeys_topology (payload : Doc) : domainKeys topologyDomain payload =
    (itemsOf payload "services" >>= fun services => services.mapM serviceKey) := rfl

theorem detailOf_types (hbefore : before.isObject = true) (hafter : after.isObject = true) :
    detailOf typeDomain before after = typeDetail before after := by
  simp [detailOf, hbefore, hafter]

theorem detailOf_topology (hbefore : before.isObject = true) (hafter : after.isObject = true) :
    detailOf topologyDomain before after = requestDetail before after := by
  simp [detailOf, hbefore, hafter, topologyDomain, typeDomain]

theorem domainKeys_congr (hkind : Snapshot.schemaOf? domain = some kind)
    (h : Reads kind before b) : domainKeys domain before = domainKeys domain b := by
  rcases schemaOf?_eq_some hkind with ⟨rfl, rfl⟩ | ⟨rfl, rfl⟩
  · exact @Reads.named _ .typeDefinition _ _ _ h (by simp [RecordKind.members])
      (by simp [RecordKind.members])
  · have hservices : SameOutcome (List.Forall₂ (Reads .service)) (itemsOf before "services")
        (itemsOf b "services") := h.items (by simp [RecordKind.members])
    rw [domainKeys_topology, domainKeys_topology]
    exact hservices.bind_eq fun _ _ hitems => mapM_congr_forall₂ hitems fun _ _ => serviceKey_eq

theorem detailOf_congr (hkind : Snapshot.schemaOf? domain = some kind)
    (hbefore : Reads kind before b) (hafter : Reads kind after a)
    (hobjects : before.isObject = true ∧ after.isObject = true) :
    detailOf domain before after = detailOf domain b a := by
  have hb := hbefore.isObject_eq.symm.trans hobjects.1
  have ha := hafter.isObject_eq.symm.trans hobjects.2
  rcases schemaOf?_eq_some hkind with ⟨rfl, rfl⟩ | ⟨rfl, rfl⟩
  · rw [detailOf_types hobjects.1 hobjects.2, detailOf_types hb ha, typeDetail_congr hbefore hafter]
  · rw [detailOf_topology hobjects.1 hobjects.2, detailOf_topology hb ha,
      requestDetail_congr hbefore hafter]

theorem ne_null_of_isObject {d : Doc} (h : d.isObject = true) : d ≠ .null := by
  rintro rfl
  cases h

theorem between_congr (hkind : Snapshot.schemaOf? domain = some kind)
    (hbefore : Reads kind before b) (hafter : Reads kind after a)
    (hobjects : before.isObject = true ∧ after.isObject = true) :
    DomainDiff.between domain before after = DomainDiff.between domain b a := by
  have hb := hbefore.isObject_eq.symm.trans hobjects.1
  have ha := hafter.isObject_eq.symm.trans hobjects.2
  rw [between_of_both (ne_null_of_isObject hobjects.1) (ne_null_of_isObject hobjects.2),
    between_of_both (ne_null_of_isObject hb) (ne_null_of_isObject ha),
    domainKeys_congr hkind hbefore, domainKeys_congr hkind hafter,
    detailOf_congr hkind hbefore hafter hobjects]

end Payloads

end RepoAtlas.Diff
