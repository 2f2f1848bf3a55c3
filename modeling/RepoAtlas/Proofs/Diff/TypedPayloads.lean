import RepoAtlas.Proofs.Diff.FullForms
import RepoAtlas.Proofs.Record.SnapshotForm

/-!
Raw payloads and typed facts are compared alike, in any mix of the two. There is a comparison
exactly if the names of types and the targets of requests can stand in a set.
-/
namespace RepoAtlas.Diff

/-- What a payload may be given as: the payload itself, its full form, or the document of the facts
that it reads as. -/
inductive SideOf (kind : RecordKind) (payload : Doc) : Doc → Prop
  | raw : SideOf kind payload payload
  | full {d} : conform kind payload = .ok d → SideOf kind payload d
  | types {f} : kind = .typeFacts → TypeFacts.ofDoc payload = .ok f → SideOf kind payload f.toDoc
  | topology {f} : kind = .topologyFacts → TopologyFacts.ofDoc payload = .ok f →
    SideOf kind payload f.toDoc

theorem SideOf.reads {kind : RecordKind} {payload side : Doc} (h : SideOf kind payload side) :
    Reads kind payload side := by
  cases h with
  | raw => exact Or.inl rfl
  | full hfull => exact Or.inr hfull
  | types hkind hread => exact Or.inr (hkind ▸ (TypeFacts.faithful.survives payload _ hread).1)
  | topology hkind hread =>
    exact Or.inr (hkind ▸ (TopologyFacts.faithful.survives payload _ hread).1)

/-- The member of an item can stand in a set. -/
def HasKey (key : String) (item : Doc) : Prop :=
  ∃ v, requiredMember item key = .ok v ∧ isKey v = true

/-- The names of the types, or the targets of the requests, can stand in a set. -/
def HasKeys : RecordKind → Doc → Prop
  | .topologyFacts, payload =>
    ∀ calls, itemsOf payload "outbound_calls" = .ok calls → ∀ c ∈ calls, HasKey "target" c
  | _, payload => ∀ types, itemsOf payload "types" = .ok types → ∀ t ∈ types, HasKey "name" t

/-! ### When there is a comparison -/

section Outcome

variable {domain member : String} {kind inner : RecordKind}
variable {before after fullBefore fullAfter : Doc} {types : List Doc}

theorem exists_toKey_iff {key : String} {item : Doc} :
    (∃ k, (requiredMember item key >>= toKey) = .ok k) ↔ HasKey key item := by
  simp only [exists_bind_iff, toKey_eq_ok_iff, HasKey, exists_and_left, exists_eq', and_true]

/-- The items of a list of records are records. -/
theorem exists_records (hm : ⟨member, .many inner, RecordKind.empty⟩ ∈ kind.members)
    (h : conform kind before = .ok fullBefore) : ∃ items, itemsOf before member = .ok items ∧
      ∀ d ∈ items, ∃ full, conform inner d = .ok full := by
  obtain ⟨items, fulls, hitems, -, hfulls⟩ := exists_items hm h
  refine ⟨items, hitems, fun d hd => ?_⟩
  obtain ⟨full, -, hfull⟩ := exists_mem_of_mapM_eq_ok hfulls hd
  exact ⟨full, hfull⟩

theorem exists_requiredMember {name : String} (hm : ⟨name, .asIs, .refused⟩ ∈ kind.members)
    (h : conform kind before = .ok fullBefore) : ∃ v, requiredMember before name = .ok v := by
  obtain ⟨ms, -, v, rfl, -, hlookup, -⟩ := exists_required hm h
  exact ⟨v, by simp only [requiredMember, hlookup]⟩

theorem exists_textChange {text : Doc → Result String}
    (hm : ⟨member, .many inner, RecordKind.empty⟩ ∈ kind.members)
    (hbefore : conform kind before = .ok fullBefore) (hafter : conform kind after = .ok fullAfter)
    (htext : ∀ d full, conform inner d = .ok full → ∃ s, text d = .ok s) :
    ∃ c, textChange member text before after = .ok c := by
  obtain ⟨olds, holds, hold⟩ := exists_records hm hbefore
  obtain ⟨news, hnews, hnew⟩ := exists_records hm hafter
  obtain ⟨old, hold⟩ := exists_mapM_eq_ok fun d hd => (hold d hd).elim (htext d)
  obtain ⟨new, hnew⟩ := exists_mapM_eq_ok fun d hd => (hnew d hd).elim (htext d)
  refine ⟨.between old new, ?_⟩
  rw [textChange, holds, hnews]
  simp only [bind, Except.bind, hold, hnew]
  rfl

theorem exists_callText {c full : Doc} (h : conform .call c = .ok full) :
    ∃ s, callText c = .ok s := by
  obtain ⟨caller, hcaller⟩ := @exists_requiredMember _ _ _ "caller" (by simp [RecordKind.members]) h
  obtain ⟨callee, hcallee⟩ := @exists_requiredMember _ _ _ "callee" (by simp [RecordKind.members]) h
  rw [callText, hcaller, hcallee]
  exact ⟨_, rfl⟩

theorem exists_relationshipText {r full : Doc} (h : conform .relationship r = .ok full) :
    ∃ s, relationshipText r = .ok s := by
  obtain ⟨source, hsource⟩ :=
    @exists_requiredMember _ _ _ "from_type" (by simp [RecordKind.members]) h
  obtain ⟨what, hwhat⟩ := @exists_requiredMember _ _ _ "kind" (by simp [RecordKind.members]) h
  obtain ⟨target, htarget⟩ :=
    @exists_requiredMember _ _ _ "to_type" (by simp [RecordKind.members]) h
  rw [relationshipText, hsource, hwhat, htarget]
  exact ⟨_, rfl⟩

theorem exists_serviceKey {s full : Doc} (h : conform .service s = .ok full) :
    ∃ key, serviceKey s = .ok key := by
  obtain ⟨ms, -, name, rfl, -, hname, -⟩ :=
    @exists_required _ _ _ "name" (by simp [RecordKind.members]) h
  simp only [serviceKey, memberOf, requiredMember, hname]
  exact ⟨_, rfl⟩

theorem exists_fields {t full : Doc} (h : conform .typeDefinition t = .ok full) :
    ∃ fields, namedItems "fields" t = .ok fields := by
  obtain ⟨items, hitems, -⟩ :=
    @exists_records "fields" _ .field _ _ (by simp [RecordKind.members]) h
  exact ⟨_, namedItems_of_itemsOf hitems⟩

theorem exists_types (h : conform .typeFacts before = .ok fullBefore) :
    ∃ types, itemsOf before "types" = .ok types ∧
      ∀ t ∈ types, ∃ full, conform .typeDefinition t = .ok full :=
  exists_records (by simp [RecordKind.members]) h

theorem exists_requests (h : conform .topologyFacts before = .ok fullBefore) :
    ∃ calls, itemsOf before "outbound_calls" = .ok calls ∧
      ∀ c ∈ calls, ∃ full, conform .outboundCall c = .ok full :=
  exists_records (by simp [RecordKind.members]) h

theorem exists_namedTypes_iff (htypes : itemsOf before "types" = .ok types) :
    (∃ old, namedTypes before = .ok old) ↔ ∀ t ∈ types, HasKey "name" t := by
  rw [namedTypes, htypes]
  refine exists_mapM_iff.trans (forall₂_congr fun t _ => ?_)
  rw [← exists_toKey_iff]
  simp only [exists_bind_iff, pure_eq_ok_iff, exists_eq', and_true]

theorem mem_types_of_mem_namedTypes {old : List (Doc × Doc)} (hold : namedTypes before = .ok old)
    (htypes : itemsOf before "types" = .ok types) {e : Doc × Doc} (he : e ∈ old) :
    e.2 ∈ types := by
  rw [namedTypes, htypes] at hold
  obtain ⟨t, ht, hnamed⟩ := mem_of_mapM_eq_ok hold he
  obtain ⟨name, -, hnamed⟩ := bind_eq_ok_iff.1 hnamed
  obtain ⟨key, -, hnamed⟩ := bind_eq_ok_iff.1 hnamed
  rw [← pure_eq_ok_iff.1 hnamed]
  exact ht

/-- A type is compared if its name can stand in a set, since both definitions have fields. -/
theorem exists_addFieldChange_iff {old : List (Doc × Doc)}
    (hold : ∀ e ∈ old, ∃ full, conform .typeDefinition e.2 = .ok full) {t full : Doc}
    (ht : conform .typeDefinition t = .ok full) (found : FieldChanges) :
    (∃ cs, addFieldChange old found t = .ok cs) ↔ HasKey "name" t := by
  rw [← exists_toKey_iff, addFieldChange]
  simp only [exists_bind_iff]
  refine exists_congr fun name => and_congr_right fun _ => exists_congr fun key =>
    and_iff_left_of_imp fun _ => ?_
  cases hlast : lastNamed? old key with
  | none => exact ⟨found, rfl⟩
  | some u =>
    obtain ⟨n, hmem, -⟩ := mem_of_lastNamed? hlast
    obtain ⟨fields, hfields⟩ := (hold _ hmem).elim fun _ => exists_fields
    obtain ⟨others, hothers⟩ := exists_fields ht
    simp only [hfields, hothers]
    exact ⟨_, rfl⟩

/-- Fields are compared if the names of all types can stand in a set. -/
theorem exists_fieldChanges_iff (hbefore : conform .typeFacts before = .ok fullBefore)
    (hafter : conform .typeFacts after = .ok fullAfter) :
    (∃ cs, fieldChanges before after = .ok cs) ↔
      HasKeys .typeFacts before ∧ HasKeys .typeFacts after := by
  obtain ⟨types, htypes, hrecords⟩ := exists_types hbefore
  obtain ⟨news, hnews, hnew⟩ := exists_types hafter
  have hstep : ∀ {old}, namedTypes before = .ok old →
      ((∃ cs, news.foldlM (addFieldChange old) [] = .ok cs) ↔ ∀ t ∈ news, HasKey "name" t) := by
    intro old hold
    refine exists_foldlM_iff (fun found t ht => ?_) []
    exact (hnew t ht).elim fun _ hfull => exists_addFieldChange_iff
      (fun e he => hrecords e.2 (mem_types_of_mem_namedTypes hold htypes he)) hfull found
  simp only [HasKeys, htypes, hnews, Except.ok.injEq, forall_eq']
  rw [fieldChanges, exists_bind_iff, ← exists_namedTypes_iff htypes, hnews]
  constructor
  · rintro ⟨old, hold, h⟩
    exact ⟨⟨old, hold⟩, (hstep hold).1 h⟩
  · rintro ⟨⟨old, hold⟩, h⟩
    exact ⟨old, hold, (hstep hold).2 h⟩

theorem exists_typeDetail_iff (hbefore : conform .typeFacts before = .ok fullBefore)
    (hafter : conform .typeFacts after = .ok fullAfter) :
    (∃ detail, typeDetail before after = .ok detail) ↔
      HasKeys .typeFacts before ∧ HasKeys .typeFacts after := by
  obtain ⟨calls, hcalls⟩ := @exists_textChange "calls" _ .call _ _ _ _ callText
    (by simp [RecordKind.members]) hbefore hafter fun _ _ => exists_callText
  obtain ⟨relationships, hrelationships⟩ :=
    @exists_textChange "relationships" _ .relationship _ _ _ _ relationshipText
      (by simp [RecordKind.members]) hbefore hafter fun _ _ => exists_relationshipText
  rw [typeDetail, hcalls, hrelationships, ← exists_fieldChanges_iff hbefore hafter]
  simp only [exists_bind_iff, pure_eq_ok_iff, Except.ok.injEq, exists_eq_left', exists_eq',
    and_true]

/-- Requests have targets, whether or not these can stand in a set. -/
theorem exists_requestTargets (h : conform .topologyFacts before = .ok fullBefore) :
    ∃ targets, requestTargets before = .ok targets ∧
      ((∃ keys, targets.mapM toKey = .ok keys) ↔ HasKeys .topologyFacts before) := by
  obtain ⟨calls, hcalls, hrecords⟩ := exists_requests h
  obtain ⟨targets, htargets⟩ := exists_mapM_eq_ok fun c hc => (hrecords c hc).elim fun _ =>
    @exists_requiredMember _ _ _ "target" (by simp [RecordKind.members])
  refine ⟨targets, by rw [requestTargets, hcalls]; exact htargets, ?_⟩
  simp only [HasKeys, hcalls, Except.ok.injEq, forall_eq']
  rw [exists_mapM_iff]
  refine (forall_iff_of_forall₂ (mapM_eq_ok_iff_forall₂.1 htargets) fun c v hv => ?_).symm
  rw [← exists_toKey_iff, hv]
  rfl

/-- Requests are compared if their targets can stand in a set. -/
theorem exists_requestDetail_iff (hbefore : conform .topologyFacts before = .ok fullBefore)
    (hafter : conform .topologyFacts after = .ok fullAfter) :
    (∃ detail, requestDetail before after = .ok detail) ↔
      HasKeys .topologyFacts before ∧ HasKeys .topologyFacts after := by
  obtain ⟨old, hold, holdKeys⟩ := exists_requestTargets hbefore
  obtain ⟨new, hnew, hnewKeys⟩ := exists_requestTargets hafter
  rw [requestDetail, hold, hnew, ← holdKeys, ← hnewKeys]
  simp only [exists_bind_iff, pure_eq_ok_iff, Except.ok.injEq, exists_eq_left', exists_eq',
    and_true, exists_and_right]

/-- Payloads that read as facts have keys. -/
theorem exists_domainKeys (hkind : Snapshot.schemaOf? domain = some kind)
    (h : conform kind before = .ok fullBefore) : ∃ keys, domainKeys domain before = .ok keys := by
  rcases schemaOf?_eq_some hkind with ⟨rfl, rfl⟩ | ⟨rfl, rfl⟩
  · obtain ⟨types, htypes, -⟩ := exists_types h
    exact ⟨_, namedItems_of_itemsOf htypes⟩
  · obtain ⟨services, hservices, hrecords⟩ :=
      @exists_records "services" _ .service _ _ (by simp [RecordKind.members]) h
    rw [domainKeys_topology, hservices]
    exact exists_mapM_eq_ok fun s hs => (hrecords s hs).elim fun _ => exists_serviceKey

theorem exists_detailOf_iff (hkind : Snapshot.schemaOf? domain = some kind)
    (hbefore : conform kind before = .ok fullBefore) (hafter : conform kind after = .ok fullAfter) :
    (∃ detail, detailOf domain before after = .ok detail) ↔
      HasKeys kind before ∧ HasKeys kind after := by
  have hobjects := And.intro (isObject_of_conform hbefore) (isObject_of_conform hafter)
  rcases schemaOf?_eq_some hkind with ⟨rfl, rfl⟩ | ⟨rfl, rfl⟩
  · rw [detailOf_types hobjects.1 hobjects.2]
    exact exists_typeDetail_iff hbefore hafter
  · rw [detailOf_topology hobjects.1 hobjects.2]
    exact exists_requestDetail_iff hbefore hafter

theorem exists_between_iff (hkind : Snapshot.schemaOf? domain = some kind)
    (hbefore : conform kind before = .ok fullBefore) (hafter : conform kind after = .ok fullAfter) :
    (∃ r, DomainDiff.between domain before after = .ok r) ↔
      HasKeys kind before ∧ HasKeys kind after := by
  obtain ⟨old, hold⟩ := exists_domainKeys hkind hbefore
  obtain ⟨new, hnew⟩ := exists_domainKeys hkind hafter
  rw [between_of_both (ne_null_of_isObject (isObject_of_conform hbefore))
    (ne_null_of_isObject (isObject_of_conform hafter)), hold, hnew]
  simp only [exists_bind_iff, pure_eq_ok_iff, Except.ok.injEq, exists_eq_left', exists_eq',
    and_true, exists_detailOf_iff hkind hbefore hafter]

end Outcome

/-- Payloads that read as facts are compared alike whether each of them is given raw, in full form
or as facts, and there is a comparison exactly if the names of types and the targets of requests
can stand in a set. -/
theorem between_sides {domain : String} {kind : RecordKind}
    {before after fullBefore fullAfter : Doc} (hkind : Snapshot.schemaOf? domain = some kind)
    (hbefore : conform kind before = .ok fullBefore) (hafter : conform kind after = .ok fullAfter) :
    (∀ b a, SideOf kind before b → SideOf kind after a →
      DomainDiff.between domain b a = DomainDiff.between domain before after) ∧
    ((∃ r, DomainDiff.between domain before after = .ok r) ↔
      HasKeys kind before ∧ HasKeys kind after) := by
  refine ⟨fun b a hb ha => ?_, exists_between_iff hkind hbefore hafter⟩
  exact (between_congr hkind hb.reads ha.reads
    ⟨isObject_of_conform hbefore, isObject_of_conform hafter⟩).symm

/-- A payload with one request and nothing else. -/
def briefRequest (target : String) : Doc :=
  .object [("outbound_calls", .list [.object [("target", .text target)]])]

theorem ofDoc_briefRequest (target : String) :
    TopologyFacts.ofDoc (briefRequest target) = .ok { outboundCalls := [{ target }] } := by
  simp [TopologyFacts.ofDoc, briefRequest, conform_object, RecordKind.members, RecordKind.empty,
    RecordKind.choice?, Member.taken, Member.given, Member.substitute, OrderedMap.lookup,
    conformValue_many_list, TopologyFacts.ofFull, OutboundCall.ofFull, List.mapM_cons, bind,
    Except.bind, pure, Except.pure]

theorem conform_briefRequest (target : String) : conform .topologyFacts (briefRequest target) =
    .ok (TopologyFacts.toDoc { outboundCalls := [{ target }] }) :=
  (TopologyFacts.faithful.survives _ _ (ofDoc_briefRequest target)).1

/-- The new request is found in the facts, which say more than the payload. -/
theorem between_sides_briefRequest :
    let facts : TopologyFacts := { outboundCalls := [{ target := "mint" }] }
    briefRequest "mint" ≠ facts.toDoc ∧ ∃ r,
      DomainDiff.between topologyDomain (briefRequest "bank") facts.toDoc = .ok r ∧
      DomainDiff.between topologyDomain (briefRequest "bank") (briefRequest "mint") = .ok r ∧
      r.status = .changed := by
  obtain ⟨hsame, -⟩ := @between_sides topologyDomain .topologyFacts _ _ _ _ rfl
    (conform_briefRequest "bank") (conform_briefRequest "mint")
  refine ⟨?_, _, ?_, rfl, rfl⟩
  · simp [briefRequest, TopologyFacts.toDoc]
  · exact hsame _ _ .raw (.topology rfl (ofDoc_briefRequest "mint"))

end RepoAtlas.Diff
