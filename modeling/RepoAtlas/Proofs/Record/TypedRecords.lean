import RepoAtlas.Proofs.Record.FullForm
import RepoAtlas.Record.Facts

/-!
Records and their documents. The document that a record is written to is in full form and reads
back, and a document in full form that reads as a record is the one that the record is written to.
-/
namespace RepoAtlas

/-- The documents of the records are the documents in full form that read as records. -/
structure Faithful {α : Type} (kind : RecordKind) (toDoc : α → Doc) (ofFull : Doc → Result α) :
    Prop where
  full : ∀ r, conform kind (toDoc r) = .ok (toDoc r)
  reads : ∀ r, ofFull (toDoc r) = .ok r
  writes : ∀ d r, conform kind d = .ok d → ofFull d = .ok r → toDoc r = d

section Lists

variable {α : Type} {kind : RecordKind} {toDoc : α → Doc} {ofFull : Doc → Result α}

theorem mapM_eq_ok_self_iff {f : α → Result α} {xs : List α} :
    xs.mapM f = .ok xs ↔ ∀ x ∈ xs, f x = .ok x := by
  rw [mapM_eq_ok_iff_forall₂, List.forall₂_same]

/-- Records in a list that is taken over as it stands are in full form. -/
theorem conform_of_many {items : List Doc}
    (h : conformValue (.many kind) (.list items) = .ok (.list items)) :
    ∀ d ∈ items, conform kind d = .ok d := by
  rw [conformValue_many_list, bind_eq_ok_iff] at h
  obtain ⟨full, hfull, hitems⟩ := h
  obtain rfl := Doc.list.inj (pure_eq_ok_iff.1 hitems)
  exact mapM_eq_ok_self_iff.1 hfull

theorem Faithful.many (h : Faithful kind toDoc ofFull) (rs : List α) :
    conformValue (.many kind) (.list (rs.map toDoc)) = .ok (.list (rs.map toDoc)) := by
  refine conformValue_many_full fun d hd => ?_
  obtain ⟨r, -, rfl⟩ := List.mem_map.1 hd
  exact h.full r

theorem Faithful.mapM (h : Faithful kind toDoc ofFull) (rs : List α) :
    rs.mapM (ofFull ∘ toDoc) = .ok rs :=
  mapM_eq_ok_self_iff.2 fun r _ => h.reads r

theorem Faithful.map (h : Faithful kind toDoc ofFull) {items : List Doc} {rs : List α}
    (hfull : conformValue (.many kind) (.list items) = .ok (.list items))
    (hread : items.mapM ofFull = .ok rs) : rs.map toDoc = items := by
  rw [← List.forall₂_eq_eq_eq, List.forall₂_map_left_iff]
  refine List.Forall₂.flip ((forall₂_mem (mapM_eq_ok_iff_forall₂.1 hread)).imp ?_)
  exact fun d r hr => h.writes d r (conform_of_many hfull d hr.1.1) hr.2

theorem mapM_toText (texts : List String) : texts.mapM (Doc.toText ∘ Doc.text) = .ok texts :=
  mapM_eq_ok_self_iff.2 fun _ _ => rfl

theorem map_text {items : List Doc} {texts : List String} (h : items.mapM Doc.toText = .ok texts) :
    texts.map Doc.text = items := by
  have htext : ∀ d text, Doc.toText d = .ok text → Doc.text text = id d := by
    intro d text hd
    cases d with
    | text s =>
      obtain rfl := Except.ok.inj hd
      rfl
    | _ => cases hd
  rw [map_eq_of_mapM_eq_ok htext h, List.map_id]

theorem text_of_find? {text : α → String} {all : List α} {s : String} {a : α}
    (h : all.find? (text · == s) = some a) : text a = s := by
  have hfound := List.find?_some h
  exact eq_of_beq hfound

end Lists

/-! ### Type definitions -/

mutual

theorem conform_refDoc : (r : TypeRef) → conform .typeRef r.toDoc = .ok r.toDoc
  | ⟨name, raw, optional, isCollection, generics⟩ => by
    rw [TypeRef.toDoc]
    exact conform_typeRef _ _ _ _ (conform_refDocs generics)

theorem conform_refDocs : (rs : List TypeRef) →
    ∀ d ∈ TypeRef.toDocs rs, conform .typeRef d = .ok d
  | [] => fun _ hd => by cases hd
  | r :: rest => fun d hd => by
    rcases List.mem_cons.1 hd with rfl | hd
    · exact conform_refDoc r
    · exact conform_refDocs rest d hd

end

mutual

theorem refDoc_of_ofFull : (r : TypeRef) → ∀ d, conform .typeRef d = .ok d →
    TypeRef.ofFull d = .ok r → r.toDoc = d
  | ⟨name, raw, optional, isCollection, generics⟩ => fun d hd h => by
    obtain ⟨entries, rfl, hentries, -⟩ := stands_of_conform hd
    rw [TypeRef.ofFull.eq_def] at h
    split at h
    next heq =>
      cases heq
      simp only [RecordKind.members, RecordKind.empty, Member.Stands, List.forall₂_cons] at hentries
      obtain ⟨⟨rfl, -⟩, ⟨rfl, -⟩, ⟨rfl, -⟩, ⟨rfl, -⟩, ⟨rfl, hmany, -⟩, -⟩ := hentries
      obtain ⟨found, hfound, hr⟩ := bind_eq_ok_iff.1 h
      injection pure_eq_ok_iff.1 hr with hname hraw hoptional hcollection hgenerics
      rw [hgenerics] at hfound
      rw [TypeRef.toDoc, refDocs_of_ofFulls generics _ (conform_of_many hmany) hfound, hname, hraw,
        hoptional, hcollection]
    next => cases h

theorem refDocs_of_ofFulls : (rs : List TypeRef) → ∀ ds, (∀ d ∈ ds, conform .typeRef d = .ok d) →
    TypeRef.ofFulls ds = .ok rs → TypeRef.toDocs rs = ds
  | [], [], _, _ => rfl
  | [], d :: others, _, h => by
    obtain ⟨head, -, h⟩ := bind_eq_ok_iff.1 h
    obtain ⟨tail, -, hr⟩ := bind_eq_ok_iff.1 h
    cases pure_eq_ok_iff.1 hr
  | r :: rest, [], _, h => by cases h
  | r :: rest, d :: others, hds, h => by
    obtain ⟨head, hhead, h⟩ := bind_eq_ok_iff.1 h
    obtain ⟨tail, htail, hr⟩ := bind_eq_ok_iff.1 h
    injection pure_eq_ok_iff.1 hr with hfirst hothers
    rw [hfirst] at hhead
    rw [hothers] at htail
    obtain ⟨hd, hrest⟩ := List.forall_mem_cons.1 hds
    rw [TypeRef.toDocs, refDoc_of_ofFull r d hd hhead, refDocs_of_ofFulls rest others hrest htail]

end

theorem TypeRef.faithful : Faithful .typeRef TypeRef.toDoc TypeRef.ofFull where
  full := conform_refDoc
  reads := TypeRef.ofFull_toDoc
  writes := fun d r => refDoc_of_ofFull r d

theorem Field.faithful : Faithful .field Field.toDoc Field.ofFull where
  full := by
    intro f
    refine conform_of_stands ?_ (RecordKind.allows_of_no_choice rfl)
    have hgiven := isTruthy_of_conform (conform_refDoc f.typeRef)
    simp [RecordKind.members, Member.Stands, conform_refDoc, hgiven]
  reads := by
    intro f
    simp [toDoc, ofFull, TypeRef.ofFull_toDoc, bind, Except.bind, pure, Except.pure]
  writes := by
    intro d f hd h
    obtain ⟨entries, rfl, hentries, -⟩ := stands_of_conform hd
    rw [ofFull.eq_def] at h
    split at h
    next heq =>
      cases heq
      simp only [RecordKind.members, Member.Stands, List.forall₂_cons] at hentries
      obtain ⟨⟨rfl, -⟩, ⟨rfl, hone, -⟩, ⟨rfl, -⟩, -⟩ := hentries
      obtain ⟨ref, href, hf⟩ := bind_eq_ok_iff.1 h
      obtain rfl := pure_eq_ok_iff.1 hf
      rw [conformValue_one] at hone
      rw [toDoc, refDoc_of_ofFull ref _ hone href]
    next => cases h

theorem Variant.faithful : Faithful .variant Variant.toDoc Variant.ofFull where
  full := by
    intro v
    refine conform_of_stands ?_ (RecordKind.allows_of_no_choice rfl)
    simp [RecordKind.members, Member.Stands]
  reads := fun _ => rfl
  writes := by
    intro d v hd h
    obtain ⟨entries, rfl, hentries, -⟩ := stands_of_conform hd
    rw [ofFull.eq_def] at h
    split at h
    next heq =>
      cases heq
      simp only [RecordKind.members, Member.Stands, List.forall₂_cons] at hentries
      obtain ⟨⟨rfl, -⟩, ⟨rfl, -⟩, -⟩ := hentries
      obtain rfl := Except.ok.inj h
      rfl
    next => cases h

theorem TypeDefinition.faithful :
    Faithful .typeDefinition TypeDefinition.toDoc TypeDefinition.ofFull where
  full := by
    intro t
    refine conform_of_stands ?_ (RecordKind.allows_of_text rfl rfl ?_)
    · simp [RecordKind.members, RecordKind.empty, Member.Stands, Doc.ofTexts, Field.faithful.many,
        Variant.faithful.many, conformValue_many_full (conform_refDocs _)]
    · cases t.kind <;> decide
  reads := by
    intro t
    simp [toDoc, ofFull, TypeKind.ofText?_text, Field.faithful.mapM, Variant.faithful.mapM,
      TypeRef.ofFulls_toDocs, mapM_toText, Doc.ofTexts, bind, Except.bind, pure, Except.pure]
  writes := by
    intro d t hd h
    obtain ⟨entries, rfl, hentries, -⟩ := stands_of_conform hd
    rw [ofFull.eq_def] at h
    split at h
    next heq =>
      cases heq
      simp only [RecordKind.members, RecordKind.empty, Member.Stands, List.forall₂_cons] at hentries
      obtain ⟨⟨rfl, -⟩, ⟨rfl, -⟩, ⟨rfl, -⟩, ⟨rfl, -⟩, ⟨rfl, -⟩, ⟨rfl, -⟩, ⟨rfl, hfields, -⟩,
        ⟨rfl, hvariants, -⟩, ⟨rfl, hparents, -⟩, ⟨rfl, hinterfaces, -⟩, ⟨rfl, -⟩, ⟨rfl, -⟩, -⟩ :=
          hentries
      dsimp only at h
      split at h
      next k hk =>
        obtain ⟨_, hkind, h⟩ := bind_eq_ok_iff.1 h
        obtain ⟨fields, hfs, h⟩ := bind_eq_ok_iff.1 h
        obtain ⟨variants, hvs, h⟩ := bind_eq_ok_iff.1 h
        obtain ⟨parents, hps, h⟩ := bind_eq_ok_iff.1 h
        obtain ⟨interfaces, his, h⟩ := bind_eq_ok_iff.1 h
        obtain ⟨tags, hts, h⟩ := bind_eq_ok_iff.1 h
        obtain rfl := pure_eq_ok_iff.1 h
        obtain rfl := Except.ok.inj hkind
        rw [toDoc, text_of_find? hk, Field.faithful.map hfields hfs,
          Variant.faithful.map hvariants hvs, Doc.ofTexts, map_text hts,
          refDocs_of_ofFulls parents _ (conform_of_many hparents) hps,
          refDocs_of_ofFulls interfaces _ (conform_of_many hinterfaces) his]
      next => cases h
    next => cases h

/-! ### Relationships, services and calls -/

theorem toTextOption_ofOption (text : Option String) :
    (Doc.ofOption text).toTextOption = .ok text := by
  cases text <;> rfl

theorem ofOption_of_toTextOption {d : Doc} {text : Option String}
    (h : d.toTextOption = .ok text) : Doc.ofOption text = d := by
  cases d with
  | text s =>
    obtain rfl := Except.ok.inj h
    rfl
  | null =>
    obtain rfl := Except.ok.inj h
    rfl
  | _ => cases h

theorem Relationship.faithful : Faithful .relationship Relationship.toDoc Relationship.ofFull where
  full := by
    intro r
    refine conform_of_stands ?_ (RecordKind.allows_of_text rfl rfl ?_)
    · simp [RecordKind.members, Member.Stands]
    · cases r.kind <;> decide
  reads := by
    intro r
    simp [toDoc, ofFull, RelationKind.ofText?_text, toTextOption_ofOption, bind, Except.bind, pure,
      Except.pure]
  writes := by
    intro d r hd h
    obtain ⟨entries, rfl, hentries, -⟩ := stands_of_conform hd
    rw [ofFull.eq_def] at h
    split at h
    next heq =>
      cases heq
      simp only [RecordKind.members, Member.Stands, List.forall₂_cons] at hentries
      obtain ⟨⟨rfl, -⟩, ⟨rfl, -⟩, ⟨rfl, -⟩, ⟨rfl, -⟩, ⟨rfl, -⟩, -⟩ := hentries
      dsimp only at h
      split at h
      next k hk =>
        obtain ⟨_, hkind, h⟩ := bind_eq_ok_iff.1 h
        obtain ⟨via, hvia, h⟩ := bind_eq_ok_iff.1 h
        obtain rfl := pure_eq_ok_iff.1 h
        obtain rfl := Except.ok.inj hkind
        rw [toDoc, text_of_find? hk, ofOption_of_toTextOption hvia]
      next => cases h
    next => cases h

theorem TypeModule.faithful : Faithful .module TypeModule.toDoc TypeModule.ofFull where
  full := by
    intro m
    refine conform_of_stands ?_ (RecordKind.allows_of_no_choice rfl)
    simp [RecordKind.members, RecordKind.empty, Member.Stands, Doc.ofTexts,
      Relationship.faithful.many]
  reads := by
    intro m
    simp [toDoc, ofFull, mapM_toText, Relationship.faithful.mapM, Doc.ofTexts, bind, Except.bind,
      pure, Except.pure]
  writes := by
    intro d m hd h
    obtain ⟨entries, rfl, hentries, -⟩ := stands_of_conform hd
    rw [ofFull.eq_def] at h
    split at h
    next heq =>
      cases heq
      simp only [RecordKind.members, RecordKind.empty, Member.Stands, List.forall₂_cons] at hentries
      obtain ⟨⟨rfl, -⟩, ⟨rfl, -⟩, ⟨rfl, hinner, -⟩, ⟨rfl, houter, -⟩, -⟩ := hentries
      obtain ⟨types, hts, h⟩ := bind_eq_ok_iff.1 h
      obtain ⟨inner, hin, h⟩ := bind_eq_ok_iff.1 h
      obtain ⟨outer, hout, h⟩ := bind_eq_ok_iff.1 h
      obtain rfl := pure_eq_ok_iff.1 h
      rw [toDoc, Doc.ofTexts, map_text hts, Relationship.faithful.map hinner hin,
        Relationship.faithful.map houter hout]
    next => cases h

theorem CallEdge.faithful : Faithful .call CallEdge.toDoc CallEdge.ofFull where
  full := by
    intro c
    refine conform_of_stands ?_ (RecordKind.allows_of_no_choice rfl)
    simp [RecordKind.members, Member.Stands]
  reads := fun _ => rfl
  writes := by
    intro d c hd h
    obtain ⟨entries, rfl, hentries, -⟩ := stands_of_conform hd
    rw [ofFull.eq_def] at h
    split at h
    next heq =>
      cases heq
      simp only [RecordKind.members, Member.Stands, List.forall₂_cons] at hentries
      obtain ⟨⟨rfl, -⟩, ⟨rfl, -⟩, ⟨rfl, -⟩, ⟨rfl, -⟩, -⟩ := hentries
      obtain rfl := Except.ok.inj h
      rfl
    next => cases h

theorem Service.faithful : Faithful .service Service.toDoc Service.ofFull where
  full := by
    intro s
    refine conform_of_stands ?_ (RecordKind.allows_of_text rfl rfl ?_)
    · simp [RecordKind.members, RecordKind.empty, Member.Stands, Doc.ofTexts]
    · cases s.layer <;> decide
  reads := by
    intro s
    simp [toDoc, ofFull, Layer.ofText?_text, mapM_toText, Doc.ofTexts, bind, Except.bind, pure,
      Except.pure]
  writes := by
    intro d s hd h
    obtain ⟨entries, rfl, hentries, -⟩ := stands_of_conform hd
    rw [ofFull.eq_def] at h
    split at h
    next heq =>
      cases heq
      simp only [RecordKind.members, RecordKind.empty, Member.Stands, List.forall₂_cons] at hentries
      obtain ⟨⟨rfl, -⟩, ⟨rfl, -⟩, ⟨rfl, -⟩, ⟨rfl, -⟩, ⟨rfl, -⟩, -⟩ := hentries
      dsimp only at h
      split at h
      next l hl =>
        obtain ⟨_, hlayer, h⟩ := bind_eq_ok_iff.1 h
        obtain ⟨routes, hroutes, h⟩ := bind_eq_ok_iff.1 h
        obtain rfl := pure_eq_ok_iff.1 h
        obtain rfl := Except.ok.inj hlayer
        rw [toDoc, text_of_find? hl, Doc.ofTexts, map_text hroutes]
      next => cases h
    next => cases h

theorem OutboundCall.faithful : Faithful .outboundCall OutboundCall.toDoc OutboundCall.ofFull where
  full := by
    intro c
    refine conform_of_stands ?_ (RecordKind.allows_of_no_choice rfl)
    simp [RecordKind.members, Member.Stands]
  reads := fun _ => rfl
  writes := by
    intro d c hd h
    obtain ⟨entries, rfl, hentries, -⟩ := stands_of_conform hd
    rw [ofFull.eq_def] at h
    split at h
    next heq =>
      cases heq
      simp only [RecordKind.members, Member.Stands, List.forall₂_cons] at hentries
      obtain ⟨⟨rfl, -⟩, ⟨rfl, -⟩, ⟨rfl, -⟩, ⟨rfl, -⟩, ⟨rfl, -⟩, -⟩ := hentries
      obtain rfl := Except.ok.inj h
      rfl
    next => cases h

/-! ### Facts -/

theorem TypeFacts.faithful : Faithful .typeFacts TypeFacts.toDoc TypeFacts.ofFull where
  full := by
    intro f
    refine conform_of_stands ?_ (RecordKind.allows_of_no_choice rfl)
    simp [RecordKind.members, RecordKind.empty, Member.Stands, TypeDefinition.faithful.many,
      Relationship.faithful.many, TypeModule.faithful.many, CallEdge.faithful.many]
  reads := by
    intro f
    simp [toDoc, ofFull, TypeDefinition.faithful.mapM, Relationship.faithful.mapM,
      TypeModule.faithful.mapM, CallEdge.faithful.mapM, bind, Except.bind, pure, Except.pure]
  writes := by
    intro d f hd h
    obtain ⟨entries, rfl, hentries, -⟩ := stands_of_conform hd
    rw [ofFull.eq_def] at h
    split at h
    next heq =>
      cases heq
      simp only [RecordKind.members, RecordKind.empty, Member.Stands, List.forall₂_cons] at hentries
      obtain ⟨⟨rfl, htypes, -⟩, ⟨rfl, hrelations, -⟩, ⟨rfl, hmodules, -⟩, ⟨rfl, hcalls, -⟩, -⟩ :=
        hentries
      obtain ⟨types, hts, h⟩ := bind_eq_ok_iff.1 h
      obtain ⟨relations, hrs, h⟩ := bind_eq_ok_iff.1 h
      obtain ⟨modules, hms, h⟩ := bind_eq_ok_iff.1 h
      obtain ⟨calls, hcs, h⟩ := bind_eq_ok_iff.1 h
      obtain rfl := pure_eq_ok_iff.1 h
      rw [toDoc, TypeDefinition.faithful.map htypes hts, Relationship.faithful.map hrelations hrs,
        TypeModule.faithful.map hmodules hms, CallEdge.faithful.map hcalls hcs]
    next => cases h

theorem TypeFacts.ofDoc_toDoc (f : TypeFacts) : TypeFacts.ofDoc f.toDoc = .ok f :=
  bind_eq_ok_iff.2 ⟨_, TypeFacts.faithful.full f, TypeFacts.faithful.reads f⟩

theorem TopologyFacts.faithful :
    Faithful .topologyFacts TopologyFacts.toDoc TopologyFacts.ofFull where
  full := by
    intro f
    refine conform_of_stands ?_ (RecordKind.allows_of_no_choice rfl)
    simp [RecordKind.members, RecordKind.empty, Member.Stands, Service.faithful.many,
      OutboundCall.faithful.many]
  reads := by
    intro f
    simp [toDoc, ofFull, Service.faithful.mapM, OutboundCall.faithful.mapM, bind, Except.bind, pure,
      Except.pure]
  writes := by
    intro d f hd h
    obtain ⟨entries, rfl, hentries, -⟩ := stands_of_conform hd
    rw [ofFull.eq_def] at h
    split at h
    next heq =>
      cases heq
      simp only [RecordKind.members, RecordKind.empty, Member.Stands, List.forall₂_cons] at hentries
      obtain ⟨⟨rfl, hservices, -⟩, ⟨rfl, hcalls, -⟩, -⟩ := hentries
      obtain ⟨services, hss, h⟩ := bind_eq_ok_iff.1 h
      obtain ⟨calls, hcs, h⟩ := bind_eq_ok_iff.1 h
      obtain rfl := pure_eq_ok_iff.1 h
      rw [toDoc, Service.faithful.map hservices hss, OutboundCall.faithful.map hcalls hcs]
    next => cases h

end RepoAtlas
