import RepoAtlas.Extract.Capture
import RepoAtlas.Proofs.Yaml.JsonForm

/-!
Which payloads can be spelt. Those of types, relationships, modules, calls and resources can, if the
values of variants can; that of services and requests can if their annotations can, and has no text
if one of these has none.
-/
namespace RepoAtlas

namespace Doc

@[simp] theorem isSpelt_null : Doc.null.isSpelt = true := rfl
@[simp] theorem isSpelt_bool (b : Bool) : (Doc.bool b).isSpelt = true := rfl
@[simp] theorem isSpelt_int (i : Int) : (Doc.int i).isSpelt = true := rfl
@[simp] theorem isSpelt_text (s : String) : (Doc.text s).isSpelt = true := rfl

@[simp] theorem isSpelt_list_iff {items : List Doc} :
    (Doc.list items).isSpelt = true ↔ ∀ d ∈ items, d.isSpelt = true :=
  isSpeltBy_list_iff

@[simp] theorem isSpelt_object_iff {ms : List (String × Doc)} :
    (Doc.object ms).isSpelt = true ↔ (ms.map (·.1)).Nodup ∧ ∀ m ∈ ms, m.2.isSpelt = true :=
  isSpeltBy_object_iff

@[simp] theorem isSpelt_ofTexts (texts : List String) : (ofTexts texts).isSpelt = true := by
  simp [ofTexts]

@[simp] theorem isSpelt_ofOption (text : Option String) : (ofOption text).isSpelt = true := by
  cases text <;> rfl

theorem holdsForeign_of_item {items : List Doc} {d : Doc} (hd : d ∈ items)
    (h : d.holdsForeign = true) : (Doc.list items).holdsForeign = true := by
  rw [holdsForeign]
  induction items with
  | nil => cases hd
  | cons first rest ih =>
    rw [anyHoldsForeign, Bool.or_eq_true]
    rcases List.mem_cons.1 hd with rfl | hd
    · exact Or.inl h
    · exact Or.inr (ih hd)

theorem holdsForeign_of_member {ms : List (String × Doc)} {m : String × Doc} (hm : m ∈ ms)
    (h : m.2.holdsForeign = true) : (Doc.object ms).holdsForeign = true := by
  rw [holdsForeign, memberHoldsForeign_eq_any]
  exact List.any_eq_true.2 ⟨m, hm, h⟩

end Doc

/-! ### Types -/

mutual

theorem TypeRef.isSpelt_toDoc : (r : TypeRef) → r.toDoc.isSpelt = true
  | ⟨name, raw, optional, isCollection, generics⟩ => by
    simpa [TypeRef.toDoc] using TypeRef.areSpelt_toDocs generics

theorem TypeRef.areSpelt_toDocs : (rs : List TypeRef) → ∀ d ∈ TypeRef.toDocs rs, d.isSpelt = true
  | [] => fun _ hd => absurd hd List.not_mem_nil
  | r :: rest =>
    List.forall_mem_cons.2 ⟨TypeRef.isSpelt_toDoc r, TypeRef.areSpelt_toDocs rest⟩

end

theorem Field.isSpelt_toDoc (f : Field) : f.toDoc.isSpelt = true := by
  simp [Field.toDoc, TypeRef.isSpelt_toDoc]

theorem TypeDefinition.isSpelt_toDoc {t : TypeDefinition}
    (h : ∀ v ∈ t.variants, v.value.isSpelt = true) : t.toDoc.isSpelt = true := by
  have hvariants : ∀ v ∈ t.variants, v.toDoc.isSpelt = true := fun v hv => by
    simp [Variant.toDoc, h v hv]
  have hparents := TypeRef.areSpelt_toDocs t.parents
  have hinterfaces := TypeRef.areSpelt_toDocs t.interfaces
  simpa [TypeDefinition.toDoc, Field.isSpelt_toDoc] using ⟨hvariants, hparents, hinterfaces⟩

theorem Relationship.isSpelt_toDoc (r : Relationship) : r.toDoc.isSpelt = true := by
  simp [Relationship.toDoc]

theorem TypeModule.isSpelt_toDoc (m : TypeModule) : m.toDoc.isSpelt = true := by
  simp [TypeModule.toDoc, Relationship.isSpelt_toDoc]

theorem CallEdge.isSpelt_toDoc (c : CallEdge) : c.toDoc.isSpelt = true := by
  simp [CallEdge.toDoc]

theorem TypeFacts.isSpelt_toDoc {f : TypeFacts}
    (h : ∀ t ∈ f.types, ∀ v ∈ t.variants, v.value.isSpelt = true) : f.toDoc.isSpelt = true := by
  have htypes : ∀ t ∈ f.types, t.toDoc.isSpelt = true := fun t ht =>
    TypeDefinition.isSpelt_toDoc (h t ht)
  simpa [TypeFacts.toDoc, Relationship.isSpelt_toDoc, TypeModule.isSpelt_toDoc,
    CallEdge.isSpelt_toDoc] using htypes

theorem Resource.isSpelt_toDoc (r : Resource) : r.toDoc.isSpelt = true := by
  simp [Resource.toDoc]

/-! ### Services and requests -/

theorem Service.isSpelt_toDoc_iff {s : Service} :
    s.toDoc.isSpelt = true ↔ s.image.isSpelt = true := by
  simp [Service.toDoc]

theorem OutboundCall.isSpelt_toDoc_iff {c : OutboundCall} :
    c.toDoc.isSpelt = true ↔ c.caller.isSpelt = true ∧ c.method.isSpelt = true := by
  simp [OutboundCall.toDoc]

theorem TopologyFacts.isSpelt_toDoc_iff {f : TopologyFacts} :
    f.toDoc.isSpelt = true ↔ (∀ s ∈ f.services, s.image.isSpelt = true) ∧
      ∀ c ∈ f.outboundCalls, c.caller.isSpelt = true ∧ c.method.isSpelt = true := by
  simp [TopologyFacts.toDoc, Service.isSpelt_toDoc_iff, OutboundCall.isSpelt_toDoc_iff]

theorem Service.holdsForeign_toDoc {s : Service} (h : s.image.holdsForeign = true) :
    s.toDoc.holdsForeign = true :=
  Doc.holdsForeign_of_member (m := ("container_image", s.image)) (by simp) h

theorem OutboundCall.holdsForeign_toDoc {c : OutboundCall}
    (h : c.caller.holdsForeign = true ∨ c.method.holdsForeign = true) :
    c.toDoc.holdsForeign = true := by
  rcases h with hcaller | hmethod
  · exact Doc.holdsForeign_of_member (m := ("caller", c.caller)) (by simp) hcaller
  · exact Doc.holdsForeign_of_member (m := ("method", c.method)) (by simp) hmethod

/-- A service or a request whose annotation has no text leaves none to the payload. -/
theorem TopologyFacts.holdsForeign_toDoc {f : TopologyFacts}
    (h : (∃ s ∈ f.services, s.image.holdsForeign = true) ∨
      ∃ c ∈ f.outboundCalls, c.caller.holdsForeign = true ∨ c.method.holdsForeign = true) :
    f.toDoc.holdsForeign = true := by
  rcases h with ⟨s, hs, himage⟩ | ⟨c, hc, hvalue⟩
  · refine Doc.holdsForeign_of_member (m := ("services", .list (f.services.map Service.toDoc)))
      (by simp) (Doc.holdsForeign_of_item (List.mem_map_of_mem hs) ?_)
    exact Service.holdsForeign_toDoc himage
  · refine Doc.holdsForeign_of_member
      (m := ("outbound_calls", .list (f.outboundCalls.map OutboundCall.toDoc)))
      (by simp) (Doc.holdsForeign_of_item (List.mem_map_of_mem hc) ?_)
    exact OutboundCall.holdsForeign_toDoc hvalue

end RepoAtlas
