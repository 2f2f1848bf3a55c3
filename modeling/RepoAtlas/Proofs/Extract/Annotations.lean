import RepoAtlas.Extract.Capture
import RepoAtlas.Proofs.Yaml.ReadNumbers

/-!
What a front end takes over without looking at it: the images of services, and the callers and
methods of requests. Everything else it draws from a file is turned into text, or was text and
whole numbers all along.
-/
namespace RepoAtlas

open Yaml (Value)

/-- The images of services, and the callers and methods of requests, in the order of these. -/
structure Annotations where
  images : List Value := []
  requests : List (Value × Value) := []

namespace Annotations

def values (a : Annotations) : List Value := a.images ++ a.requests.flatMap (fun r => [r.1, r.2])

def append (a b : Annotations) : Annotations := ⟨a.images ++ b.images, a.requests ++ b.requests⟩

def join (parts : List Annotations) : Annotations := parts.foldr append {}

end Annotations

/-- The caller and the method that an entry names. -/
def Inventory.requestOf (entry : Value) : Result (Value × Value) := do
  return (← entry.get "caller", ← entry.get "method")

/-- What an inventory's text gives for its services and requests. -/
def Inventory.annotations (content : String) : Result Annotations := do
  let declared := (← Yaml.singleDocument content).orEmptyMap
  let images ← (← (← declared.get "services").orEmptyList.items).mapM (·.get "image")
  let requests ← (← (← declared.get "calls").orEmptyList.items).mapM requestOf
  return { images, requests }

/-- The image of the service that a document declares; an ingress has none. -/
def Manifest.documentImages (doc : Value) : Result (List Value) := do
  if !isObject doc then return []
  let kind := (← doc.get "kind").shown
  let spec ← part doc "spec"
  if workloadKinds.contains kind then return [← firstImage spec]
  else if kind = "Ingress" then return [.null]
  else return []

def Manifest.annotations (content : String) : Result Annotations := do
  let images ← (Yaml.documents content).mapM (fun doc => do documentImages (← doc))
  return { images := images.flatten }

/-- The requests of a source file are texts already. -/
def FileFacts.textAnnotations (f : FileFacts) : Annotations :=
  { requests := f.outboundCalls.map (fun c => (Value.ofDoc c.caller, Value.ofDoc c.method)) }

def FrontEnd.annotations (content path : String) : FrontEnd → Result Annotations
  | .source => FileFacts.textAnnotations <$> Source.facts content path
  | .manifest => Manifest.annotations content
  | .inventory => Inventory.annotations content

/-- The document of a value whose numbers are doubles. -/
def IsTaken (v : Value) (d : Doc) : Prop := v.hasDoubles = true ∧ d = v.toDoc

/-- The facts take over just these values, each as its document. The values of variants are texts
and whole numbers. -/
structure FileFacts.TakesOver (f : FileFacts) (a : Annotations) : Prop where
  images : List.Forall₂ (fun v s => IsTaken v s.image) a.images f.services
  requests : List.Forall₂ (fun r c => IsTaken r.1 c.caller ∧ IsTaken r.2 c.method) a.requests
    f.outboundCalls
  variants : ∀ t ∈ f.types, ∀ v ∈ t.variants, v.value.isSpelt = true

namespace FileFacts.TakesOver

variable {f g : FileFacts} {a b : Annotations}

theorem empty : ({} : FileFacts).TakesOver {} where
  images := .nil
  requests := .nil
  variants := fun _ ht => absurd ht List.not_mem_nil

theorem append (hf : f.TakesOver a) (hg : g.TakesOver b) : (f ++ g).TakesOver (a.append b) where
  images := List.rel_append hf.images hg.images
  requests := List.rel_append hf.requests hg.requests
  variants := List.forall_mem_append.2 ⟨hf.variants, hg.variants⟩

theorem join {fs : List FileFacts} {given : List Annotations}
    (h : List.Forall₂ TakesOver fs given) :
    (FileFacts.join fs).TakesOver (Annotations.join given) := by
  induction h with
  | nil => exact empty
  | cons hfirst _ ih => exact hfirst.append ih

end FileFacts.TakesOver

/-! ### Inventories -/

namespace Inventory

theorem image_of_serviceOf {entry : Value} (hentry : entry.hasDoubles = true) {s : Service}
    (h : serviceOf entry = .ok s) : ∃ v, entry.get "image" = .ok v ∧ IsTaken v s.image := by
  rw [serviceOf] at h
  obtain ⟨_, -, h⟩ := bind_eq_ok_iff.1 h
  obtain ⟨_, -, h⟩ := bind_eq_ok_iff.1 h
  obtain ⟨_, -, h⟩ := bind_eq_ok_iff.1 h
  obtain ⟨_, -, h⟩ := bind_eq_ok_iff.1 h
  obtain ⟨_, -, h⟩ := bind_eq_ok_iff.1 h
  obtain ⟨image, himage, h⟩ := bind_eq_ok_iff.1 h
  obtain ⟨_, -, h⟩ := bind_eq_ok_iff.1 h
  obtain rfl := pure_eq_ok_iff.1 h
  exact ⟨image, himage, Value.hasDoubles_of_get hentry himage, rfl⟩

theorem request_of_callOf {path : String} {entry : Value} (hentry : entry.hasDoubles = true)
    {c : OutboundCall} (h : callOf path entry = .ok c) :
    ∃ r, requestOf entry = .ok r ∧ IsTaken r.1 c.caller ∧ IsTaken r.2 c.method := by
  rw [callOf] at h
  obtain ⟨_, -, h⟩ := bind_eq_ok_iff.1 h
  obtain ⟨caller, hcaller, h⟩ := bind_eq_ok_iff.1 h
  obtain ⟨method, hmethod, h⟩ := bind_eq_ok_iff.1 h
  obtain rfl := pure_eq_ok_iff.1 h
  refine ⟨(caller, method), ?_, ⟨Value.hasDoubles_of_get hentry hcaller, rfl⟩,
    ⟨Value.hasDoubles_of_get hentry hmethod, rfl⟩⟩
  rw [requestOf, hcaller, hmethod]
  rfl

/-- The entries of a section have doubles only. -/
theorem hasDoubles_of_section {declared found : Value} {name : String} {entries : List Value}
    (hdeclared : declared.hasDoubles = true) (hfound : declared.get name = .ok found)
    (hentries : found.orEmptyList.items = .ok entries) :
    ∀ e ∈ entries, e.hasDoubles = true :=
  Value.hasDoubles_of_items
    (Value.hasDoubles_orEmptyList (Value.hasDoubles_of_get hdeclared hfound)) hentries

theorem takesOver_of_facts {content path : String} {f : FileFacts}
    (h : Inventory.facts content path = .ok f) :
    ∃ a, annotations content = .ok a ∧ f.TakesOver a := by
  rw [Inventory.facts] at h
  obtain ⟨document, hdocument, h⟩ := bind_eq_ok_iff.1 h
  have hdeclared := Value.hasDoubles_orEmptyMap (Yaml.hasDoubles_of_singleDocument hdocument)
  obtain ⟨declared, hsection, h⟩ := bind_eq_ok_iff.1 h
  obtain ⟨entries, hentries, h⟩ := bind_eq_ok_iff.1 h
  obtain ⟨services, hservices, h⟩ := bind_eq_ok_iff.1 h
  obtain ⟨sent, hsent, h⟩ := bind_eq_ok_iff.1 h
  obtain ⟨calls, hcalls, h⟩ := bind_eq_ok_iff.1 h
  obtain ⟨requests, hrequests, h⟩ := bind_eq_ok_iff.1 h
  obtain rfl := pure_eq_ok_iff.1 h
  obtain ⟨images, himages, hgiven⟩ := exists_mapM_related (fun e he s hs => image_of_serviceOf
    (hasDoubles_of_section hdeclared hsection hentries e he) hs) hservices
  obtain ⟨pairs, hpairs, hsame⟩ := exists_mapM_related (fun e he c hc => request_of_callOf
    (hasDoubles_of_section hdeclared hsent hcalls e he) hc) hrequests
  refine ⟨⟨images, pairs⟩, ?_, ⟨hgiven, hsame, fun _ ht => absurd ht List.not_mem_nil⟩⟩
  rw [annotations, hdocument]
  refine bind_eq_ok_iff.2 ⟨_, rfl, bind_eq_ok_iff.2 ⟨_, hsection, ?_⟩⟩
  refine bind_eq_ok_iff.2 ⟨_, hentries, bind_eq_ok_iff.2 ⟨_, himages, ?_⟩⟩
  refine bind_eq_ok_iff.2 ⟨_, hsent, bind_eq_ok_iff.2 ⟨_, hcalls, ?_⟩⟩
  exact bind_eq_ok_iff.2 ⟨_, hpairs, rfl⟩

end Inventory

/-! ### Manifests -/

namespace Manifest

variable {v found : Value} {key : String}

theorem hasDoubles_of_part (hv : v.hasDoubles = true) (h : part v key = .ok found) :
    found.hasDoubles = true := by
  obtain ⟨inner, hinner, h⟩ := bind_eq_ok_iff.1 h
  obtain rfl := pure_eq_ok_iff.1 h
  exact Value.hasDoubles_orEmptyMap (Value.hasDoubles_of_get hv hinner)

theorem hasDoubles_of_podTemplate (hv : v.hasDoubles = true) (h : podTemplate v = .ok found) :
    found.hasDoubles = true := by
  obtain ⟨direct, hdirect, h⟩ := bind_eq_ok_iff.1 h
  split at h
  · obtain ⟨outer, houter, h⟩ := bind_eq_ok_iff.1 h
    obtain ⟨inner, hinner, h⟩ := bind_eq_ok_iff.1 h
    exact hasDoubles_of_part (hasDoubles_of_part (hasDoubles_of_part hv houter) hinner) h
  · obtain rfl := pure_eq_ok_iff.1 h
    exact hasDoubles_of_part hv hdirect

theorem hasDoubles_of_firstImage (hv : v.hasDoubles = true) (h : firstImage v = .ok found) :
    found.hasDoubles = true := by
  rw [firstImage] at h
  obtain ⟨template, htemplate, h⟩ := bind_eq_ok_iff.1 h
  obtain ⟨spec, hspec, h⟩ := bind_eq_ok_iff.1 h
  obtain ⟨containers, hcontainers, h⟩ := bind_eq_ok_iff.1 h
  obtain ⟨items, hitems, h⟩ := bind_eq_ok_iff.1 h
  obtain ⟨images, himages, h⟩ := bind_eq_ok_iff.1 h
  obtain rfl := pure_eq_ok_iff.1 h
  have hcontents := hasDoubles_of_part (hasDoubles_of_podTemplate hv htemplate) hspec
  have hitem := Value.hasDoubles_of_items
    (Value.hasDoubles_orEmptyList (Value.hasDoubles_of_get hcontents hcontainers)) hitems
  cases hfound : images.find? Value.isTruthy with
  | none => rfl
  | some image =>
    obtain ⟨container, hcontainer, himage⟩ := mem_of_filterMapM_eq_ok himages
      (List.mem_of_find?_eq_some hfound)
    have hcontainer := hitem container hcontainer
    split at himage
    next entries =>
      obtain ⟨w, hw, himage⟩ := bind_eq_ok_iff.1 himage
      obtain rfl := Option.some.inj (pure_eq_ok_iff.1 himage)
      exact Value.hasDoubles_of_get hcontainer hw
    next => cases pure_eq_ok_iff.1 himage

theorem takesOver_of_documentFacts {path : String} {doc : Value} (hdoc : doc.hasDoubles = true)
    {f : FileFacts} (h : documentFacts path doc = .ok f) :
    ∃ images, documentImages doc = .ok images ∧ f.TakesOver { images } := by
  rw [documentFacts] at h
  rw [documentImages]
  split at h
  next hobject =>
    obtain rfl := pure_eq_ok_iff.1 h
    exact ⟨[], if_pos hobject, .empty⟩
  next hobject =>
    obtain ⟨kind, hkind, h⟩ := bind_eq_ok_iff.1 h
    obtain ⟨metadata, -, h⟩ := bind_eq_ok_iff.1 h
    obtain ⟨name, -, h⟩ := bind_eq_ok_iff.1 h
    obtain ⟨scope, -, h⟩ := bind_eq_ok_iff.1 h
    obtain ⟨spec, hspec, h⟩ := bind_eq_ok_iff.1 h
    rw [if_neg hobject, hkind, hspec]
    simp only [bind, Except.bind]
    split at h
    next hworkload =>
      obtain ⟨image, himage, h⟩ := bind_eq_ok_iff.1 h
      obtain rfl := pure_eq_ok_iff.1 h
      have hdouble := hasDoubles_of_firstImage (hasDoubles_of_part hdoc hspec) himage
      refine ⟨[image], ?_, .cons ⟨hdouble, rfl⟩ .nil, .nil, fun _ ht => absurd ht List.not_mem_nil⟩
      rw [if_pos hworkload, himage]
      rfl
    next hworkload =>
      rw [if_neg hworkload]
      split at h
      next hingress =>
        obtain ⟨routes, -, h⟩ := bind_eq_ok_iff.1 h
        obtain rfl := pure_eq_ok_iff.1 h
        exact ⟨[.null], if_pos hingress, .cons ⟨rfl, rfl⟩ .nil, .nil,
          fun _ ht => absurd ht List.not_mem_nil⟩
      next hingress =>
        obtain rfl := pure_eq_ok_iff.1 h
        exact ⟨[], if_neg hingress, .nil, .nil, fun _ ht => absurd ht List.not_mem_nil⟩

theorem join_images (images : List (List Value)) :
    Annotations.join (images.map fun part => { images := part }) = { images := images.flatten } := by
  induction images with
  | nil => rfl
  | cons part rest ih =>
    rw [List.map_cons, Annotations.join, List.foldr_cons, ← Annotations.join, ih]
    rfl

theorem takesOver_of_facts {content path : String} {f : FileFacts}
    (h : Manifest.facts content path = .ok f) :
    ∃ a, annotations content = .ok a ∧ f.TakesOver a := by
  obtain ⟨parts, hparts, h⟩ := bind_eq_ok_iff.1 h
  obtain rfl := pure_eq_ok_iff.1 h
  obtain ⟨images, himages, hgiven⟩ := exists_mapM_related
    (f := fun doc => do documentImages (← doc))
    (R := fun images (f : FileFacts) => f.TakesOver { images })
    (fun doc hdoc f hf => by
      obtain ⟨v, rfl, hf⟩ := bind_eq_ok_iff.1 hf
      exact takesOver_of_documentFacts (Yaml.hasDoubles_of_mem_documents hdoc rfl) hf) hparts
  refine ⟨{ images := images.flatten }, ?_, ?_⟩
  · rw [annotations, himages]
    rfl
  · rw [← join_images]
    exact .join (List.forall₂_map_right_iff.2 hgiven.flip)

end Manifest

/-! ### Source files -/

namespace Source

/-- The facts hold texts and whole numbers only. -/
def OnlyTexts (f : FileFacts) : Prop := f.TakesOver f.textAnnotations

theorem OnlyTexts.append {f g : FileFacts} (hf : OnlyTexts f) (hg : OnlyTexts g) :
    OnlyTexts (f ++ g) := by
  have hjoined : (f ++ g).textAnnotations = f.textAnnotations.append g.textAnnotations := by
    rw [FileFacts.textAnnotations, FileFacts.append_def, FileFacts.append, List.map_append]
    rfl
  rw [OnlyTexts, hjoined]
  exact FileFacts.TakesOver.append hf hg

theorem onlyTexts_join {fs : List FileFacts} (h : ∀ f ∈ fs, OnlyTexts f) :
    OnlyTexts (.join fs) := by
  induction fs with
  | nil => exact FileFacts.TakesOver.empty
  | cons f rest ih =>
    obtain ⟨hf, hrest⟩ := List.forall_mem_cons.1 h
    exact hf.append (ih hrest)

theorem onlyTexts_of_types {types : List TypeDefinition}
    (h : ∀ t ∈ types, ∀ v ∈ t.variants, v.value.isSpelt = true) : OnlyTexts { types } :=
  ⟨.nil, .nil, h⟩

theorem isTaken_text (s : String) : IsTaken (Value.ofDoc (.text s)) (.text s) := ⟨rfl, rfl⟩

theorem isTaken_requestMethod (callee : String) :
    IsTaken (Value.ofDoc (requestMethod callee)) (requestMethod callee) := by
  rw [requestMethod]
  split
  · exact isTaken_text _
  · exact ⟨rfl, rfl⟩

theorem onlyTexts_callFacts (path caller : String) (call : CallSite) :
    OnlyTexts (callFacts path caller call) := by
  rw [callFacts]
  split
  · exact FileFacts.TakesOver.empty
  next callee _ =>
    refine ⟨.nil, ?_, fun _ ht => absurd ht List.not_mem_nil⟩
    cases requestTarget? callee call with
    | none => exact .nil
    | some target => exact .cons ⟨isTaken_text _, isTaken_requestMethod callee⟩ .nil

theorem isSpelt_literalDoc (e : Expr) : (literalDoc e).isSpelt = true := by
  rw [literalDoc.eq_def]
  split <;> rfl

theorem isSpelt_of_mem_enumVariants {body : List Stmt} {v : Variant} (h : v ∈ enumVariants body) :
    v.value.isSpelt = true := by
  obtain ⟨s, -, h⟩ := List.mem_flatMap.1 h
  split at h
  next =>
    obtain ⟨target, -, h⟩ := List.mem_filterMap.1 h
    split at h
    next =>
      split at h
      · cases h
      · obtain rfl := Option.some.inj h
        exact isSpelt_literalDoc _
    next => cases h
  next => cases h

theorem onlyTexts_classDefinition {path : String} {line : Nat} {name : String}
    {decorators bases keywords : List Expr} {body : List Stmt} {t : TypeDefinition}
    (h : classDefinition path line name decorators bases keywords body = .ok t) :
    OnlyTexts { types := [t] } := by
  refine onlyTexts_of_types (List.forall_mem_singleton.2 ?_)
  rw [classDefinition] at h
  split at h
  next =>
    obtain ⟨fields, -, h⟩ := bind_eq_ok_iff.1 h
    obtain rfl := pure_eq_ok_iff.1 h
    exact fun v hv => isSpelt_of_mem_enumVariants hv
  next =>
    obtain ⟨fields, -, h⟩ := bind_eq_ok_iff.1 h
    obtain rfl := pure_eq_ok_iff.1 h
    exact fun v hv => by cases hv

theorem variants_of_aliasDefinition {path : String} {s : Stmt} {t : TypeDefinition}
    (h : aliasDefinition? path s = some t) : t.variants = [] := by
  rw [aliasDefinition?.eq_def] at h
  split at h
  next =>
    split at h
    · exact Option.some.inj h ▸ rfl
    · cases h
  next =>
    split at h
    · exact Option.some.inj h ▸ rfl
    · cases h
  next => cases h

theorem onlyTexts_aliases (path : String) (scope : List String) (s : Stmt) :
    OnlyTexts { types := if scope.isEmpty then (aliasDefinition? path s).toList else [] } := by
  refine onlyTexts_of_types fun t ht v hv => ?_
  split at ht
  · rw [variants_of_aliasDefinition (Option.mem_toList.1 ht)] at hv
    cases hv
  · cases ht

mutual

theorem onlyTexts_stmtFacts (path : String) : (scope : List String) → (s : Stmt) → ∀ f,
    stmtFacts path scope s = .ok f → OnlyTexts f
  | scope, .function _ name body => fun f h => by
    rw [stmtFacts] at h
    obtain ⟨below, hbelow, h⟩ := bind_eq_ok_iff.1 h
    obtain rfl := pure_eq_ok_iff.1 h
    refine OnlyTexts.append (onlyTexts_join fun own hown => ?_)
      (onlyTexts_stmtsFacts path _ body below hbelow)
    obtain ⟨call, -, rfl⟩ := List.mem_map.1 hown
    exact onlyTexts_callFacts _ _ call
  | scope, .class_ line name decorators bases keywords body => fun f h => by
    rw [stmtFacts] at h
    obtain ⟨own, hown, h⟩ := bind_eq_ok_iff.1 h
    obtain ⟨below, hbelow, h⟩ := bind_eq_ok_iff.1 h
    obtain rfl := pure_eq_ok_iff.1 h
    exact (onlyTexts_classDefinition hown).append (onlyTexts_stmtsFacts path _ body below hbelow)
  | scope, .block _ body => fun f h => onlyTexts_stmtsFacts path scope body f h
  | scope, .assign line targets value => fun f h =>
    Except.ok.inj h ▸ onlyTexts_aliases path scope (.assign line targets value)
  | scope, .annotated line target declared value => fun f h =>
    Except.ok.inj h ▸ onlyTexts_aliases path scope (.annotated line target declared value)
  | scope, .expression value => fun f h =>
    Except.ok.inj h ▸ onlyTexts_aliases path scope (.expression value)
  | scope, .simple values => fun f h =>
    Except.ok.inj h ▸ onlyTexts_aliases path scope (.simple values)

theorem onlyTexts_stmtsFacts (path : String) : (scope : List String) → (ss : List Stmt) → ∀ f,
    stmtsFacts path scope ss = .ok f → OnlyTexts f
  | _, [] => fun f h => by
    rw [← Except.ok.inj h]
    exact FileFacts.TakesOver.empty
  | scope, s :: rest => fun f h => by
    rw [stmtsFacts] at h
    obtain ⟨head, hhead, h⟩ := bind_eq_ok_iff.1 h
    obtain ⟨later, hlater, h⟩ := bind_eq_ok_iff.1 h
    obtain rfl := pure_eq_ok_iff.1 h
    exact (onlyTexts_stmtFacts path scope s head hhead).append
      (onlyTexts_stmtsFacts path scope rest later hlater)

end

theorem takesOver_of_facts {content path : String} {f : FileFacts}
    (h : Source.facts content path = .ok f) : f.TakesOver f.textAnnotations := by
  rw [Source.facts] at h
  split at h
  · cases h
  · split at h
    · cases h
    · exact onlyTexts_stmtsFacts path [] _ f h

end Source

theorem FrontEnd.takesOver_of_facts {content path : String} {front : FrontEnd} {f : FileFacts}
    (h : front.facts content path = .ok f) :
    ∃ a, front.annotations content path = .ok a ∧ f.TakesOver a := by
  cases front with
  | source =>
    have hfacts : Source.facts content path = .ok f := h
    refine ⟨f.textAnnotations, ?_, Source.takesOver_of_facts h⟩
    rw [FrontEnd.annotations, hfacts]
    rfl
  | manifest => exact Manifest.takesOver_of_facts h
  | inventory => exact Inventory.takesOver_of_facts h

end RepoAtlas
