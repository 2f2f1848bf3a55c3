import RepoAtlas.Proofs.OrderedMap
import RepoAtlas.Proofs.Outcome
import RepoAtlas.Topology.Ecosystem

/-!
Every service finds an owner if the rules name repositories and images are texts, and every request
has an answer, or none, if its target reads as one.
-/
namespace RepoAtlas.Topology

/-- The rules name repositories. -/
def OwnershipRules.IsPlain (rules : OwnershipRules) : Prop :=
  ∀ rule ∈ rules.explicit ++ rules.images, ∃ owner, rule.2 = .text owner

/-- The service has no image, or the image is a text. -/
def HasPlainImage (s : Service) : Prop := s.image = .null ∨ ∃ image, s.image = .text image

section Owner

variable {rules : OwnershipRules} {s : Service}

theorem OwnershipRules.IsPlain.toText_explicit (h : rules.IsPlain) {name : String} {owner : Doc}
    (howner : OrderedMap.lookup name rules.explicit = some owner) :
    ∃ repo, owner.toText = .ok repo := by
  obtain ⟨repo, heq⟩ :=
    h _ (List.mem_append_left _ (OrderedMap.mem_of_lookup howner))
  dsimp only at heq
  exact ⟨repo, by rw [heq]; rfl⟩

theorem OwnershipRules.IsPlain.toText_image (h : rules.IsPlain) {image : String} {owner : Doc}
    (howner : ruledByImage? rules image = some owner) : ∃ repo, owner.toText = .ok repo := by
  have hmem : ∃ name, (name, owner) ∈ rules.images := by
    rw [ruledByImage?, Option.or_eq_some_iff] at howner
    rcases howner with hfull | ⟨-, hshort⟩
    · exact ⟨_, OrderedMap.mem_of_lookup hfull⟩
    · exact ⟨_, OrderedMap.mem_of_lookup hshort⟩
  obtain ⟨name, hmem⟩ := hmem
  obtain ⟨repo, heq⟩ := h _ (List.mem_append_right _ hmem)
  dsimp only at heq
  exact ⟨repo, by rw [heq]; rfl⟩

theorem HasPlainImage.exists_imageOf (h : HasPlainImage s) : ∃ image, imageOf s = .ok image := by
  rcases h with hnull | ⟨image, htext⟩
  · exact ⟨none, by rw [imageOf, hnull]; rfl⟩
  · exact ⟨_, by rw [imageOf, htext]⟩

theorem exists_clusterOwner (known : List String) (declaring : String) (hrules : rules.IsPlain)
    (himage : HasPlainImage s) : ∃ owner, clusterOwner rules known declaring s = .ok owner := by
  rw [clusterOwner]
  cases hexplicit : OrderedMap.lookup s.name rules.explicit with
  | some owner =>
    obtain ⟨repo, hrepo⟩ := hrules.toText_explicit hexplicit
    exact ⟨repo, hrepo⟩
  | none =>
    dsimp only
    split
    · exact ⟨s.owner, rfl⟩
    · obtain ⟨image, heq⟩ := himage.exists_imageOf
      simp only [heq, bind, Except.bind]
      cases hruled : image.bind (ruledByImage? rules) with
      | some owner =>
        obtain ⟨found, -, hfound⟩ := Option.bind_eq_some_iff.1 hruled
        exact hrules.toText_image hfound
      | none => exact ⟨_, rfl⟩

theorem exists_ownerOf (known : List String) (declaring : String) (hrules : rules.IsPlain)
    (himage : HasPlainImage s) : ∃ owner, ownerOf rules known declaring s = .ok owner := by
  rw [ownerOf]
  cases s.layer with
  | backend => exact exists_clusterOwner known declaring hrules himage
  | edge => exact ⟨_, rfl⟩
  | internal => exact ⟨_, rfl⟩

end Owner

/-! ### What the facts of all repositories say -/

section Gathered

variable {α : Type}

/-- One part of the facts, each item with its repository, in the order of the repositories. -/
def gathered (part : TopologyFacts → List α) (facts : List (String × Option TopologyFacts)) :
    List (String × α) :=
  facts.flatMap (fun f => ((f.2.map part).getD []).map (f.1, ·))

/-- The services that the repositories declare. -/
def declaredServices (facts : List (String × Option TopologyFacts)) : List (String × Service) :=
  gathered (·.services) facts

/-- The requests that the repositories send. -/
def sentCalls (facts : List (String × Option TopologyFacts)) : List (String × OutboundCall) :=
  gathered (·.outboundCalls) facts

theorem flatMap_present (part : TopologyFacts → List α)
    (facts : List (String × Option TopologyFacts)) :
    (facts.filterMap (fun (repo, f) => f.map (repo, ·))).flatMap
      (fun f => (part f.2).map (f.1, ·)) = gathered part facts := by
  induction facts with
  | nil => rfl
  | cons first rest ih =>
    obtain ⟨repo, f⟩ := first
    cases f with
    | none => exact ih
    | some f => exact congrArg ((part f).map (repo, ·) ++ ·) ih

end Gathered

/-- The service as declared, under its owner. -/
def IsOwned (rules : OwnershipRules) (known : List String) (d : String × Service) (s : Service) :
    Prop :=
  ∃ owner, ownerOf rules known d.1 d.2 = .ok owner ∧ s = { d.2 with owner }

/-- Gives a service to its owner. -/
def own (rules : OwnershipRules) (known : List String) (d : String × Service) : Result Service := do
  return { d.2 with owner := ← ownerOf rules known d.1 d.2 }

theorem own_eq_ok_iff {rules : OwnershipRules} {known : List String} {d : String × Service}
    {s : Service} : own rules known d = .ok s ↔ IsOwned rules known d s := by
  rw [own, bind_eq_ok_iff]
  exact exists_congr fun owner => and_congr_right fun _ => pure_eq_ok_iff.trans eq_comm

theorem ownedServices_eq (rules : OwnershipRules) (known : List String)
    (facts : List (String × Option TopologyFacts)) :
    ownedServices rules known (facts.filterMap (fun (repo, f) => f.map (repo, ·))) =
      (declaredServices facts).mapM (own rules known) := by
  rw [declaredServices, ← flatMap_present, mapM_flatMap]
  simp only [List.mapM_map]
  rfl

theorem exists_ownedServices {rules : OwnershipRules} (hrules : rules.IsPlain)
    {facts : List (String × Option TopologyFacts)}
    (himages : ∀ d ∈ declaredServices facts, HasPlainImage d.2) (known : List String) :
    ∃ owned, ownedServices rules known (facts.filterMap (fun (repo, f) => f.map (repo, ·))) =
        .ok owned ∧
      List.Forall₂ (IsOwned rules known) (declaredServices facts) owned := by
  have heach : ∀ d ∈ declaredServices facts, ∃ s, own rules known d = .ok s := by
    intro d hd
    obtain ⟨owner, howner⟩ := exists_ownerOf known d.1 hrules (himages d hd)
    exact ⟨_, own_eq_ok_iff.2 ⟨owner, howner, rfl⟩⟩
  obtain ⟨owned, howned⟩ := exists_mapM_eq_ok heach
  rw [ownedServices_eq]
  exact ⟨owned, howned, (forall₂_of_mapM_eq_ok howned).imp fun _ _ => own_eq_ok_iff.1⟩

/-! ### Answers -/

/-- Looks for whoever answers a request. -/
def resolve (providers : OrderedMap String Provider) (c : String × OutboundCall) :
    Result ResolvedCall := do
  return ⟨c.1, c.2, ← matchProvider providers c.2.target⟩

theorem resolvedCalls_eq (providers : OrderedMap String Provider)
    (facts : List (String × Option TopologyFacts)) :
    resolvedCalls providers (facts.filterMap (fun (repo, f) => f.map (repo, ·))) =
      (sentCalls facts).mapM (resolve providers) := by
  rw [sentCalls, ← flatMap_present, mapM_flatMap]
  simp only [List.mapM_map]
  rfl

/-- The requests with the answers that their targets find. -/
def withAnswers (answer : String → Option Provider) (calls : List (String × OutboundCall)) :
    List ResolvedCall :=
  calls.map (fun c => ⟨c.1, c.2, answer c.2.target⟩)

theorem exists_resolvedCalls (providers : OrderedMap String Provider)
    {facts : List (String × Option TopologyFacts)}
    (htargets : ∀ c ∈ sentCalls facts, ∃ t, Target.parse c.2.target = .ok t) :
    ∃ answer : String → Option Provider,
      (∀ c ∈ sentCalls facts, matchProvider providers c.2.target = .ok (answer c.2.target)) ∧
      resolvedCalls providers (facts.filterMap (fun (repo, f) => f.map (repo, ·))) =
        .ok (withAnswers answer (sentCalls facts)) := by
  let answer (target : String) : Option Provider :=
    match matchProvider providers target with
    | .ok found => found
    | .error _ => none
  have hanswer : ∀ c ∈ sentCalls facts,
      matchProvider providers c.2.target = .ok (answer c.2.target) := by
    intro c hc
    obtain ⟨t, ht⟩ := htargets c hc
    simp only [answer, matchProvider, ht, bind, Except.bind, pure, Except.pure]
  refine ⟨answer, hanswer, ?_⟩
  rw [resolvedCalls_eq, withAnswers]
  apply mapM_eq_ok_map
  intro c hc
  simp only [resolve, hanswer c hc, bind, Except.bind, pure, Except.pure]

end RepoAtlas.Topology
