import RepoAtlas.Atlas.Queries
import RepoAtlas.Proofs.OrderedMap
import RepoAtlas.Proofs.Record.TypedRecords
import RepoAtlas.Proofs.Types.Matching

/-!
Answers come from definitions and calls. The relationships and modules of a snapshot are read with
it and then left aside, so sources that differ in nothing else give the same answers.
-/
namespace RepoAtlas

namespace TypeFacts

/-- A member of type facts: records of one kind, none if it is not given. -/
def part (name : String) (kind : RecordKind) : Member := ⟨name, .many kind, RecordKind.empty⟩

/-- A member that is not given, or holds records that can be read. -/
def HasRecords {α : Type} (name : String) (kind : RecordKind) (ofFull : Doc → Result α)
    (ms : List (String × Doc)) : Prop :=
  ∃ items records, (part name kind).taken ms = .ok (.list items) ∧
    items.mapM ofFull = .ok records

/-- The relationships and modules of a payload are well-formed. -/
structure HasViews (ms : List (String × Doc)) : Prop where
  relationships : HasRecords "relationships" .relationship Relationship.ofFull ms
  modules : HasRecords "modules" .module TypeModule.ofFull ms

/-- Payloads of type facts that differ at most in their relationships and modules. -/
inductive SameButViews : Option Doc → Option Doc → Prop
  | same (payload : Option Doc) : SameButViews payload payload
  | views {ms ms' : List (String × Doc)}
      (types : OrderedMap.lookup "types" ms = OrderedMap.lookup "types" ms')
      (calls : OrderedMap.lookup "calls" ms = OrderedMap.lookup "calls" ms')
      (views : HasViews ms) (views' : HasViews ms') :
      SameButViews (some (.object ms)) (some (.object ms'))

/-- The same types and calls. -/
def SameDeclared (f f' : TypeFacts) : Prop := f.types = f'.types ∧ f.calls = f'.calls

theorem factsOf_congr {f f' : TypeFacts} (h : SameDeclared f f') :
    Types.factsOf f.types f.calls = Types.factsOf f'.types f'.calls := by
  rw [h.1, h.2]

theorem taken_part_congr {name : String} {kind : RecordKind} {ms ms' : List (String × Doc)}
    (h : OrderedMap.lookup name ms = OrderedMap.lookup name ms') :
    (part name kind).taken ms = (part name kind).taken ms' := by
  rw [Member.taken, Member.taken, Member.given, Member.given, part, h]
  rfl

theorem list_of_taken_part {name : String} {kind : RecordKind} {ms : List (String × Doc)}
    {d : Doc} (h : (part name kind).taken ms = .ok d) : ∃ items, d = .list items := by
  rw [Member.taken] at h
  cases hgiven : (part name kind).given ms with
  | none =>
    rw [hgiven] at h
    exact ⟨[], (Except.ok.inj h).symm⟩
  | some v =>
    rw [hgiven] at h
    obtain ⟨-, full, -, -, hd⟩ := items_of_conformValue_many h
    exact ⟨full, hd⟩

/-- Well-formed relationships and modules never decide whether type facts can be read. -/
theorem ofDoc_of_taken {ms : List (String × Doc)} {relationships modules : Doc}
    (hrelationships : (part "relationships" .relationship).taken ms = .ok relationships)
    (hmodules : (part "modules" .module).taken ms = .ok modules) :
    ofDoc (.object ms) = (do
      let types ← (part "types" .typeDefinition).taken ms
      let calls ← (part "calls" .call).taken ms
      ofFull (.object [("types", types), ("relationships", relationships), ("modules", modules),
        ("calls", calls)])) := by
  have hmembers : RecordKind.typeFacts.members = [part "types" .typeDefinition,
      part "relationships" .relationship, part "modules" .module, part "calls" .call] := rfl
  rw [ofDoc, conform_object, hmembers]
  simp only [List.mapM_cons, List.mapM_nil, hrelationships, hmodules]
  cases (part "types" .typeDefinition).taken ms with
  | error fault => rfl
  | ok types => cases (part "calls" .call).taken ms <;> rfl

theorem sameDeclared_ofDoc {ms ms' : List (String × Doc)}
    (htypes : OrderedMap.lookup "types" ms = OrderedMap.lookup "types" ms')
    (hcalls : OrderedMap.lookup "calls" ms = OrderedMap.lookup "calls" ms')
    (h : HasViews ms) (h' : HasViews ms') :
    SameOutcome SameDeclared (ofDoc (.object ms)) (ofDoc (.object ms')) := by
  obtain ⟨⟨rs, relationships, hrs, hrelationships⟩, ns, modules, hns, hmodules⟩ := h
  obtain ⟨⟨rs', relationships', hrs', hrelationships'⟩, ns', modules', hns', hmodules'⟩ := h'
  rw [ofDoc_of_taken hrs hns, ofDoc_of_taken hrs' hns', taken_part_congr htypes,
    taken_part_congr hcalls]
  refine SameOutcome.bind_self fun types htypes => SameOutcome.bind_self fun calls hcalls => ?_
  obtain ⟨ts, rfl⟩ := list_of_taken_part htypes
  obtain ⟨cs, rfl⟩ := list_of_taken_part hcalls
  simp only [ofFull, hrelationships, hmodules, hrelationships', hmodules']
  refine SameOutcome.bind_self fun types _ => ?_
  exact SameOutcome.bind_self (x := cs.mapM CallEdge.ofFull) fun calls _ => .ok ⟨rfl, rfl⟩

theorem hasRecords_of_faithful {α : Type} {kind : RecordKind} {toDoc : α → Doc}
    {ofFull : Doc → Result α} (h : Faithful kind toDoc ofFull) {name : String}
    {ms : List (String × Doc)} {records : List α}
    (hlookup : OrderedMap.lookup name ms = some (.list (records.map toDoc))) :
    HasRecords name kind ofFull ms := by
  refine ⟨records.map toDoc, records, ?_, List.mapM_map.trans (h.mapM records)⟩
  have hgiven : (part name kind).given ms = some (.list (records.map toDoc)) := by
    rw [Member.given, part, hlookup]
    rfl
  rw [Member.taken, hgiven]
  exact h.many records

/-- Facts as they are written, with other relationships and modules. -/
theorem sameButViews_toDoc {f f' : TypeFacts} (h : SameDeclared f f') :
    SameButViews (some f.toDoc) (some f'.toDoc) := by
  refine .views (by rw [h.1]; rfl) (by rw [h.2]; rfl) ⟨?_, ?_⟩ ⟨?_, ?_⟩
  · exact hasRecords_of_faithful Relationship.faithful rfl
  · exact hasRecords_of_faithful TypeModule.faithful rfl
  · exact hasRecords_of_faithful Relationship.faithful rfl
  · exact hasRecords_of_faithful TypeModule.faithful rfl

end TypeFacts

/-! ### Snapshots -/

namespace Snapshot

variable {s s' : Snapshot}

/-- Snapshots with the same types, calls and service topology. -/
structure SameButViews (s s' : Snapshot) : Prop where
  types : TypeFacts.SameButViews (s.payload? typeDomain) (s'.payload? typeDomain)
  topology : s.payload? topologyDomain = s'.payload? topologyDomain

theorem SameButViews.typeFacts (h : s.SameButViews s') :
    SameOutcome TypeFacts.SameDeclared s.typeFacts s'.typeFacts := by
  have htypes := h.types
  rw [Snapshot.typeFacts, Snapshot.typeFacts]
  generalize s.payload? typeDomain = payload, s'.payload? typeDomain = payload' at htypes
  cases htypes with
  | same => exact .refl (fun _ => ⟨rfl, rfl⟩) _
  | views types calls views views' =>
    exact TypeFacts.sameDeclared_ofDoc types calls views views'

theorem SameButViews.typeFacts? (h : s.SameButViews s') :
    SameOutcome (Option.Rel TypeFacts.SameDeclared) s.typeFacts? s'.typeFacts? := by
  have htypes := h.types
  rw [Snapshot.typeFacts?, Snapshot.typeFacts?]
  generalize s.payload? typeDomain = payload, s'.payload? typeDomain = payload' at htypes
  cases htypes with
  | same =>
    refine .refl (fun facts => ?_) _
    cases facts with
    | none => exact .none
    | some f => exact .some ⟨rfl, rfl⟩
  | views types calls views views' =>
    exact (TypeFacts.sameDeclared_ofDoc types calls views views').bind fun _ _ h => .ok (.some h)

theorem SameButViews.topologyFacts (h : s.SameButViews s') :
    s.topologyFacts = s'.topologyFacts := by
  rw [Snapshot.topologyFacts, Snapshot.topologyFacts, h.topology]

end Snapshot

/-! ### Sources -/

/-- Sources that list the same and have the same snapshots, but for relationships and modules. -/
structure SnapshotSource.SameButViews (source source' : SnapshotSource) : Prop where
  repos : source.repos = source'.repos
  entries : ∀ repo, source.entries repo = source'.entries repo
  latest : ∀ repo, SameOutcome (Option.Rel Snapshot.SameButViews)
    (source.latest repo) (source'.latest repo)
  atRef : ∀ repo ref, SameOutcome (Option.Rel Snapshot.SameButViews)
    (source.atRef repo ref) (source'.atRef repo ref)

/-- Snapshots of the same repositories, which differ at most in relationships and modules. -/
def SameLoaded (loaded loaded' : List (String × Option Snapshot)) : Prop :=
  List.Forall₂ (fun e e' => e.1 = e'.1 ∧ Option.Rel Snapshot.SameButViews e.2 e'.2) loaded loaded'

namespace SnapshotSource.SameButViews

variable {source source' : SnapshotSource}

theorem snapshot? (h : source.SameButViews source') (repo ref : String) :
    SameOutcome (Option.Rel Snapshot.SameButViews) (source.snapshot? repo ref)
      (source'.snapshot? repo ref) := by
  rw [SnapshotSource.snapshot?, SnapshotSource.snapshot?]
  split
  · exact h.latest repo
  · exact h.atRef repo ref

theorem snapshots (h : source.SameButViews source') (repos : List String) (ref : String) :
    SameOutcome SameLoaded (source.snapshots repos ref) (source'.snapshots repos ref) := by
  rw [SnapshotSource.snapshots, SnapshotSource.snapshots, h.repos]
  refine (SameOutcome.mapM (List.forall₂_same.2 fun _ _ => rfl) ?_).bind
    fun found found' hfound => .ok (OrderedMap.related_ofList hfound)
  rintro repo _ rfl
  exact (h.snapshot? repo ref).bind fun s s' hs => .ok ⟨rfl, hs⟩

/-- A query that begins with something read from the source. -/
theorem lift_bind_congr {α β γ : Type} {R : α → β → Prop} {x : Result α} {y : Result β}
    {f : α → Query γ} {g : β → Query γ} (h : SameOutcome R x y)
    (hrest : ∀ a b, R a b → f a = g b) : (liftM x >>= f) = (liftM y >>= g) := by
  cases h with
  | error fault => rfl
  | ok h => exact hrest _ _ h

/-- What is derived from the definitions and calls of a snapshot is the same. -/
theorem typeFacts (h : source.SameButViews source') (repo ref : String) :
    source.typeFacts repo ref = source'.typeFacts repo ref := by
  rw [SnapshotSource.typeFacts, SnapshotSource.typeFacts, snapshotOf, snapshotOf, h.repos,
    h.entries]
  have hfound := h.snapshot? repo ref
  generalize source.snapshot? repo ref = found, source'.snapshot? repo ref = found' at hfound
  cases source'.repos.contains repo with
  | false => rfl
  | true =>
    cases hfound with
    | error fault => rfl
    | ok hfound =>
      cases hfound with
      | none => rfl
      | some hs =>
        exact lift_bind_congr hs.typeFacts fun f f' hf => congrArg pure (TypeFacts.factsOf_congr hf)

theorem latestRef (h : source.SameButViews source') (repo : String) :
    source.latestRef repo = source'.latestRef repo := by
  rw [SnapshotSource.latestRef, SnapshotSource.latestRef, h.entries]

end SnapshotSource.SameButViews

namespace Atlas

variable {loaded loaded' : List (String × Option Snapshot)} {source source' : SnapshotSource}

theorem typesOf_congr (h : SameLoaded loaded loaded') : typesOf loaded = typesOf loaded' := by
  rw [typesOf, typesOf]
  refine (SameOutcome.mapM (S := Eq) h ?_).bind_eq fun found found' hfound => ?_
  · rintro ⟨repo, s⟩ ⟨repo', s'⟩ ⟨rfl, hs⟩
    cases hs with
    | none => exact .ok rfl
    | some hs =>
      refine hs.typeFacts?.bind fun facts facts' hfacts => .ok ?_
      cases hfacts with
      | none => rfl
      | some hsame => exact congrArg (fun types => (repo, some types)) hsame.1
  · rw [List.forall₂_eq_eq_eq] at hfound
    rw [hfound]

theorem topologiesOf_congr (h : SameLoaded loaded loaded') :
    topologiesOf loaded = topologiesOf loaded' := by
  refine SameOutcome.eq ?_
  rw [← List.forall₂_eq_eq_eq, topologiesOf, topologiesOf]
  refine SameOutcome.mapM h ?_
  rintro ⟨repo, s⟩ ⟨repo', s'⟩ ⟨rfl, hs⟩
  cases hs with
  | none => exact .ok rfl
  | some hs =>
    dsimp only
    rw [hs.topologyFacts]
    exact .refl (fun _ => rfl) _

theorem matchesIn_congr (settings : Settings) (h : SameLoaded loaded loaded') :
    matchesIn settings loaded = matchesIn settings loaded' := by
  rw [matchesIn, matchesIn, typesOf_congr h]

theorem graphOf_congr (settings : Settings) (h : SameLoaded loaded loaded') :
    graphOf settings loaded = graphOf settings loaded' := by
  rw [graphOf, graphOf, matchesIn_congr settings h, topologiesOf_congr h]

/-- Every question about types, calls and the ecosystem has the same answer, miss or fault. -/
structure SameAnswers (source source' : SnapshotSource) : Prop where
  sharedTypes : ∀ settings repos ref,
    sharedTypesOf settings source repos ref = sharedTypesOf settings source' repos ref
  typeFlow : ∀ settings repos ref minSimilarity,
    typeFlowOf settings source repos ref minSimilarity =
      typeFlowOf settings source' repos ref minSimilarity
  searchTypes : ∀ repo q limit,
    searchTypesOf source repo q limit = searchTypesOf source' repo q limit
  relationships : ∀ repo focus ref,
    relationshipsOf source repo focus ref = relationshipsOf source' repo focus ref
  callGraph : ∀ settings repo q ref,
    callGraphOf settings source repo q ref = callGraphOf settings source' repo q ref
  impactTree : ∀ settings repo ref,
    impactTreeOf settings source repo ref = impactTreeOf settings source' repo ref
  ecosystem : ∀ settings repos ref focus,
    ecosystemOf settings source repos ref focus = ecosystemOf settings source' repos ref focus

theorem sharedTypesOf_congr (h : source.SameButViews source') (settings : Settings)
    (repos : List String) (ref : String) :
    sharedTypesOf settings source repos ref = sharedTypesOf settings source' repos ref :=
  (h.snapshots repos ref).bind_eq fun _ _ hloaded => matchesIn_congr settings hloaded

/-- Stored relationships and modules have no part in the answers, whatever the settings and
whatever is asked. -/
theorem sameAnswers_of_sameButViews (h : source.SameButViews source') :
    SameAnswers source source' where
  sharedTypes := sharedTypesOf_congr h
  typeFlow := by
    intro settings repos ref minSimilarity
    rw [typeFlowOf, typeFlowOf, sharedTypesOf_congr h]
  searchTypes := by
    intro repo q limit
    rw [searchTypesOf, searchTypesOf, h.typeFacts]
    split
    · exact SnapshotSource.SameButViews.lift_bind_congr (h.snapshots [] "") fun _ _ hloaded => by
        rw [typesOf_congr hloaded]
    · rfl
  relationships := by
    intro repo focus ref
    rw [relationshipsOf, relationshipsOf, h.typeFacts]
  callGraph := by
    intro settings repo q ref
    rw [callGraphOf, callGraphOf, h.typeFacts, h.latestRef]
  impactTree := by
    intro settings repo ref
    rw [impactTreeOf, impactTreeOf, h.typeFacts]
  ecosystem := by
    intro settings repos ref focus
    exact SnapshotSource.SameButViews.lift_bind_congr (h.snapshots repos ref) fun _ _ hloaded => by
      rw [graphOf_congr settings hloaded]

/-! ### A shop with stale views -/

/-- A shop as its facts are written. -/
def shop (facts : TypeFacts) : Snapshot :=
  { repo := "shop", ref := "main", capturedAt := default, facts := [(typeDomain, facts.toDoc)] }

def shopSource (facts : TypeFacts) : SnapshotSource where
  repos := ["shop"]
  latest := fun _ => .ok (some (shop facts))
  atRef := fun _ _ => .ok (some (shop facts))

/-- Users, and views of them from a time when there was another type. -/
def agedFacts : TypeFacts :=
  { types := [Types.user],
    relationships := [{ kind := .contains, source := "User", target := "Ghost" }],
    modules := [{ path := "gone", types := ["Ghost"] }] }

/-- The stored views differ, and nothing that is asked tells the shops apart. -/
theorem sameAnswers_of_aged :
    SameAnswers (shopSource { types := [Types.user] }) (shopSource agedFacts) ∧
      (shop { types := [Types.user] }).typeFacts = .ok { types := [Types.user] } ∧
      (shop agedFacts).typeFacts = .ok agedFacts := by
  have hsame : (shop { types := [Types.user] }).SameButViews (shop agedFacts) :=
    ⟨TypeFacts.sameButViews_toDoc ⟨rfl, rfl⟩, rfl⟩
  have hsource : (shopSource { types := [Types.user] }).SameButViews (shopSource agedFacts) :=
    ⟨rfl, fun _ => rfl, fun _ => .ok (.some hsame), fun _ _ => .ok (.some hsame)⟩
  exact ⟨sameAnswers_of_sameButViews hsource, TypeFacts.ofDoc_toDoc _, TypeFacts.ofDoc_toDoc _⟩

end Atlas

end RepoAtlas
