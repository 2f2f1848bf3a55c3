import RepoAtlas.Proofs.Extract.Annotations
import RepoAtlas.Proofs.Extract.Capture
import RepoAtlas.Proofs.Record.Payloads
import RepoAtlas.Proofs.Store.Isolation
import RepoAtlas.Proofs.Store.Ledger

/-!
Which captures a store takes. Everything in a capture has a JSON form but the values that its files
gave for images, callers and methods: these are taken over as they are. A date among them keeps the
whole capture from being saved; a whole number that names a member is saved, and is a text when it
comes back.
-/
namespace RepoAtlas

open SourceWalk
open Yaml (Value)

/-! ### What a tree gives -/

/-- What a front end takes over from a file, which is nothing if it fails on the file. -/
def FrontEnd.taken (content path : String) (front : FrontEnd) : Annotations :=
  match front.facts content path, front.annotations content path with
  | .ok _, .ok given => given
  | _, _ => {}

def fileAnnotations (f : Path × String) : Annotations :=
  .join ((FrontEnd.forPath (pathText f.1)).map (FrontEnd.taken f.2 (pathText f.1)))

/-- What is taken over from the files of a tree, in the order of the walk. -/
def treeAnnotations (t : FileTree) (root : Path) : Annotations :=
  .join ((readableFiles t root).map fileAnnotations)

theorem FrontEnd.takesOver_taken (content path : String) (front : FrontEnd) :
    ((front.facts content path).toOption.getD {}).TakesOver (front.taken content path) := by
  rw [FrontEnd.taken]
  cases hfacts : front.facts content path with
  | error fault => exact FileFacts.TakesOver.empty
  | ok f =>
    obtain ⟨given, hgiven, htakes⟩ := FrontEnd.takesOver_of_facts hfacts
    rw [hgiven]
    exact htakes

theorem takesOver_joined {α : Type} {facts : α → FileFacts} {given : α → Annotations}
    (h : ∀ x, (facts x).TakesOver (given x)) (xs : List α) :
    (FileFacts.join (xs.map facts)).TakesOver (.join (xs.map given)) := by
  refine .join (List.forall₂_map_left_iff.2 (List.forall₂_map_right_iff.2 ?_))
  exact List.forall₂_same.2 fun x _ => h x

/-- The facts of a tree take over what its files give. -/
theorem treeFacts_takesOver (t : FileTree) (root : Path) :
    (treeFacts t root).TakesOver (treeAnnotations t root) := by
  rw [treeFacts_eq]
  refine takesOver_joined (fun f => ?_) _
  exact takesOver_joined (FrontEnd.takesOver_taken f.2 (pathText f.1)) _

/-! ### Payloads -/

theorem IsTaken.isSpelt_iff {v : Value} {d : Doc} (h : IsTaken v d) :
    d.isSpelt = true ↔ v.fitsJson = true := by
  obtain ⟨hdoubles, rfl⟩ := h
  refine ⟨fun hspelt => ?_, v.isSpelt_toDoc hdoubles⟩
  have hforeign := Doc.holdsForeign_of_isSpelt hspelt
  rwa [v.holdsForeign_toDoc, Bool.not_eq_false'] at hforeign

theorem IsTaken.holdsForeign {v : Value} {d : Doc} (h : IsTaken v d) (hfits : v.fitsJson = false) :
    d.holdsForeign = true := by
  obtain ⟨-, rfl⟩ := h
  rw [v.holdsForeign_toDoc, hfits]
  rfl

theorem Annotations.forall_values_iff {a : Annotations} {p : Value → Prop} :
    (∀ v ∈ a.values, p v) ↔ (∀ v ∈ a.images, p v) ∧ ∀ r ∈ a.requests, p r.1 ∧ p r.2 := by
  rw [Annotations.values, List.forall_mem_append, List.forall_mem_flatMap]
  simp only [List.forall_mem_cons, List.not_mem_nil, false_implies, implies_true, and_true]

section Payloads

variable {repo : String} {f : FileFacts} {a : Annotations}

/-- The topology that is stored: services without an owner belong to the repository. -/
def FileFacts.topology (repo : String) (f : FileFacts) : TopologyFacts :=
  ⟨f.services.map (Service.ownedBy repo), f.outboundCalls⟩

theorem image_ownedBy (repo : String) (s : Service) : (s.ownedBy repo).image = s.image := by
  rw [Service.ownedBy]
  split <;> rfl

theorem FileFacts.TakesOver.isSpelt_iff (h : f.TakesOver a) :
    (f.topology repo).toDoc.isSpelt = true ↔ ∀ v ∈ a.values, v.fitsJson = true := by
  rw [TopologyFacts.isSpelt_toDoc_iff, topology, List.forall_mem_map,
    Annotations.forall_values_iff]
  simp only [image_ownedBy]
  refine and_congr ?_ ?_
  · exact (forall_iff_of_forall₂ h.images fun v s hv => hv.isSpelt_iff.symm).symm
  · exact (forall_iff_of_forall₂ h.requests fun r c hr =>
      and_congr hr.1.isSpelt_iff.symm hr.2.isSpelt_iff.symm).symm

/-- A value without a JSON form leaves the whole payload without a text. -/
theorem FileFacts.TakesOver.holdsForeign (h : f.TakesOver a) {v : Value} (hv : v ∈ a.values)
    (hfits : v.fitsJson = false) : (f.topology repo).toDoc.holdsForeign = true := by
  refine TopologyFacts.holdsForeign_toDoc ?_
  rw [Annotations.values, List.mem_append, List.mem_flatMap] at hv
  rcases hv with hv | ⟨r, hr, hv⟩
  · obtain ⟨s, hs, htaken⟩ := exists_mem_of_forall₂ h.images hv
    refine Or.inl ⟨s.ownedBy repo, List.mem_map_of_mem hs, ?_⟩
    rw [image_ownedBy]
    exact htaken.holdsForeign hfits
  · obtain ⟨c, hc, hcaller, hmethod⟩ := exists_mem_of_forall₂ h.requests hr
    refine Or.inr ⟨c, hc, ?_⟩
    rcases List.mem_pair.1 hv with rfl | rfl
    · exact Or.inl (hcaller.holdsForeign hfits)
    · exact Or.inr (hmethod.holdsForeign hfits)

theorem mem_domainFacts {p : String × Doc} (hp : p ∈ domainFacts repo f) :
    p = (typeDomain, (Types.factsOf f.types f.calls).toDoc) ∨
      p = (topologyDomain, (f.topology repo).toDoc) ∨
      p = (resourceDomain, .object [("resources", .list (f.resources.map Resource.toDoc))]) := by
  rw [domainFacts] at hp
  split at hp
  · rw [List.append_nil] at hp
    exact (List.mem_pair.1 hp).imp_right Or.inl
  · simpa [FileFacts.topology] using hp

theorem topology_mem_domainFacts : (topologyDomain, (f.topology repo).toDoc) ∈ domainFacts repo f :=
  List.mem_append_left _ (List.mem_pair.2 (Or.inr rfl))

theorem nodup_domainFacts (repo : String) (f : FileFacts) :
    ((domainFacts repo f).map (·.1)).Nodup := by
  rw [domainFacts]
  split
  · exact (show [typeDomain, topologyDomain].Nodup by decide)
  · exact (show [typeDomain, topologyDomain, resourceDomain].Nodup by decide)

theorem FileFacts.TakesOver.isSpelt_other (h : f.TakesOver a) {p : String × Doc}
    (hp : p ∈ domainFacts repo f) (hother : p.1 ≠ topologyDomain) : p.2.isSpelt = true := by
  rcases mem_domainFacts hp with rfl | rfl | rfl
  · exact TypeFacts.isSpelt_toDoc h.variants
  · exact absurd rfl hother
  · simp [Resource.isSpelt_toDoc]

theorem FileFacts.TakesOver.isSpelt_all_iff (h : f.TakesOver a) :
    (∀ p ∈ domainFacts repo f, p.2.isSpelt = true) ↔ ∀ v ∈ a.values, v.fitsJson = true := by
  have hstored : (f.topology repo).toDoc.isSpelt = true ↔ ∀ v ∈ a.values, v.fitsJson = true :=
    h.isSpelt_iff
  rw [← hstored]
  refine ⟨fun hall => hall _ topology_mem_domainFacts, fun htopology p hp => ?_⟩
  by_cases hname : p.1 = topologyDomain
  · rcases mem_domainFacts hp with rfl | rfl | rfl
    · exact absurd hname (show typeDomain ≠ topologyDomain by decide)
    · exact htopology
    · exact absurd hname (show resourceDomain ≠ topologyDomain by decide)
  · exact h.isSpelt_other hp hname

theorem FileFacts.TakesOver.encode?_eq_none_iff (h : f.TakesOver a) :
    (∃ p ∈ domainFacts repo f, Json.encode? p.2 = none) ↔ ∃ v ∈ a.values, v.fitsJson = false := by
  constructor
  · rintro ⟨p, hp, hnone⟩
    by_contra hfits
    have hspelt := h.isSpelt_all_iff.2 (fun v hv => Bool.eq_true_of_not_eq_false fun hbad =>
      hfits ⟨v, hv, hbad⟩) p hp
    rw [Doc.encode?_eq_none_iff, Doc.holdsForeign_of_isSpelt hspelt] at hnone
    cases hnone
  · rintro ⟨v, hv, hfits⟩
    exact ⟨_, topology_mem_domainFacts, Doc.encode?_eq_none_iff.2 (h.holdsForeign hv hfits)⟩

/-- A payload has a text, or it cannot be spelt at all. -/
theorem FileFacts.TakesOver.isSpelt_or (h : f.TakesOver a) {p : String × Doc}
    (hp : p ∈ domainFacts repo f) : p.2.isSpelt = true ∨ Json.encode? p.2 = none := by
  by_cases hname : p.1 = topologyDomain
  · rcases mem_domainFacts hp with rfl | rfl | rfl
    · exact absurd hname (show typeDomain ≠ topologyDomain by decide)
    · by_cases hfits : ∀ v ∈ a.values, v.fitsJson = true
      · exact Or.inl (h.isSpelt_iff.2 hfits)
      · push Not at hfits
        obtain ⟨v, hv, hbad⟩ := hfits
        exact Or.inr (Doc.encode?_eq_none_iff.2 (h.holdsForeign hv (Bool.eq_false_iff.2 hbad)))
    · exact absurd hname (show resourceDomain ≠ topologyDomain by decide)
  · exact Or.inl (h.isSpelt_other hp hname)

end Payloads

/-! ### Captures -/

section Captures

open Store (Reached Plain look keyOf isRepoName)

variable {label : CaptureLabel} {t : FileTree} {root : Path} {s : Snapshot} {a : Annotations}

/-- A capture by the values that it took over. It has each of them as its document, and all else in
it has a text. -/
structure Snapshot.Carries (s : Snapshot) (a : Annotations) : Prop where
  topology : ∃ facts : TopologyFacts, s.payload? topologyDomain = some facts.toDoc ∧
    facts.services.map (·.image) = a.images.map Value.toDoc ∧
    facts.outboundCalls.map (fun c => (c.caller, c.method)) =
      a.requests.map (fun r => (r.1.toDoc, r.2.toDoc))
  others : ∀ p ∈ s.facts, p.1 ≠ topologyDomain → p.2.isSpelt = true
  spelt : (∀ p ∈ s.facts, p.2.isSpelt = true) ↔ ∀ v ∈ a.values, v.fitsJson = true
  wordless : (∃ p ∈ s.facts, Json.encode? p.2 = none) ↔ ∃ v ∈ a.values, v.fitsJson = false
  same : ∀ v ∈ a.values, v.isJson = true ↔ v.fitsJson = true ∧ Value.ofDoc v.toDoc = v

theorem capture_eq_ok (h : capture label t root = .ok s) :
    s = label.snapshot (treeFacts t root) := by
  obtain ⟨facts, hfacts, h⟩ := bind_eq_ok_iff.1 h
  rw [FileFacts.copy] at hfacts
  split at hfacts
  · cases hfacts
  · obtain rfl := Except.ok.inj hfacts
    exact (pure_eq_ok_iff.1 h).symm

theorem FileFacts.TakesOver.hasDoubles {f : FileFacts} (h : f.TakesOver a) :
    ∀ v ∈ a.values, v.hasDoubles = true := by
  refine Annotations.forall_values_iff.2 ⟨fun v hv => ?_, fun r hr => ?_⟩
  · obtain ⟨_, -, htaken⟩ := exists_mem_of_forall₂ h.images hv
    exact htaken.1
  · obtain ⟨_, -, hcaller, hmethod⟩ := exists_mem_of_forall₂ h.requests hr
    exact ⟨hcaller.1, hmethod.1⟩

theorem carries_snapshot {f : FileFacts} (h : f.TakesOver a) : (label.snapshot f).Carries a where
  topology := by
    refine ⟨f.topology label.repo, rfl, ?_, ?_⟩
    · rw [FileFacts.topology, List.map_map]
      refine map_eq_of_forall₂ h.images fun v s hv => ?_
      rw [Function.comp_apply, image_ownedBy, hv.2]
    · exact map_eq_of_forall₂ h.requests fun r c hr => by rw [hr.1.2, hr.2.2]
  others := fun _ => h.isSpelt_other
  spelt := h.isSpelt_all_iff
  wordless := h.encode?_eq_none_iff
  same := fun v hv => Value.isJson_iff (h.hasDoubles v hv)

/-- The files of the domains have plain names, and none has the manifest's. -/
theorem domain_names : ∀ domain ∈ [typeDomain, topologyDomain, resourceDomain],
    IsName (Store.domainFile domain) ∧ Fits (Store.domainFile domain) ∧ domain ≠ "manifest" := by
  have hplain (domain : String) (hslash : '/' ∉ (Store.domainFile domain).toList)
      (hnull : '\x00' ∉ (Store.domainFile domain).toList)
      (hdots : Store.domainFile domain ∉ ["", ".", ".."]) : IsName (Store.domainFile domain) := by
    simp only [List.mem_cons, List.not_mem_nil, or_false, not_or] at hdots
    exact ⟨hslash, hnull, hdots.1, hdots.2.1, hdots.2.2⟩
  refine List.forall_mem_cons.2 ⟨⟨hplain _ ?_ ?_ ?_, ?_, ?_⟩, List.forall_mem_cons.2
    ⟨⟨hplain _ ?_ ?_ ?_, ?_, ?_⟩, List.forall_mem_singleton.2 ⟨hplain _ ?_ ?_ ?_, ?_, ?_⟩⟩⟩
  all_goals decide

theorem domain_mem_domainFacts {repo : String} {f : FileFacts} {p : String × Doc}
    (hp : p ∈ domainFacts repo f) : p.1 ∈ [typeDomain, topologyDomain, resourceDomain] := by
  rcases mem_domainFacts hp with rfl | rfl | rfl <;> simp

/-- What a capture is saved with, its payloads apart. -/
structure CaptureLabel.Valid (label : CaptureLabel) : Prop where
  repo : isRepoName label.repo = true
  folder : Fits (Store.folderName label.refType.text label.ref)
  sha : label.sha.isSpelt = true
  time : label.capturedAt.IsMoment

theorem plain_snapshot {f : FileFacts} (h : f.TakesOver a) (hsha : label.sha.isSpelt = true) :
    Plain (label.snapshot f) where
  names := nodup_domainFacts label.repo f
  files := fun p hp => (domain_names _ (domain_mem_domainFacts hp)).1
  payloads := fun _ => h.isSpelt_or
  manifest := by
    rintro ⟨p, hp, hfile⟩
    exact absurd (Store.domainFile_inj (e := "manifest") hfile)
      (domain_names _ (domain_mem_domainFacts hp)).2.2
  sha := hsha

/-- How saving ends where all files have fitting names: a later snapshot is kept, or all payloads
have a text and are found again, or one of them has none. -/
theorem save_cases {store : Store} (hreached : Reached store) (hplain : Plain s)
    (htime : s.capturedAt.IsMoment) (hrepo : isRepoName s.repo = true) (hfits : Fits (keyOf s).folder)
    (hnames : ∀ p ∈ s.facts, Fits (Store.domainFile p.1) ∧ p.1 ≠ "manifest") :
    (∃ newer, look store (keyOf s) = .ok (some newer) ∧
      s.capturedAt.instant < newer.capturedAt.instant ∧
      ((Store.save s).run store).1 = .ok false) ∨
    ((∀ p ∈ s.facts, p.2.isSpelt = true) ∧ ((Store.save s).run store).1 = .ok true ∧
      ∃ loaded, look ((Store.save s).run store).2 (keyOf s) = .ok (some loaded) ∧
        loaded.facts.Perm s.facts) ∨
    (¬ ∀ p ∈ s.facts, p.2.isSpelt = true) ∧ ((Store.save s).run store).1 = .error .notJson := by
  obtain ⟨held, hshelved⟩ := hreached.shelved
  by_cases hnewer : ∃ old, held s.repo (Store.folderOf s) = some old ∧
      s.capturedAt.instant < old.capturedAt.reread.instant
  · obtain ⟨old, hold, hlt⟩ := hnewer
    have htaken : (Store.readBack old).capturedAt = old.capturedAt.reread := by
      rw [Store.readBack]
    have hlook : look store (keyOf s) = .ok (some (Store.readBack old)) := by
      have hheld : held (keyOf s).repo (keyOf s).folder = some old := hold
      have hfound := hshelved.look_fits (k := keyOf s) hrepo hfits
      rwa [hheld, Option.map_some] at hfound
    refine Or.inl ⟨Store.readBack old, hlook, ?_, ?_⟩
    · rwa [htaken]
    · rw [hshelved.run_save_kept hrepo hfits hold hlt]
  · have hnot : ∀ old, held s.repo (Store.folderOf s) = some old →
        ¬ s.capturedAt.instant < old.capturedAt.reread.instant :=
      fun old hold hlt => hnewer ⟨old, hold, hlt⟩
    by_cases hspelt : ∀ p ∈ s.facts, p.2.isSpelt = true
    · have hstorable := hplain.storable htime.readable hrepo fun p hp => by
        obtain ⟨q, hq, rfl⟩ := List.mem_map.1 hp
        exact ⟨(hnames q hq).1, hspelt q hq⟩
      obtain ⟨next, hrun, -⟩ := hshelved.save_stored hstorable hfits hnot
      have hok : ((Store.save s).run store).1 = .ok true := by rw [hrun]
      have hfound := (hshelved.save_saved hplain htime.readable).look_self hok
      exact Or.inr (Or.inl ⟨hspelt, hok, _, hfound,
        Store.facts_readBack_perm hplain.names fun p hp => (hnames p hp).2⟩)
    · exact Or.inr (Or.inr ⟨hspelt, hshelved.save_notJson hplain htime.readable hrepo hfits
        (fun p hp => (hnames p hp).1) hspelt hnot⟩)

/-- How saving facts ends: a later snapshot is kept, or all payloads have a text and are found
again, or a value that was taken over leaves one of them without a text. -/
theorem save_snapshot_cases {f : FileFacts} (h : f.TakesOver a) (hlabel : label.Valid)
    {store : Store} (hreached : Reached store) :
    (∃ newer, look store (keyOf (label.snapshot f)) = .ok (some newer) ∧
      label.capturedAt.instant < newer.capturedAt.instant ∧
      ((Store.save (label.snapshot f)).run store).1 = .ok false) ∨
    ((∀ v ∈ a.values, v.fitsJson = true) ∧
      ((Store.save (label.snapshot f)).run store).1 = .ok true ∧
      ∃ loaded, look ((Store.save (label.snapshot f)).run store).2 (keyOf (label.snapshot f)) =
          .ok (some loaded) ∧
        loaded.facts.Perm (label.snapshot f).facts) ∨
    (∃ v ∈ a.values, v.fitsJson = false) ∧
      ((Store.save (label.snapshot f)).run store).1 = .error .notJson := by
  have hends := save_cases hreached (plain_snapshot h hlabel.sha) hlabel.time hlabel.repo
    hlabel.folder fun p hp => (domain_names p.1 (domain_mem_domainFacts hp)).2
  have hspelt : (∀ p ∈ (label.snapshot f).facts, p.2.isSpelt = true) ↔
      ∀ v ∈ a.values, v.fitsJson = true := h.isSpelt_all_iff
  rw [hspelt] at hends
  refine hends.imp_right (Or.imp_right fun ⟨hnot, hfails⟩ => ⟨?_, hfails⟩)
  push Not at hnot
  exact hnot.imp fun v hv => ⟨hv.1, Bool.eq_false_iff.2 hv.2⟩

theorem look_empty (hlabel : label.Valid) {f : FileFacts} :
    look {} (keyOf (label.snapshot f)) = .ok none :=
  Store.shelved_empty.look_fits (k := keyOf (label.snapshot f)) hlabel.repo hlabel.folder

theorem valid_shopLabel : shopLabel.Valid where
  repo := by decide
  folder := by decide
  sha := rfl
  time := by
    refine ⟨?_, ?_, ?_, ?_, ?_, ?_, ?_, ?_, ?_, ?_, ?_⟩
    all_goals simp [shopLabel, Timestamp.daysInMonth]

/-- An inventory of one service, with its image as it is written. -/
def oneService (image : String) : FileTree :=
  ⟨⟨[(["ecograph.services.yaml"],
    .file (.text ("services:\n  - name: a\n    image: " ++ image ++ "\n")))]⟩⟩

theorem sourceFiles_oneService (image : String) :
    sourceFiles (oneService image) [] = [(["ecograph.services.yaml"],
      .text ("services:\n  - name: a\n    image: " ++ image ++ "\n"))] := by
  have hsource : ((oneService image).filesBelow []).filter (fun f => isSource f.1) =
      (oneService image).filesBelow [] :=
    List.filter_eq_self.2 (List.forall_mem_singleton.2 (show isSource [_] = true by decide))
  rw [sourceFiles, hsource]
  exact List.mergeSort_singleton _

end Captures

end RepoAtlas
