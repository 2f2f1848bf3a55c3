import RepoAtlas.Proofs.Topology.Ownership

/-!
Once the name of a newcomer is known, services that a cluster runs under that name are its own, with
the requests that they answer. All others stay with their owners, under the keys that they had.
-/
namespace RepoAtlas.Topology

/-! ### Who owns a service -/

/-- The names by which the owner of a service in a cluster is found. -/
def clusterNames (s : Service) : List String :=
  s.name :: ((imageOf s).toOption.join.map imageName).toList

/-- The service runs in a cluster, and one of its names is that of the repository, in full or
without the suffix of its deployment. -/
def IsNamedAfter (repo : String) (s : Service) : Prop :=
  s.layer = .backend ∧ ∃ name ∈ clusterNames s, name = repo ∨ withoutDeploymentSuffix name = repo

/-- The owner of a declared service, unless the rules or its image cannot be read. -/
def owner? (rules : OwnershipRules) (known : List String) (d : String × Service) : Option String :=
  (ownerOf rules known d.1 d.2).toOption

/-- The services of a repository that are the newcomer's once it is known. -/
def ceded (rules : OwnershipRules) (known known' : List String) (newcomer repo : String)
    (declared : List (String × Service)) : List (String × Service) :=
  declared.filter (fun d =>
    owner? rules known d = some repo ∧ owner? rules known' d = some newcomer)

section Owner

variable {rules : OwnershipRules} {known known' : List String} {newcomer declaring : String}
variable {s : Service}

/-- Either the owner is settled whoever is known, or it is found by name. -/
theorem clusterOwner_cases (rules : OwnershipRules) (declaring : String) (s : Service) :
    (∃ owner, ∀ known, clusterOwner rules known declaring s = owner) ∨
      ∀ known, clusterOwner rules known declaring s =
        .ok ((knownName? known (clusterNames s)).getD declaring) := by
  cases hexplicit : OrderedMap.lookup s.name rules.explicit with
  | some owner =>
    left
    exact ⟨owner.toText, fun known => by rw [clusterOwner, hexplicit]⟩
  | none =>
    by_cases hnamed : (!s.owner.isEmpty && s.owner ≠ declaring) = true
    · left
      refine ⟨.ok s.owner, fun known => ?_⟩
      simp only [clusterOwner, hexplicit, if_pos hnamed]
      rfl
    · cases himage : imageOf s with
      | error e =>
        left
        refine ⟨.error e, fun known => ?_⟩
        simp only [clusterOwner, hexplicit, if_neg hnamed, himage]
        rfl
      | ok image =>
        cases hruled : image.bind (ruledByImage? rules) with
        | some owner =>
          left
          refine ⟨owner.toText, fun known => ?_⟩
          simp only [clusterOwner, hexplicit, if_neg hnamed, himage, bind, Except.bind, hruled]
        | none =>
          right
          intro known
          simp only [clusterOwner, hexplicit, if_neg hnamed, himage, bind, Except.bind, hruled,
            clusterNames, Except.toOption]
          rfl

/-- The first known text is the newcomer or was found before. -/
theorem find?_joined (hjoined : ∀ name, name ∈ known' ↔ name = newcomer ∨ name ∈ known)
    (texts : List String) :
    newcomer ∈ texts ∧ texts.find? known'.contains = some newcomer ∨
      texts.find? known'.contains = texts.find? known.contains := by
  induction texts with
  | nil => exact Or.inr rfl
  | cons text rest ih =>
    by_cases hnew : text = newcomer
    · subst hnew
      left
      refine ⟨List.mem_cons_self, List.find?_cons_of_pos ?_⟩
      exact List.contains_iff_mem.2 ((hjoined text).2 (Or.inl rfl))
    · have hsame : known'.contains text = known.contains text := by
        rw [Bool.eq_iff_iff, List.contains_iff_mem, List.contains_iff_mem, hjoined,
          or_iff_right hnew]
      rw [List.find?_cons, List.find?_cons, hsame]
      cases known.contains text with
      | true => exact Or.inr rfl
      | false => exact ih.imp_left (fun h => ⟨List.mem_cons_of_mem text h.1, h.2⟩)

/-- An owner stays, unless the service is named after the newcomer and goes to it. -/
theorem ownerOf_joined (hjoined : ∀ name, name ∈ known' ↔ name = newcomer ∨ name ∈ known)
    {owner' : String} (howner : ownerOf rules known' declaring s = .ok owner') :
    ∃ owner, ownerOf rules known declaring s = .ok owner ∧
      (owner' = owner ∨ owner' = newcomer ∧ IsNamedAfter newcomer s) := by
  rw [ownerOf] at howner ⊢
  cases hlayer : s.layer with
  | edge =>
    rw [hlayer] at howner
    exact ⟨owner', howner, Or.inl rfl⟩
  | internal =>
    rw [hlayer] at howner
    exact ⟨owner', howner, Or.inl rfl⟩
  | backend =>
    rw [hlayer] at howner
    dsimp only at howner ⊢
    rcases clusterOwner_cases rules declaring s with ⟨owner, hsettled⟩ | hfound
    · rw [hsettled] at howner ⊢
      exact ⟨owner', howner, Or.inl rfl⟩
    · rw [hfound] at howner
      simp only [hfound]
      refine ⟨_, rfl, ?_⟩
      obtain rfl := Except.ok.inj howner
      rw [knownName?, knownName?]
      rcases find?_joined hjoined
          ((clusterNames s).flatMap (fun n => [withoutDeploymentSuffix n, n])) with
        ⟨hmem, hnew⟩ | hsame
      · right
        obtain ⟨name, hname, hforms⟩ := List.mem_flatMap.1 hmem
        refine ⟨by rw [hnew]; rfl, hlayer, name, hname, ?_⟩
        rw [List.mem_cons, List.mem_singleton] at hforms
        exact hforms.symm.imp Eq.symm Eq.symm
      · exact Or.inl (by rw [hsame])

theorem owner?_eq_some_iff {d : String × Service} {owner : String} :
    owner? rules known d = some owner ↔ ownerOf rules known d.1 d.2 = .ok owner := by
  rw [owner?]
  cases ownerOf rules known d.1 d.2 with
  | error e => simp [Except.toOption]
  | ok o => simp [Except.toOption]

/-- What goes to the newcomer is named after it, unless it was the newcomer's before. -/
theorem isNamedAfter_of_mem_ceded
    (hjoined : ∀ name, name ∈ known' ↔ name = newcomer ∨ name ∈ known) {repo : String}
    (hrepo : repo ≠ newcomer) {declared : List (String × Service)} {d : String × Service}
    (hd : d ∈ ceded rules known known' newcomer repo declared) : IsNamedAfter newcomer d.2 := by
  obtain ⟨-, hboth⟩ := List.mem_filter.1 hd
  obtain ⟨hbefore, hafter⟩ := decide_eq_true_iff.1 hboth
  obtain ⟨owner, howner, hkept⟩ := ownerOf_joined hjoined (owner?_eq_some_iff.1 hafter)
  rw [owner?_eq_some_iff.1 hbefore] at howner
  obtain rfl := Except.ok.inj howner
  rcases hkept with hsame | ⟨-, hnamed⟩
  · exact absurd hsame.symm hrepo
  · exact hnamed

end Owner

/-! ### What goes to the newcomer -/

/-- The repository owns the service that answers the target. -/
def IsAnsweredBy (providers : OrderedMap String Provider) (target repo : String) : Prop :=
  ∃ p, matchProvider providers target = .ok (some p) ∧ p.repo = repo

section Cedes

variable {loses : String → Prop} {newcomer : String}

/-- The same service, which stays with its owner or goes from a loser to the newcomer. -/
def CedesService (loses : String → Prop) (newcomer : String) (s s' : Service) : Prop :=
  s' = s ∨ loses s.owner ∧ s' = { s with owner := newcomer }

/-- The same provider, which stays with its repository or goes from a loser to the newcomer. -/
def CedesProvider (loses : String → Prop) (newcomer : String) (p p' : Provider) : Prop :=
  p' = p ∨ loses p.repo ∧ p' = { p with repo := newcomer }

theorem CedesService.provider {s s' : Service} (h : CedesService loses newcomer s s') (key : String) :
    CedesProvider loses newcomer ⟨key, s.owner, s.name, s.layer⟩
      ⟨key, s'.owner, s'.name, s'.layer⟩ := by
  rcases h with rfl | ⟨hloses, rfl⟩
  · exact Or.inl rfl
  · exact Or.inr ⟨hloses, rfl⟩

theorem CedesService.keysOf_eq {s s' : Service} (h : CedesService loses newcomer s s') :
    keysOf s' = keysOf s := by
  rcases h with rfl | ⟨-, rfl⟩ <;> rfl

/-- The keys of a service are claimed as before. -/
theorem claims_related (keys : List String) {s s' : Service} (hs : CedesService loses newcomer s s')
    {m m' : OrderedMap String Provider} (hm : m.Related (CedesProvider loses newcomer) m') :
    (keys.foldl (fun m k => m.insertNew k ⟨k, s.owner, s.name, s.layer⟩) m).Related
      (CedesProvider loses newcomer)
      (keys.foldl (fun m k => m.insertNew k ⟨k, s'.owner, s'.name, s'.layer⟩) m') := by
  induction keys generalizing m m' with
  | nil => exact hm
  | cons key rest ih => exact ih (hm.insertNew key (hs.provider key))

/-- Each key belongs to the service that claimed it before. -/
theorem providerIndex_related {owned owned' : List Service}
    (h : List.Forall₂ (CedesService loses newcomer) owned owned') :
    (providerIndex owned).Related (CedesProvider loses newcomer) (providerIndex owned') := by
  suffices hall : ∀ {m m' : OrderedMap String Provider},
      m.Related (CedesProvider loses newcomer) m' →
      (owned.foldl (fun m s => (keysOf s).foldl
        (fun m k => m.insertNew k ⟨k, s.owner, s.name, s.layer⟩) m) m).Related
        (CedesProvider loses newcomer) (owned'.foldl (fun m s => (keysOf s).foldl
          (fun m k => m.insertNew k ⟨k, s.owner, s.name, s.layer⟩) m) m') from hall .nil
  induction h with
  | nil => exact id
  | @cons s s' _ _ hs _ ih =>
    intro m m' hm
    rw [List.foldl_cons, List.foldl_cons, hs.keysOf_eq]
    exact ih (claims_related (keysOf s) hs hm)

/-- A request is answered under the same key as before. -/
theorem matchProvider_related {providers providers' : OrderedMap String Provider}
    (h : providers.Related (CedesProvider loses newcomer) providers') {target : String}
    {answer' : Option Provider} (hanswer : matchProvider providers' target = .ok answer') :
    ∃ answer, matchProvider providers target = .ok answer ∧
      Option.Rel (CedesProvider loses newcomer) answer answer' := by
  rw [matchProvider, bind_eq_ok_iff] at hanswer
  obtain ⟨t, ht, heq⟩ := hanswer
  obtain rfl := pure_eq_ok_iff.1 heq
  refine ⟨(matchingKey? providers.keys t).bind providers.get?, ?_, ?_⟩
  · rw [matchProvider, ht]
    rfl
  · rw [h.keys_eq]
    cases matchingKey? providers'.keys t with
    | none => exact .none
    | some key => exact h.get? key

/-- Whoever but the newcomer answers a request has answered it before. -/
theorem IsAnsweredBy.before {providers providers' : OrderedMap String Provider}
    (h : providers.Related (CedesProvider loses newcomer) providers') {target repo : String}
    (hrepo : repo ≠ newcomer) (hanswer : IsAnsweredBy providers' target repo) :
    IsAnsweredBy providers target repo := by
  obtain ⟨p', hp', rfl⟩ := hanswer
  obtain ⟨answer, hanswer, hrel⟩ := matchProvider_related h hp'
  cases hrel with
  | some hcedes =>
    rcases hcedes with rfl | ⟨-, rfl⟩
    · exact ⟨_, hanswer, rfl⟩
    · exact absurd rfl hrepo

/-- Whoever loses nothing answers what it answered before. -/
theorem IsAnsweredBy.after {providers providers' : OrderedMap String Provider}
    (h : providers.Related (CedesProvider loses newcomer) providers') {target repo : String}
    (hrepo : ¬ loses repo) {answer' : Option Provider}
    (hfound : matchProvider providers' target = .ok answer')
    (hanswer : IsAnsweredBy providers target repo) : IsAnsweredBy providers' target repo := by
  obtain ⟨p, hp, rfl⟩ := hanswer
  obtain ⟨answer, hanswer, hrel⟩ := matchProvider_related h hfound
  rw [hp] at hanswer
  obtain rfl := Except.ok.inj hanswer
  cases hrel with
  | some hcedes =>
    rcases hcedes with rfl | ⟨hloses, -⟩
    · exact ⟨_, hfound, rfl⟩
    · exact absurd hloses hrepo

end Cedes

theorem own_joined {rules : OwnershipRules} {known known' : List String} {newcomer : String}
    (hjoined : ∀ name, name ∈ known' ↔ name = newcomer ∨ name ∈ known)
    {declared : List (String × Service)} {d : String × Service} (hd : d ∈ declared) {s' : Service}
    (hs' : own rules known' d = .ok s') :
    ∃ s, own rules known d = .ok s ∧
      CedesService (fun repo => ceded rules known known' newcomer repo declared ≠ []) newcomer s
        s' := by
  obtain ⟨owner', howner', rfl⟩ := own_eq_ok_iff.1 hs'
  obtain ⟨owner, howner, hkept⟩ := ownerOf_joined hjoined howner'
  refine ⟨{ d.2 with owner }, own_eq_ok_iff.2 ⟨owner, howner, rfl⟩, ?_⟩
  rcases hkept with rfl | ⟨rfl, -⟩
  · exact Or.inl rfl
  · refine Or.inr ⟨List.ne_nil_of_mem (List.mem_filter.2 ⟨hd, decide_eq_true ⟨?_, ?_⟩⟩), rfl⟩
    · exact owner?_eq_some_iff.2 howner
    · exact owner?_eq_some_iff.2 howner'

end RepoAtlas.Topology
