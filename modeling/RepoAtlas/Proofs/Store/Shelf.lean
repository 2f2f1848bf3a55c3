import RepoAtlas.Proofs.Files.Folders
import RepoAtlas.Proofs.Json.RoundTrip
import RepoAtlas.Proofs.Outcome
import RepoAtlas.Proofs.Store.Names
import RepoAtlas.Store.Reading

/-!
What a store holds: in each folder of a repository nothing or the files of one snapshot, and the
folder is named for the snapshot in it. Everything that is read from a store is told by this.
-/
namespace RepoAtlas

namespace Store

/-! ### Files of JSON text -/

/-- The text of a value that can be spelt. -/
def textOf (d : Doc) : String := (Json.encode? d).getD ""

theorem encode?_textOf {d : Doc} (h : d.isSpelt = true) : Json.encode? d = some (textOf d) := by
  obtain ⟨text, htext, -, -⟩ := Json.decode?_encode? h
  rw [textOf, htext]
  rfl

theorem unifyBreaks_eq {s : List Char} (h : '\r' ∉ s) : unifyBreaks s = s := by
  induction s with
  | nil => rfl
  | cons c rest ih =>
    rw [List.mem_cons, not_or] at h
    rw [unifyBreaks, ih h.2]
    · intro _ hc _
      exact h.1 hc.symm
    · intro hc
      exact h.1 hc.symm

/-- A file of JSON text holds the value. -/
theorem decode?_textOf {d : Doc} (h : d.isSpelt = true) :
    (FileContent.text (textOf d)).read = .ok (textOf d) ∧ Json.decode? (textOf d) = some d := by
  obtain ⟨text, htext, hdecode, hbreak⟩ := Json.decode?_encode? h
  have heq : textOf d = text := by
    rw [textOf, htext]
    rfl
  rw [heq, FileContent.read, unifyBreaks_eq hbreak, String.ofList_toList]
  exact ⟨rfl, hdecode⟩

/-! ### Snapshots in folders -/

/-- A snapshot that can be stored: its repository's name is valid, its payloads can be spelt and
the files of its domains have plain names. -/
structure Storable (s : Snapshot) : Prop where
  repo : isRepoName s.repo = true
  names : (s.facts.map (·.1)).Nodup
  files : ∀ f ∈ s.facts, IsName (domainFile f.1) ∧ Fits (domainFile f.1)
  payloads : ∀ f ∈ s.facts, f.2.isSpelt = true
  sha : s.sha.isSpelt = true
  time : s.capturedAt.Readable

/-- A capture of a shop in the first hour of a year. -/
def capture (ref : String) (minute : Fin 60) : Snapshot :=
  { repo := "shop", ref, capturedAt := { year := 2024, month := 1, day := 1, minute } }

theorem isMoment_capture (ref : String) (minute : Fin 60) :
    (capture ref minute).capturedAt.IsMoment := by
  refine ⟨?_, ?_, ?_, ?_, ?_, ?_, ?_, minute.isLt, ?_, ?_, ?_⟩
  all_goals simp [capture, Timestamp.daysInMonth]

theorem storable_capture (ref : String) (minute : Fin 60) : Storable (capture ref minute) where
  repo := show isRepoName "shop" = true by decide
  names := List.nodup_nil
  files := fun _ hf => by cases hf
  payloads := fun _ hf => by cases hf
  sha := rfl
  time := (isMoment_capture ref minute).readable

def folderOf (s : Snapshot) : String := folderName s.refType.text s.ref

/-- A file with the text of a value. -/
def fileWith (d : Doc) : TreeItem := .file (.text (textOf d))

/-- Payloads by the names of their files. -/
def filesOf (facts : List (String × Doc)) : List (String × Doc) :=
  facts.map (fun f => (domainFile f.1, f.2))

/-- The files of a snapshot. -/
def fileOf (s : Snapshot) (name : String) : Option TreeItem :=
  if name = manifestName then some (fileWith (manifestOf s))
  else (OrderedMap.lookup name (filesOf s.facts)).map fileWith

/-- What is read for a domain: its payload, unless its file is the manifest's. -/
def payloadBack (s : Snapshot) (domain : String) : Doc :=
  if domainFile domain = manifestName then manifestOf s
  else (OrderedMap.lookup domain s.facts).getD .null

/-- A snapshot as it is read: its facts are in the order of their names. -/
def readBack (s : Snapshot) : Snapshot :=
  { s with capturedAt := s.capturedAt.reread,
           facts := s.domains.map (fun domain => (domain, payloadBack s domain)) }

def entryOf (s : Snapshot) : Entry :=
  { ref := .text s.ref, refType := .text s.refType.text, sha := s.sha,
    capturedAt := s.capturedAt.reread }

/-! ### Trees of snapshots -/

/-- What the folders of the repositories hold, by the names of both. -/
abbrev Contents := String → String → Option Snapshot

def Contents.set (held : Contents) (repo folder : String) (found : Option Snapshot) : Contents :=
  fun r f => if r = repo ∧ f = folder then found else held r f

/-- Nothing stands in a folder's place, or a folder without a manifest, which a change that failed
has left. -/
def Vacant (t : FileTree) (repo folder : String) : Prop :=
  (t.find? [repo, folder] = none ∧ ∀ name, t.find? [repo, folder, name] = none) ∨
  (t.find? [repo, folder] = some .folder ∧ t.find? [repo, folder, manifestName] = none)

/-- A folder without a manifest. -/
def Leftover (t : FileTree) (repo folder : String) : Prop :=
  t.find? [repo, folder] = some .folder ∧ t.find? [repo, folder, manifestName] = none

/-- A folder with the files of a snapshot and no others. -/
def Occupied (t : FileTree) (repo folder : String) (s : Snapshot) : Prop :=
  t.find? [repo, folder] = some .folder ∧ ∀ name, t.find? [repo, folder, name] = fileOf s name

/-- The snapshot belongs into the folder. -/
structure Shelves (repo folder : String) (s : Snapshot) : Prop where
  storable : Storable s
  repo : s.repo = repo
  named : folderOf s = folder
  fits : Fits folder

/-- The tree holds the snapshots, each in its folder, and no others. -/
structure Shelved (t : FileTree) (held : Contents) : Prop where
  distinct : t.Distinct
  top : ∀ repo, t.find? [repo] = none ∨ t.find? [repo] = some .folder
  bare : ∀ repo, t.find? [repo] = none → ∀ folder, t.find? [repo, folder] = none
  vacant : ∀ repo folder, held repo folder = none → Vacant t repo folder
  occupied : ∀ repo folder s, held repo folder = some s → Occupied t repo folder s
  shelves : ∀ repo folder s, held repo folder = some s → Shelves repo folder s

theorem shelved_empty : Shelved {} (fun _ _ => none) where
  distinct := FileTree.distinct_empty
  top := fun _ => Or.inl rfl
  bare := fun _ _ _ => rfl
  vacant := fun _ _ _ => Or.inl ⟨rfl, fun _ => rfl⟩
  occupied := fun _ _ _ h => by cases h
  shelves := fun _ _ _ h => by cases h

/-- The files of the snapshot lie in its folder, whatever lies in the other ones. -/
structure Lies (t : FileTree) (s : Snapshot) : Prop where
  storable : Storable s
  fits : Fits (folderOf s)
  top : t.find? [s.repo] = some .folder
  occupied : Occupied t s.repo (folderOf s) s

theorem Shelved.top_of_folder {t : FileTree} {held : Contents} (h : Shelved t held)
    {repo folder : String} (hfolder : t.find? [repo, folder] = some .folder) :
    t.find? [repo] = some .folder := by
  rcases h.top repo with hnone | hsome
  · rw [h.bare repo hnone folder] at hfolder
    cases hfolder
  · exact hsome

/-- In a repository that is not there nothing is held. -/
theorem Shelved.held_of_bare {t : FileTree} {held : Contents} (h : Shelved t held) {repo : String}
    (htop : t.find? [repo] = none) (folder : String) : held repo folder = none := by
  rw [Option.eq_none_iff_forall_ne_some]
  intro s hheld
  have hfolder := (h.occupied _ _ _ hheld).1
  rw [h.bare repo htop] at hfolder
  cases hfolder

theorem Shelved.lies {t : FileTree} {held : Contents} (h : Shelved t held) {repo folder : String}
    {s : Snapshot} (hheld : held repo folder = some s) : Lies t s := by
  obtain ⟨hs, rfl, rfl, hfits⟩ := h.shelves _ _ _ hheld
  have hoccupied := h.occupied _ _ _ hheld
  exact ⟨hs, hfits, h.top_of_folder hoccupied.1, hoccupied⟩

theorem isSpelt_manifestOf {s : Snapshot} (h : s.sha.isSpelt = true) :
    (manifestOf s).isSpelt = true := by
  rw [manifestOf, Doc.isSpelt, Doc.isSpeltBy_object_iff]
  refine ⟨by simp, ?_⟩
  intro m hm
  simp only [List.mem_cons, List.not_mem_nil, or_false] at hm
  rcases hm with rfl | rfl | rfl | rfl | rfl | rfl
  · rfl
  · rfl
  · rfl
  · exact h
  · rfl
  · rw [Doc.ofTexts, Doc.isSpeltBy_list_iff]
    intro d hd
    obtain ⟨text, -, rfl⟩ := List.mem_map.1 hd
    rfl

/-! ### Where paths lead -/

section Reading

variable {t : FileTree} {held : Contents} {repo ref name : String} {refType : RefType}
  {s : Snapshot}

theorem names_plain (hrepo : isRepoName repo = true) (hname : IsName name) :
    ∀ n ∈ [repo, folderName refType.text ref, name], IsName n := by
  intro n hn
  simp only [List.mem_cons, List.not_mem_nil, or_false] at hn
  rcases hn with rfl | rfl | rfl
  · exact isName_of_isRepoName hrepo
  · exact isName_folderName refType ref
  · exact hname

/-- A file of a folder that is there. -/
theorem resolve_inside (hrepo : isRepoName repo = true) (hname : IsName name) (hfit : Fits name)
    (htop : t.find? [repo] = some .folder)
    (hfolder : t.find? [repo, folderName refType.text ref] = some .folder)
    (hfits : Fits (folderName refType.text ref)) :
    t.resolve [] (folderText repo refType.text ref ++ "/" ++ name) =
      .ok [repo, folderName refType.text ref, name] := by
  rw [folderText_joined, FileTree.resolve_joined t (names_plain hrepo hname),
    FileTree.follow_folder (isName_of_isRepoName hrepo) (fits_of_isRepoName hrepo) htop,
    FileTree.follow_folder (isName_folderName refType ref) hfits hfolder,
    FileTree.follow_last hname hfit]
  rfl

/-- No manifest is found where no snapshot is held. -/
theorem Shelved.existsAt_vacant (h : Shelved t held) (hrepo : isRepoName repo = true)
    (hfits : Fits (folderName refType.text ref))
    (hnone : held repo (folderName refType.text ref) = none) :
    t.existsAt [] (folderText repo refType.text ref ++ "/" ++ manifestName) = .ok false := by
  have hmissing (hfolder : t.find? [repo, folderName refType.text ref] = none) :
      t.resolve [] (folderText repo refType.text ref ++ "/" ++ manifestName) =
        .error (.file .missing) := by
    rw [folderText_joined, FileTree.resolve_joined t (names_plain hrepo isName_manifestName)]
    rcases h.top repo with htop | htop
    · rw [FileTree.follow_missing (isName_of_isRepoName hrepo) (fits_of_isRepoName hrepo) htop]
    · rw [FileTree.follow_folder (isName_of_isRepoName hrepo) (fits_of_isRepoName hrepo) htop,
        FileTree.follow_missing (isName_folderName refType ref) hfits hfolder]
  rcases h.vacant repo _ hnone with ⟨hfolder, -⟩ | ⟨hfolder, hmanifest⟩
  · rw [FileTree.existsAt, hmissing hfolder]
  · rw [FileTree.existsAt, resolve_inside hrepo isName_manifestName fits_manifestName
      (h.top_of_folder hfolder) hfolder hfits]
    simp only [hmanifest, Option.isSome_none]

/-- Under a folder's name that is too long nothing can be looked for in a repository that is
there. -/
theorem Shelved.existsAt_long (h : Shelved t held) (hrepo : isRepoName repo = true)
    (hname : IsName name) (hlong : ¬ Fits (folderName refType.text ref)) :
    t.existsAt [] (folderText repo refType.text ref ++ "/" ++ name) =
      if t.find? [repo] = none then .ok false else .error (.file .nameTooLong) := by
  rcases h.top repo with htop | htop
  · have hmissing : t.resolve [] (folderText repo refType.text ref ++ "/" ++ name) =
        .error (.file .missing) := by
      rw [folderText_joined, FileTree.resolve_joined t (names_plain hrepo hname),
        FileTree.follow_missing (isName_of_isRepoName hrepo) (fits_of_isRepoName hrepo) htop]
    rw [FileTree.existsAt, hmissing, htop]
    rfl
  · have hfail : t.resolve [] (folderText repo refType.text ref ++ "/" ++ name) =
        .error (.file .nameTooLong) := by
      rw [folderText_joined, FileTree.resolve_joined t (names_plain hrepo hname),
        FileTree.follow_folder (isName_of_isRepoName hrepo) (fits_of_isRepoName hrepo) htop,
        FileTree.follow_long hlong]
    rw [FileTree.existsAt, hfail, htop]
    rfl

theorem Lies.resolve (h : Lies t s) (hnamed : folderName refType.text ref = folderOf s)
    (hname : IsName name) (hfit : Fits name) :
    t.resolve [] (folderText s.repo refType.text ref ++ "/" ++ name) =
      .ok [s.repo, folderOf s, name] := by
  have hplace := h.occupied.1
  have hfits := h.fits
  rw [← hnamed] at hplace hfits ⊢
  exact resolve_inside h.storable.repo hname hfit h.top hplace hfits

theorem Lies.existsAt (h : Lies t s) (hnamed : folderName refType.text ref = folderOf s)
    (hname : IsName name) (hfit : Fits name) :
    t.existsAt [] (folderText s.repo refType.text ref ++ "/" ++ name) =
      .ok (fileOf s name).isSome := by
  rw [FileTree.existsAt, h.resolve hnamed hname hfit, ← h.occupied.2 name]

/-! ### Loading -/

theorem readAt_of_find? {path : Path} {d : Doc} (hd : d.isSpelt = true)
    (h : t.find? path = some (fileWith d)) : documentAt t path = .ok (some d) := by
  obtain ⟨hread, hdecode⟩ := decode?_textOf hd
  rw [documentAt, FileTree.readAt, h, fileWith]
  simp only [hread, bind, Except.bind, pure, Except.pure, hdecode]

/-- The file of a domain holds what is read for the domain. -/
theorem fileOf_domainFile (hs : Storable s) {domain : String}
    (hdomain : domain ∈ s.facts.map (·.1)) :
    fileOf s (domainFile domain) = some (fileWith (payloadBack s domain)) ∧
      (payloadBack s domain).isSpelt = true := by
  unfold fileOf payloadBack
  split
  next => exact ⟨rfl, isSpelt_manifestOf hs.sha⟩
  next hother =>
    have hrename : ∀ facts : List (String × Doc),
        OrderedMap.lookup (domainFile domain) (filesOf facts) = OrderedMap.lookup domain facts := by
      intro facts
      induction facts with
      | nil => rfl
      | cons f rest ih =>
        rw [filesOf, List.map_cons, OrderedMap.lookup, ← filesOf, OrderedMap.lookup, ih]
        by_cases hf : f.1 = domain
        · rw [if_pos hf, if_pos (congrArg domainFile hf)]
        · rw [if_neg hf, if_neg (fun he => hf (domainFile_inj he))]
    obtain ⟨payload, hpayload⟩ := Option.isSome_iff_exists.1
      (OrderedMap.lookup_isSome_iff.2 hdomain)
    rw [hrename, hpayload]
    exact ⟨rfl, hs.payloads _ (OrderedMap.mem_of_lookup hpayload)⟩

theorem mem_domains {domain : String} : domain ∈ s.domains ↔ domain ∈ s.facts.map (·.1) := by
  rw [Snapshot.domains, sortTexts, List.mem_mergeSort]

theorem Lies.payloads_eq (h : Lies t s) (hnamed : folderName refType.text ref = folderOf s)
    (domains : List String) (hdomains : ∀ domain ∈ domains, domain ∈ s.facts.map (·.1)) :
    payloads t (folderText s.repo refType.text ref) (domains.map .text) =
      .ok (some (domains.map (fun domain => (domain, payloadBack s domain)))) := by
  induction domains with
  | nil => rfl
  | cons domain rest ih =>
    have hdomain := hdomains domain List.mem_cons_self
    obtain ⟨f, hf, rfl⟩ := List.mem_map.1 hdomain
    obtain ⟨hname, hfit⟩ := h.storable.files f hf
    obtain ⟨hfile, hspelt⟩ := fileOf_domainFile h.storable hdomain
    have hexists := h.existsAt hnamed hname hfit
    rw [hfile] at hexists
    have hresolve := h.resolve hnamed hname hfit
    have hdocument := readAt_of_find? hspelt ((h.occupied.2 (domainFile f.1)).trans hfile)
    have hpayload : payloadAt t (folderText s.repo refType.text ref) (.text f.1) =
        .ok (some (f.1, some (payloadBack s f.1))) := by
      rw [payloadAt]
      simp only [Doc.shown, hexists, hresolve, hdocument, bind, Except.bind, pure, Except.pure,
        Option.isSome_some, if_true]
    rw [List.map_cons, payloads, hpayload]
    simp only [bind, Except.bind, ih (fun d hd => hdomains d (List.mem_cons_of_mem _ hd)), pure,
      Except.pure, Option.map_some, List.map_cons]

end Reading

end Store

end RepoAtlas
