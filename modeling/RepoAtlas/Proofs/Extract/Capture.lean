import RepoAtlas.Extract.Capture
import RepoAtlas.Proofs.Extract.SourceWalk
import RepoAtlas.Proofs.Files.Folders
import RepoAtlas.Proofs.Outcome
import RepoAtlas.Proofs.Record.TypedRecords

/-!
A capture gathers what each file yields, one file after the other. At most one front end reads a
file; a file that cannot be read, or that its front end fails on, has no part in the capture. There
is no capture if a value that holds itself was read.
-/
namespace RepoAtlas

/-! ### Path endings -/

/-- The last piece of a text ends as the text does. -/
theorem splitAt_append_last {c : Char} {s : List Char} (h : c ∉ s) (before : List Char) :
    ∃ pieces piece, Text.splitAt c (before ++ s) = pieces ++ [piece ++ s] := by
  induction before with
  | nil => exact ⟨[], [], FileTree.splitAt_of_notMem h⟩
  | cons x rest ih =>
    obtain ⟨pieces, piece, hpieces⟩ := ih
    rw [List.cons_append, Text.splitAt, hpieces]
    split
    · exact ⟨[] :: pieces, piece, rfl⟩
    · cases pieces with
      | nil => exact ⟨[], x :: piece, rfl⟩
      | cons first pieces => exact ⟨(x :: first) :: pieces, piece, rfl⟩

theorem getLast?_of_endsWith {s ending : String} (h : endsWith s ending = true)
    (hne : ending.toList ≠ []) : s.toList.getLast? = ending.toList.getLast? := by
  obtain ⟨before, hbefore⟩ := List.isSuffixOf_iff_suffix.1 h
  rw [← hbefore, List.getLast?_append, List.getLast?_eq_some_getLast hne, Option.some_or]

/-- The last name of a path ends as the path does. -/
theorem getLast?_lastName {path : String} (h : endsWith path ".py" = true) :
    (FileTree.lastName path).toList.getLast? = some 'y' := by
  obtain ⟨before, hbefore⟩ := List.isSuffixOf_iff_suffix.1 h
  obtain ⟨pieces, piece, hpieces⟩ := splitAt_append_last (c := '/') (s := ".py".toList) (by decide)
    before
  have hkept : piece ++ ".py".toList ≠ ['.'] := by
    intro hdot
    have hlength := congrArg List.length hdot
    rw [List.length_append] at hlength
    simp at hlength
  rw [FileTree.lastName, FileTree.pathParts, ← hbefore, hpieces, List.filter_append,
    List.filter_cons_of_pos (by simpa using hkept), List.filter_nil, List.map_append,
    List.map_singleton, List.getLast?_concat, Option.getD_some, String.toList_ofList]
  simp

/-! ### The front end of a file -/

/-- The last letter of the name, by which it is known which front ends may read the file. -/
def FrontEnd.lastLetter : FrontEnd → Char
  | .source => 'y'
  | .manifest | .inventory => 'l'

theorem getLast?_of_applies {path : String} {front : FrontEnd} (h : front.applies path = true) :
    (FileTree.lastName path).toList.getLast? = some front.lastLetter := by
  cases front with
  | source => exact getLast?_lastName h
  | manifest =>
    rw [FrontEnd.applies, Bool.and_eq_true, Bool.or_eq_true] at h
    rcases h.1 with hlong | hshort
    · exact (getLast?_of_endsWith hlong (by decide)).trans (by decide)
    · exact (getLast?_of_endsWith hshort (by decide)).trans (by decide)
  | inventory =>
    rw [FrontEnd.applies, beq_iff_eq] at h
    rw [h]
    decide

/-- No two front ends apply to a path: of the two that read files with the same last letter, one
reads those of a single name, which the other leaves to it. -/
theorem applies_unique {path : String} {front other : FrontEnd} (h : front.applies path = true)
    (hother : other.applies path = true) : other = front := by
  have hletter : other.lastLetter = front.lastLetter :=
    Option.some.inj ((getLast?_of_applies hother).symm.trans (getLast?_of_applies h))
  cases front <;> cases other <;> simp_all [FrontEnd.lastLetter, FrontEnd.applies]

theorem mem_forPath {path : String} {front : FrontEnd} :
    front ∈ FrontEnd.forPath path ↔ front.applies path = true := by
  rw [FrontEnd.forPath, List.mem_filter]
  exact and_iff_right (by cases front <;> decide)

/-- A front end that applies is the only one. -/
theorem forPath_eq_singleton {path : String} {front : FrontEnd}
    (h : front ∈ FrontEnd.forPath path) : FrontEnd.forPath path = [front] := by
  have hothers : ∀ other, other.applies path = decide (other = front) := by
    intro other
    rw [Bool.eq_iff_iff, decide_eq_true_iff]
    exact ⟨applies_unique (mem_forPath.1 h), fun hsame => hsame ▸ mem_forPath.1 h⟩
  rw [FrontEnd.forPath, List.filter_congr fun other _ => hothers other]
  cases front <;> rfl

/-- A file yields what its front end reads. -/
theorem fileFacts_of_mem {content path : String} {front : FrontEnd}
    (h : front ∈ FrontEnd.forPath path) :
    fileFacts content path = (front.facts content path).toOption.getD {} := by
  rw [fileFacts, forPath_eq_singleton h]
  exact FileFacts.append_empty _

theorem fileFacts_of_error {content path : String} {front : FrontEnd} {fault : Fault}
    (hfront : front ∈ FrontEnd.forPath path) (h : front.facts content path = .error fault) :
    fileFacts content path = {} := by
  rw [fileFacts_of_mem hfront, h]
  rfl

/-- A manifest is read as a whole: no document of it counts if one fails. -/
theorem fileFacts_of_badDocument {content path : String} {doc : Result Yaml.Value} {fault : Fault}
    (hfront : .manifest ∈ FrontEnd.forPath path) (hdoc : doc ∈ Yaml.documents content)
    (h : (doc >>= Manifest.documentFacts path) = .error fault) : fileFacts content path = {} := by
  cases hfacts : FrontEnd.manifest.facts content path with
  | error fault => exact fileFacts_of_error hfront hfacts
  | ok facts =>
    obtain ⟨parts, hparts, -⟩ := bind_eq_ok_iff.1 hfacts
    obtain ⟨part, -, hpart⟩ := exists_mem_of_mapM_eq_ok hparts hdoc
    rw [show (doc >>= Manifest.documentFacts path) = .ok part from hpart] at h
    cases h

open SourceWalk

/-! ### Facts of several files -/

theorem isEndless_append (a b : FileFacts) : (a ++ b).isEndless = (a.isEndless || b.isEndless) := by
  simp only [FileFacts.append_def, FileFacts.append, FileFacts.isEndless, List.any_append]
  ac_rfl

theorem isEndless_join (parts : List FileFacts) :
    (FileFacts.join parts).isEndless = parts.any FileFacts.isEndless := by
  induction parts with
  | nil => rfl
  | cons first rest ih =>
    rw [List.any_cons, ← ih, ← isEndless_append]
    rfl

/-- Files that yield nothing may be left out. -/
theorem join_filterMap {α β : Type} {f : α → FileFacts} {g : α → Option β} {k : β → FileFacts}
    {xs : List α} (h : ∀ x ∈ xs, f x = ((g x).map k).getD {}) :
    FileFacts.join (xs.map f) = FileFacts.join ((xs.filterMap g).map k) := by
  induction xs with
  | nil => rfl
  | cons x rest ih =>
    obtain ⟨hx, hrest⟩ := List.forall_mem_cons.1 h
    have hjoin : FileFacts.join ((x :: rest).map f) =
        f x ++ FileFacts.join ((rest.filterMap g).map k) := by
      rw [← ih hrest]
      rfl
    rw [hjoin, hx]
    cases hg : g x with
    | none =>
      rw [List.filterMap_cons_none hg]
      exact FileFacts.empty_append _
    | some y =>
      rw [List.filterMap_cons_some hg]
      rfl

/-! ### Files that yield something and files that do not -/

/-- The source files that are texts, in the order of the walk. -/
def readableFiles (t : FileTree) (root : Path) : List (Path × String) :=
  (sourceFiles t root).filterMap (fun f => f.2.read.toOption.map (fun text => (f.1, text)))

/-- What a file yields. -/
def yieldOf (f : Path × String) : FileFacts := fileFacts f.2 (pathText f.1)

/-- A file that is no text, or on which its front end fails. -/
def IsUnread (path : Path) (content : FileContent) : Prop :=
  (∃ fault, content.read = .error fault) ∨
    ∃ text, content.read = .ok text ∧ ∃ front ∈ FrontEnd.forPath (pathText path),
      ∃ fault, front.facts text (pathText path) = .error fault

theorem treeFacts_eq (t : FileTree) (root : Path) :
    treeFacts t root = .join ((readableFiles t root).map yieldOf) := by
  refine join_filterMap fun f _ => ?_
  rw [treeFileFacts]
  cases f.2.read with
  | error fault => rfl
  | ok text => rfl

theorem treeFileFacts_of_isUnread {path : Path} {content : FileContent}
    (h : IsUnread path content) : treeFileFacts (path, content) = {} := by
  rcases h with ⟨fault, hread⟩ | ⟨text, hread, front, hfront, fault, hfacts⟩
  · rw [treeFileFacts, hread]
  · rw [treeFileFacts, hread]
    exact fileFacts_of_error hfront hfacts

theorem treeFacts_leavesOut {t u : FileTree} (ht : t.Distinct) (hu : u.Distinct) {root path : Path}
    {content : FileContent} (hfile : t.file? (root ++ path) = some content)
    (h : IsUnread path content) (hout : t.LeavesOut u (root ++ path)) :
    treeFacts u root = treeFacts t root := by
  rw [treeFacts, treeFacts, sourceFiles_without ht hu hout, ← List.filterMap_eq_filter]
  refine (join_filterMap fun f hf => ?_).symm
  by_cases hpath : f.1 = path
  · obtain ⟨rfl, rfl⟩ : f.1 = path ∧ f.2 = content := by
      refine ⟨hpath, ?_⟩
      have hfound := ((mem_sourceFiles ht).1 hf).1
      rw [hpath, hfile] at hfound
      exact (Option.some.inj hfound).symm
    rw [treeFileFacts_of_isUnread h]
    simp [Option.guard]
  · simp [Option.guard, hpath]

/-! ### Captures -/

/-- A snapshot has what its files yield, one after the other. -/
structure Snapshot.Gathers (s : Snapshot) (repo : String) (files : List (Path × String)) :
    Prop where
  types : s.typeFacts = .ok (Types.factsOf (files.flatMap fun f => (yieldOf f).types)
    (files.flatMap fun f => (yieldOf f).calls))
  topology : s.topologyFacts =
    .ok ⟨(files.flatMap fun f => (yieldOf f).services).map (Service.ownedBy repo),
      files.flatMap fun f => (yieldOf f).outboundCalls⟩
  resources : s.payload? resourceDomain =
    if (files.flatMap fun f => (yieldOf f).resources) = [] then none
    else some (.object [("resources",
      .list ((files.flatMap fun f => (yieldOf f).resources).map Resource.toDoc))])
  domains : s.facts.map (·.1) = [typeDomain, topologyDomain] ++
    if (files.flatMap fun f => (yieldOf f).resources) = [] then [] else [resourceDomain]

theorem gathers_snapshot (label : CaptureLabel) (files : List (Path × String)) :
    (label.snapshot (.join (files.map yieldOf))).Gathers label.repo files := by
  have hpart : ∀ {α : Type} (part : FileFacts → List α), part {} = [] →
      (∀ a b : FileFacts, part (a ++ b) = part a ++ part b) →
      part (.join (files.map yieldOf)) = files.flatMap (fun f => part (yieldOf f)) := by
    intro α part hempty happend
    rw [part_join part hempty happend, List.flatMap_map]
  have htypes := hpart FileFacts.types rfl fun _ _ => rfl
  have hcalls := hpart FileFacts.calls rfl fun _ _ => rfl
  have hservices := hpart FileFacts.services rfl fun _ _ => rfl
  have hrequests := hpart FileFacts.outboundCalls rfl fun _ _ => rfl
  have hresources := hpart FileFacts.resources rfl fun _ _ => rfl
  constructor
  · rw [← htypes, ← hcalls]
    exact TypeFacts.ofDoc_toDoc _
  · rw [← hservices, ← hrequests]
    exact bind_eq_ok_iff.2 ⟨_, TopologyFacts.faithful.full _, TopologyFacts.faithful.reads _⟩
  · rw [← hresources, CaptureLabel.snapshot, domainFacts]
    cases (FileFacts.join (files.map yieldOf)).resources <;> rfl
  · rw [← hresources, CaptureLabel.snapshot, domainFacts]
    cases (FileFacts.join (files.map yieldOf)).resources <;> rfl

/-- There is a snapshot unless a value that was read holds itself. -/
theorem capture_cases (label : CaptureLabel) (t : FileTree) (root : Path) :
    ((∀ f ∈ readableFiles t root, (yieldOf f).isEndless = false) ∧
        ∃ s, capture label t root = .ok s ∧ s.Gathers label.repo (readableFiles t root)) ∨
      (∃ f ∈ readableFiles t root, (yieldOf f).isEndless = true) ∧
        capture label t root = .error .endless := by
  have hendless : (treeFacts t root).isEndless =
      (readableFiles t root).any (fun f => (yieldOf f).isEndless) := by
    rw [treeFacts_eq, isEndless_join, List.any_map]
    rfl
  rw [capture, FileFacts.copy, hendless]
  cases hany : (readableFiles t root).any (fun f => (yieldOf f).isEndless) with
  | false =>
    refine Or.inl ⟨fun f hf => Bool.eq_false_iff.2 (List.any_eq_false.1 hany f hf), _, rfl, ?_⟩
    rw [treeFacts_eq]
    exact gathers_snapshot label _
  | true => exact Or.inr ⟨List.any_eq_true.1 hany, rfl⟩

/-- A snapshot of a tree has what its files yield, in the order of the walk, and there is one unless
a value that was read holds itself. Each file that is no text, or on which its front end fails,
might as well not be there, and a manifest fails with any of its documents. -/
theorem capture_gathers {t : FileTree} (ht : t.Distinct) (root : Path) (label : CaptureLabel) :
    (t.Grounded → sourceFiles t root = filesIn t root ++
      (subfolders t root).flatMap (fun folder =>
        (sourceFiles t (root ++ [folder])).map (fun f => (folder :: f.1, f.2)))) ∧
    (((∀ f ∈ readableFiles t root, (yieldOf f).isEndless = false) ∧
        ∃ s, capture label t root = .ok s ∧ s.Gathers label.repo (readableFiles t root)) ∨
      (∃ f ∈ readableFiles t root, (yieldOf f).isEndless = true) ∧
        capture label t root = .error .endless) ∧
    (∀ (u : FileTree) (path : Path) (content : FileContent), u.Distinct →
      t.file? (root ++ path) = some content → IsUnread path content →
      t.LeavesOut u (root ++ path) → capture label u root = capture label t root) ∧
    ∀ (content path : String) (doc : Result Yaml.Value) (fault : Fault),
      .manifest ∈ FrontEnd.forPath path → doc ∈ Yaml.documents content →
      (doc >>= Manifest.documentFacts path) = .error fault → fileFacts content path = {} := by
  refine ⟨fun hground => sourceFiles_eq_walk ht hground root, capture_cases label t root, ?_,
    fun _ _ _ _ => fileFacts_of_badDocument⟩
  intro u path content hu hfile hunread hout
  rw [capture, capture, treeFacts_leavesOut ht hu hfile hunread hout]

def shopLabel : CaptureLabel :=
  { repo := "shop", capturedAt := { year := 2024, month := 1, day := 1 } }

/-- A module, and a manifest whose second document breaks off. -/
def halfManifest : FileTree :=
  ⟨⟨[(["app.py"], .file (.text "class App: pass\n")),
    (["deploy.yaml"], .file (.text "apiVersion: v1\nkind: Pod\n---\n- ["))]⟩⟩

/-- There is a capture, and it is the same without the manifest. -/
theorem capture_gathers_halfManifest :
    ∃ s, capture shopLabel halfManifest [] = .ok s ∧
      s.Gathers "shop" (readableFiles halfManifest []) ∧
      capture shopLabel (halfManifest.erase ["deploy.yaml"]) [] = .ok s := by
  have hdistinct : halfManifest.Distinct := by
    rw [FileTree.Distinct]
    decide
  have hgrounded : halfManifest.Grounded := FileTree.grounded_of_keys (by decide)
  have hfile : halfManifest.file? ["deploy.yaml"] =
      some (.text "apiVersion: v1\nkind: Pod\n---\n- [") := rfl
  have hunread : IsUnread ["deploy.yaml"] (.text "apiVersion: v1\nkind: Pod\n---\n- [") := by
    have hfront : .manifest ∈ FrontEnd.forPath "deploy.yaml" := by decide +kernel
    cases hfacts : FrontEnd.manifest.facts "apiVersion: v1\nkind: Pod\n---\n- [" "deploy.yaml" with
    | error fault => exact Or.inr ⟨_, rfl, .manifest, hfront, fault, hfacts⟩
    | ok facts =>
      have hnone : (FrontEnd.manifest.facts "apiVersion: v1\nkind: Pod\n---\n- ["
          "deploy.yaml").toOption.isNone = true := by decide +kernel
      rw [hfacts] at hnone
      cases hnone
  have hfiles : sourceFiles halfManifest [] = [(["app.py"], .text "class App: pass\n"),
      (["deploy.yaml"], .text "apiVersion: v1\nkind: Pod\n---\n- [")] :=
    List.mergeSort_of_pairwise (by decide +kernel)
  have hplain : ∀ f ∈ readableFiles halfManifest [], (yieldOf f).isEndless = false := by
    rw [readableFiles, hfiles]
    decide +kernel
  obtain ⟨-, ⟨-, s, hs, hgathers⟩ | ⟨⟨f, hf, hendless⟩, -⟩, hisolated, -⟩ :=
    capture_gathers hdistinct [] shopLabel
  · refine ⟨s, hs, hgathers, ?_⟩
    rw [← hs]
    exact hisolated _ _ _ (hdistinct.erase _) hfile hunread (hgrounded.leavesOut_erase hfile)
  · rw [hplain f hf] at hendless
    cases hendless

/-- A module, and an inventory with a service whose image is a list that holds itself. -/
def knottedInventory : FileTree :=
  ⟨⟨[(["app.py"], .file (.text "class App: pass\n")),
    (["ecograph.services.yaml"], .file (.text
      "services:\n  - name: a\n    image: &x [*x]\n"))]⟩⟩

/-- No front end fails, and still there is no capture, not even of the class. -/
theorem capture_knottedInventory_fails :
    (∀ f ∈ readableFiles knottedInventory [], ∀ front ∈ FrontEnd.forPath (pathText f.1),
      (front.facts f.2 (pathText f.1)).toOption.isSome = true) ∧
      capture shopLabel knottedInventory [] = .error .endless := by
  have hfiles : sourceFiles knottedInventory [] = [(["app.py"], .text "class App: pass\n"),
      (["ecograph.services.yaml"], .text "services:\n  - name: a\n    image: &x [*x]\n")] :=
    List.mergeSort_of_pairwise (by decide +kernel)
  have hknot : ∃ f ∈ readableFiles knottedInventory [], (yieldOf f).isEndless = true := by
    rw [readableFiles, hfiles]
    decide +kernel
  refine ⟨?_, ?_⟩
  · rw [readableFiles, hfiles]
    decide +kernel
  · obtain ⟨f, hf, hendless⟩ := hknot
    rcases capture_cases shopLabel knottedInventory [] with ⟨hplain, -⟩ | ⟨-, hfails⟩
    · rw [hplain f hf] at hendless
      cases hendless
    · exact hfails

end RepoAtlas
