import RepoAtlas.Proofs.Extract.Capture

/-!
The walk over a working tree is complete and exact, and each file that it finds has one reader. A
file is known to the walk by the suffix of its name and to the front ends by how its path ends, and
both agree on every name.
-/
namespace RepoAtlas.SourceWalk

open FileTree

/-! ### Suffixes -/

/-- The name ends in the given way, behind at least one other character. -/
def EndsIn (name ending : String) : Prop :=
  ∃ stem, stem ≠ [] ∧ name.toList = stem ++ ending.toList

theorem afterLast_append {c : Char} {s : List Char} (h : c ∉ s) (front : List Char) :
    Text.afterLast c (front ++ c :: s) = s := by
  induction front with
  | nil => simp [Text.afterLast, h]
  | cons x front ih => simp [Text.afterLast, ih]

theorem exists_append_afterLast {c : Char} {s : List Char} (h : c ∈ s) :
    ∃ front, s = front ++ c :: Text.afterLast c s := by
  induction s with
  | nil => cases h
  | cons x rest ih =>
    rw [Text.afterLast]
    by_cases hrest : c ∈ rest
    · obtain ⟨front, hfront⟩ := ih hrest
      refine ⟨x :: front, ?_⟩
      rw [if_pos hrest, List.cons_append, ← hfront]
    · have hx : x = c := by simpa [hrest, eq_comm] using h
      exact ⟨[], by simp [hrest, hx]⟩

/-- A name without a suffix, and one that is cut at its last point. -/
theorem suffix_cases (name : String) : suffix name = "" ∨
    ∃ stem, stem ≠ [] ∧ name.toList = stem ++ '.' :: Text.afterLast '.' name.toList ∧
      suffix name = String.ofList ('.' :: Text.afterLast '.' name.toList) := by
  rw [suffix]
  split
  next => exact Or.inl rfl
  next hlong =>
    simp only [Bool.or_eq_true, decide_eq_true_eq, not_or, not_le, ← String.length_toList] at hlong
    have hpoint : '.' ∈ name.toList := by
      by_contra hnone
      rw [Text.afterLast_eq_self hnone] at hlong
      omega
    obtain ⟨stem, hstem⟩ := exists_append_afterLast hpoint
    refine Or.inr ⟨stem, ?_, hstem, rfl⟩
    rintro rfl
    have hlength := congrArg List.length hstem
    simp only [List.nil_append, List.length_cons] at hlength
    omega

/-- The suffix of a name is what it ends in from its last point on. -/
theorem suffix_eq_iff {name ending : String} (body : List Char)
    (hending : ending.toList = '.' :: body) (hpoint : '.' ∉ body) (hbody : body ≠ []) :
    suffix name = ending ↔ EndsIn name ending := by
  constructor
  · rintro rfl
    rcases suffix_cases name with hnone | ⟨stem, hstem, hname, hsuffix⟩
    · simp [hnone] at hending
    · exact ⟨stem, hstem, by rw [hsuffix, String.toList_ofList]; exact hname⟩
  · rintro ⟨stem, hstem, hname⟩
    have hlast : Text.afterLast '.' name.toList = body := by
      rw [hname, hending, afterLast_append hpoint]
    have hlength : body.length + 1 < name.length := by
      have hpos := List.length_pos_iff.2 hstem
      rw [← String.length_toList, hname, hending, List.length_append, List.length_cons]
      omega
    rw [suffix, hlast, if_neg (by simp [hbody, hlength]), ← hending, String.ofList_toList]

/-- The name of a source file. -/
theorem mem_suffixes_iff {name : String} :
    suffix name ∈ suffixes ↔ ∃ ending ∈ suffixes, EndsIn name ending := by
  have heach : ∀ ending ∈ suffixes, suffix name = ending ↔ EndsIn name ending := by
    intro ending hending
    simp only [suffixes, List.mem_cons, List.not_mem_nil, or_false] at hending
    rcases hending with rfl | rfl | rfl
    · exact suffix_eq_iff ['p', 'y'] rfl (by decide) (by decide)
    · exact suffix_eq_iff ['y', 'a', 'm', 'l'] rfl (by decide) (by decide)
    · exact suffix_eq_iff ['y', 'm', 'l'] rfl (by decide) (by decide)
  constructor
  · intro h
    exact ⟨suffix name, h, (heach _ h).1 rfl⟩
  · rintro ⟨ending, hending, h⟩
    rwa [(heach ending hending).2 h]

/-! ### The order of the walk -/

/-- Below the folder where their ways part, files come by name, before those of the subfolders, and
these come by the names of the subfolders. -/
inductive ComesBefore : Path → Path → Prop where
  | name (folder : Path) {a b : String} (h : a < b) : ComesBefore (folder ++ [a]) (folder ++ [b])
  | deeper (folder : Path) {below : Path} {a b : String} (h : below ≠ []) :
    ComesBefore (folder ++ [a]) (folder ++ b :: below)
  | subfolder (folder : Path) {below below' : Path} {a b : String} (h : a < b)
    (hbelow : below ≠ []) (hbelow' : below' ≠ []) :
    ComesBefore (folder ++ a :: below) (folder ++ b :: below')

theorem ComesBefore.cons {p q : Path} (folder : String) (h : ComesBefore p q) :
    ComesBefore (folder :: p) (folder :: q) := by
  cases h with
  | name _ h => exact .name (folder :: _) h
  | deeper _ h => exact .deeper (folder :: _) h
  | subfolder _ h hbelow hbelow' => exact .subfolder (folder :: _) h hbelow hbelow'

theorem comesBefore_of_walkKey {p q : Path} (hp : p ≠ []) (h : walkKey p < walkKey q) :
    ComesBefore p q := by
  induction p generalizing q with
  | nil => exact absurd rfl hp
  | cons a p ih =>
    cases q with
    | nil => exact absurd h (List.not_lt_nil _)
    | cons b q =>
      rcases walkKey_cons_lt_iff.1 h with ⟨rfl, hq⟩ | ⟨hboth, hlt | ⟨rfl, hrest⟩⟩
      · exact .deeper [] hq
      · by_cases hnil : p = []
        · obtain rfl := hboth.1 hnil
          subst hnil
          exact .name [] hlt
        · exact .subfolder [] hlt hnil (mt hboth.2 hnil)
      · have hnil : p ≠ [] := by
          rintro rfl
          rw [hboth.1 rfl] at hrest
          exact lt_irrefl _ hrest
        exact (ih hnil hrest).cons a

/-! ### The reader of a file -/

theorem endsWith_of_endsIn {name ending : String} (h : EndsIn name ending) :
    endsWith name ending = true := by
  obtain ⟨stem, -, hname⟩ := h
  rw [endsWith, List.isSuffixOf_iff_suffix, hname]
  exact List.suffix_append _ _

theorem pathText_cons_append (folder : String) (above : Path) (name : String) :
    (pathText (folder :: (above ++ [name]))).toList =
      folder.toList ++ '/' :: (pathText (above ++ [name])).toList := by
  cases above with
  | nil => simp [pathText]
  | cons next above =>
    rw [pathText, List.cons_append, String.intercalate_cons_cons, pathText]
    simp

/-- A path ends with its last name, behind the separator if there is a folder. -/
theorem exists_splitAt_pathText (above : Path) {name : String} (h : '/' ∉ name.toList) :
    ∃ pieces, Text.splitAt '/' (pathText (above ++ [name])).toList = pieces ++ [name.toList] := by
  induction above with
  | nil => exact ⟨[], by simp [pathText, splitAt_of_notMem h]⟩
  | cons folder above ih =>
    obtain ⟨pieces, hpieces⟩ := ih
    rw [List.cons_append, pathText_cons_append, splitAt_join, hpieces]
    exact ⟨Text.splitAt '/' folder.toList ++ pieces, by simp⟩

theorem suffix_pathText (above : Path) (name : String) :
    name.toList <:+ (pathText (above ++ [name])).toList := by
  induction above with
  | nil => simp [pathText]
  | cons folder above ih =>
    rw [List.cons_append, pathText_cons_append]
    exact ih.trans ((List.suffix_cons _ _).trans (List.suffix_append _ _))

theorem lastName_pathText (above : Path) {name : String} (h : '/' ∉ name.toList)
    (hempty : name.toList ≠ []) (hdot : name.toList ≠ ['.']) :
    lastName (pathText (above ++ [name])) = name := by
  obtain ⟨pieces, hpieces⟩ := exists_splitAt_pathText above h
  rw [lastName, pathParts, hpieces, List.filter_append, List.map_append]
  simp [hempty, hdot]

/-- Some front end reads a file with the suffix of a source. -/
theorem exists_applies (above : Path) {name ending : String} (h : '/' ∉ name.toList)
    (hending : ending ∈ suffixes) (hname : EndsIn name ending) :
    ∃ front : FrontEnd, front.applies (pathText (above ++ [name])) = true := by
  have hends := endsWith_of_endsIn hname
  obtain ⟨stem, hstem, hlist⟩ := hname
  have hlength : 1 < name.toList.length := by
    have hpos := List.length_pos_iff.2 hstem
    have hmore : ∀ e ∈ suffixes, 0 < e.toList.length := by decide
    have hmore := hmore ending hending
    rw [hlist, List.length_append]
    omega
  have hlast := lastName_pathText above h (by rintro hnil; simp [hnil] at hlength)
    (by rintro hdot; simp [hdot] at hlength)
  simp only [suffixes, List.mem_cons, List.not_mem_nil, or_false] at hending
  rcases hending with rfl | hyaml
  · refine ⟨.source, ?_⟩
    rw [endsWith, List.isSuffixOf_iff_suffix] at hends
    rw [FrontEnd.applies, endsWith, List.isSuffixOf_iff_suffix]
    exact hends.trans (suffix_pathText above name)
  · by_cases hinventory : name = FrontEnd.inventoryFile
    · refine ⟨.inventory, ?_⟩
      rw [FrontEnd.applies, hlast]
      exact beq_iff_eq.2 hinventory
    · refine ⟨.manifest, ?_⟩
      rcases hyaml with rfl | rfl <;> simp [FrontEnd.applies, hlast, hinventory, hends]

/-! ### Source files -/

/-- A path to a source file: no folder on it is skipped, and its name has the suffix of a source. -/
structure LeadsToSource (path : Path) : Prop where
  folders : ∀ folder ∈ path.dropLast,
    folder ∉ skippedFolders ∧ ¬ ∃ stem, folder.toList = stem ++ ".egg-info".toList
  name : ∃ name, path.getLast? = some name ∧ ∃ ending ∈ suffixes, EndsIn name ending

theorem isSkipped_iff {folder : String} : isSkipped folder = true ↔
    folder ∈ skippedFolders ∨ ∃ stem, folder.toList = stem ++ ".egg-info".toList := by
  rw [isSkipped, Bool.or_eq_true, List.contains_iff_mem, endsWith, List.isSuffixOf_iff_suffix]
  exact or_congr_right (exists_congr fun _ => eq_comm)

theorem isSource_iff {path : Path} : isSource path = true ↔ LeadsToSource path := by
  have hfolders : (!path.dropLast.any isSkipped) = true ↔ ∀ folder ∈ path.dropLast,
      folder ∉ skippedFolders ∧ ¬ ∃ stem, folder.toList = stem ++ ".egg-info".toList := by
    simp only [Bool.not_eq_true', List.any_eq_false, isSkipped_iff, not_or]
  rw [isSource, Bool.and_eq_true, hfolders, List.contains_iff_mem, mem_suffixes_iff]
  constructor
  · rintro ⟨hnone, ending, hending, hname⟩
    cases hlast : path.getLast? with
    | none =>
      obtain ⟨stem, hstem, hnil⟩ := hname
      simp [hlast, hstem] at hnil
    | some name =>
      rw [hlast] at hname
      exact ⟨hnone, name, hlast, ending, hending, hname⟩
  · rintro ⟨hnone, name, hlast, ending, hending, hname⟩
    rw [hlast]
    exact ⟨hnone, ending, hending, hname⟩

/-- The walk finds each source file once, and no other file. The files of a folder come by name, in
front of those of its subfolders, which come by name as well, and one front end reads each. All of
them are found folder by folder, without a look into what is skipped. -/
theorem sourceFiles_walk {t : FileTree} (ht : t.Distinct)
    (hnames : ∀ path ∈ t.items.keys, ∀ name ∈ path, '/' ∉ name.toList) (root : Path) :
    (t.Grounded → ∀ depth, (∀ path ∈ t.items.keys, path.length ≤ root.length + depth) →
      walk t depth root = sourceFiles t root) ∧
    ((sourceFiles t root).map (·.1)).Nodup ∧
    (∀ path content, (path, content) ∈ sourceFiles t root ↔
      t.file? (root ++ path) = some content ∧ LeadsToSource path) ∧
    (sourceFiles t root).Pairwise (fun f g => ComesBefore f.1 g.1) ∧
    ∀ f ∈ sourceFiles t root, ∃ front, FrontEnd.forPath (pathText f.1) = [front] := by
  have hmem : ∀ path content, (path, content) ∈ sourceFiles t root ↔
      t.file? (root ++ path) = some content ∧ LeadsToSource path := by
    intro path content
    rw [mem_sourceFiles ht, isSource_iff]
  have horder := pairwise_sourceFiles ht root
  refine ⟨fun hground _ => walk_eq_sourceFiles ht hground, ?_, hmem, ?_, ?_⟩
  · rw [List.Nodup, List.pairwise_map]
    refine horder.imp fun hlt heq => ?_
    rw [Precedes, heq] at hlt
    exact lt_irrefl _ hlt
  · exact horder.imp_of_mem fun hf _ hlt => comesBefore_of_walkKey (ne_nil_of_mem_sourceFiles ht hf) hlt
  · intro f hf
    obtain ⟨-, -, name, hlast, ending, hending, hname⟩ := (hmem f.1 f.2).1 hf
    obtain ⟨above, habove⟩ := List.getLast?_eq_some_iff.1 hlast
    have hslash : '/' ∉ name.toList :=
      hnames _ (mem_keys_of_mem_sourceFiles ht hf) name (by simp [habove])
    obtain ⟨front, hfront⟩ := exists_applies above hslash hending hname
    rw [← habove] at hfront
    exact ⟨front, forPath_eq_singleton (mem_forPath.2 hfront)⟩

/-- A tree with skipped folders, and with names that only look like those of sources. -/
def storefront : FileTree :=
  ⟨⟨[([".py"], .file (.text "")), (["z.py"], .file (.text "")), (["build"], .folder),
    (["build", "made.py"], .file (.text "")), (["deploy"], .folder),
    (["deploy", "api.yml"], .file .undecodable),
    (["deploy", "ecograph.services.yaml"], .file (.text "")), (["notes.pyc"], .file (.text "")),
    (["shop.egg-info"], .folder), (["shop.egg-info", "top.py"], .file (.text ""))]⟩⟩

/-- Each of the three files that are found has a front end of its own. -/
theorem sourceFiles_walk_storefront :
    storefront.Distinct ∧ (∀ path ∈ storefront.items.keys, ∀ name ∈ path, '/' ∉ name.toList) ∧
    walk storefront 2 [] = sourceFiles storefront [] ∧
    (sourceFiles storefront []).map (·.1) =
      [["z.py"], ["deploy", "api.yml"], ["deploy", "ecograph.services.yaml"]] ∧
    ((sourceFiles storefront []).map (·.1)).Nodup ∧
    (∀ path content, (path, content) ∈ sourceFiles storefront [] ↔
      storefront.file? path = some content ∧ LeadsToSource path) ∧
    (sourceFiles storefront []).Pairwise (fun f g => ComesBefore f.1 g.1) ∧
    ∀ f ∈ sourceFiles storefront [], ∃ front, FrontEnd.forPath (pathText f.1) = [front] := by
  have hdistinct : storefront.Distinct := by
    rw [Distinct]
    decide
  have hnames : ∀ path ∈ storefront.items.keys, ∀ name ∈ path, '/' ∉ name.toList := by decide
  have hfiles : sourceFiles storefront [] = [(["z.py"], .text ""), (["deploy", "api.yml"],
      .undecodable), (["deploy", "ecograph.services.yaml"], .text "")] :=
    List.mergeSort_of_pairwise (by decide +kernel)
  have hgrounded : storefront.Grounded := grounded_of_keys (by decide)
  obtain ⟨hwalk, hrest⟩ := sourceFiles_walk hdistinct hnames []
  exact ⟨hdistinct, hnames, hwalk hgrounded 2 (by decide), by rw [hfiles]; rfl, hrest⟩

end RepoAtlas.SourceWalk
