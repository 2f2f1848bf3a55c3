import Mathlib.Data.List.Basic
import RepoAtlas.Proofs.Files.Folders
import RepoAtlas.Proofs.Time.IsoText
import RepoAtlas.Store.Manifest
import RepoAtlas.Text.CharClass

/-!
The names of a store's folders and files are plain names, and a ref type and the part that a ref
becomes can be told from a folder's name. The check of repository names lets one line feed pass
behind a name, so the names that it accepts are those of the stated grammar, and texts of name
characters that a line feed ends.
-/
namespace RepoAtlas.Store

theorem utf8ByteSize_of_ascii {s : String} (h : ∀ c ∈ s.toList, c.toNat < 128) :
    s.utf8ByteSize = s.toList.length := by
  have hroom := Timestamp.room_eq_length h
  rwa [Timestamp.room, String.ofList_toList] at hroom

theorem ascii_of_isNameChar {c : Char} (h : isNameChar c = true) : c.toNat < 128 := by
  simp only [isNameChar, Bool.or_eq_true, beq_iff_eq] at h
  rcases h with ((h | rfl) | rfl) | rfl
  · have hval : c.toNat = c.val.toNat := rfl
    rcases Bool.or_eq_true_iff.1 h with hletter | hdigit
    · rcases Bool.or_eq_true_iff.1 hletter with hupper | hlower
      · have : c.val.toNat ≤ 90 := (of_decide_eq_true hupper).2
        omega
      · have : c.val.toNat ≤ 122 := of_decide_eq_true (Bool.and_eq_true_iff.1 hlower).2
        omega
    · have : c.val.toNat ≤ 57 := of_decide_eq_true (Bool.and_eq_true_iff.1 hdigit).2
      omega
  · decide
  · decide
  · decide

theorem isName_of_chars {s : String} (h : ∀ c ∈ s.toList, isNameChar c = true ∨ c = '\n')
    (hempty : s ≠ "") (hdot : s ≠ ".") (hdots : s ≠ "..") : IsName s := by
  refine ⟨?_, ?_, hempty, hdot, hdots⟩
  · intro hmem
    rcases h _ hmem with hc | hc
    · exact absurd hc (by decide)
    · exact absurd hc (by decide)
  · intro hmem
    rcases h _ hmem with hc | hc
    · exact absurd hc (by decide)
    · exact absurd hc (by decide)

/-! ### Repositories -/

theorem chars_of_isRepoName {name : String} (h : isRepoName name = true) :
    (∀ c ∈ name.toList, isNameChar c = true ∨ c = '\n') ∧ name.toList.length ≤ 101 := by
  simp only [isRepoName, Bool.and_eq_true, decide_eq_true_eq, List.all_eq_true, maxNameLength]
    at h
  obtain ⟨⟨⟨⟨-, hdecide⟩, hall⟩, -⟩, -⟩ := h
  have hlen := of_decide_eq_true hdecide
  unfold withoutLineEnd at hlen hall
  split at hall
  next hlast =>
    rw [if_pos hlast] at hlen
    have hsplit := List.dropLast_append_getLast? '\n' hlast
    constructor
    · intro c hc
      rw [← hsplit, List.mem_append, List.mem_singleton] at hc
      rcases hc with hc | hc
      · exact Or.inl (hall c hc)
      · exact Or.inr hc
    · rw [← hsplit, List.length_append, List.length_singleton]
      omega
  next hlast =>
    rw [if_neg hlast] at hlen
    exact ⟨fun c hc => Or.inl (hall c hc), by omega⟩

theorem isName_of_isRepoName {name : String} (h : isRepoName name = true) : IsName name := by
  have hchars := (chars_of_isRepoName h).1
  simp only [isRepoName, Bool.and_eq_true, decide_eq_true_eq] at h
  refine isName_of_chars hchars ?_ h.1.2 h.2
  rintro rfl
  exact absurd h.1.1.1.1 (by decide)

theorem fits_of_isRepoName {name : String} (h : isRepoName name = true) : Fits name := by
  obtain ⟨hchars, hlen⟩ := chars_of_isRepoName h
  have hbytes := utf8ByteSize_of_ascii (s := name) (by
    intro c hc
    rcases hchars c hc with hc | rfl
    · exact ascii_of_isNameChar hc
    · decide)
  unfold Fits FileTree.maxNameBytes
  omega

/-! ### Folders of snapshots -/

theorem folderName_toList (refType : RefType) (ref : String) :
    (folderName refType.text ref).toList =
      refType.text.toList ++ '-' :: safeRefChars ref.toList := by
  simp [folderName, safeRef]

theorem isNameChar_of_mem_folderName {refType : RefType} {ref : String} {c : Char}
    (h : c ∈ (folderName refType.text ref).toList) : isNameChar c = true := by
  rw [folderName_toList, List.mem_append, List.mem_cons] at h
  rcases h with h | rfl | h
  · have htype : refType.text.toList.all isNameChar = true := by
      cases refType <;> decide
    exact List.all_eq_true.1 htype c h
  · rfl
  · rw [safeRefChars, List.mem_map] at h
    obtain ⟨d, -, rfl⟩ := h
    split
    next hd => exact hd
    next => rfl

/-- A folder's name takes as many bytes as it has characters, which the ref's length tells. -/
theorem utf8ByteSize_folderName (refType : RefType) (ref : String) :
    (folderName refType.text ref).utf8ByteSize =
      refType.text.toList.length + 1 + ref.toList.length := by
  have hbytes := utf8ByteSize_of_ascii (s := folderName refType.text ref)
    (fun c hc => ascii_of_isNameChar (isNameChar_of_mem_folderName hc))
  rw [hbytes, folderName_toList, List.length_append, List.length_cons, safeRefChars,
    List.length_map]
  omega

theorem isName_folderName (refType : RefType) (ref : String) :
    IsName (folderName refType.text ref) := by
  have hne : ∀ other : String, '-' ∉ other.toList → folderName refType.text ref ≠ other := by
    intro other hother heq
    refine hother ?_
    rw [← heq, folderName_toList]
    simp
  refine isName_of_chars (fun c hc => Or.inl (isNameChar_of_mem_folderName hc)) ?_ ?_ ?_
  · exact hne "" (by decide)
  · exact hne "." (by decide)
  · exact hne ".." (by decide)

/-- A folder's name tells the ref type, and the ref as far as it is kept. -/
theorem folderName_inj {r q : RefType} {ref other : String} :
    folderName r.text ref = folderName q.text other ↔ r = q ∧ safeRef ref = safeRef other := by
  constructor
  · intro h
    have hchars := congrArg String.toList h
    rw [folderName_toList, folderName_toList] at hchars
    cases r <;> cases q
    · refine ⟨rfl, congrArg String.ofList ?_⟩
      exact (List.cons.inj (List.append_cancel_left hchars)).2
    · exact absurd (List.cons.inj hchars).1 (by decide)
    · exact absurd (List.cons.inj hchars).1 (by decide)
    · refine ⟨rfl, congrArg String.ofList ?_⟩
      exact (List.cons.inj (List.append_cancel_left hchars)).2
  · rintro ⟨rfl, h⟩
    rw [folderName, folderName, h]

/-! ### Refs with the same folder -/

theorem safeRefChars_eq_self {s : List Char} (h : '_' ∉ safeRefChars s) : safeRefChars s = s := by
  have hall : ∀ c ∈ s, isNameChar c = true := by
    intro c hc
    by_contra hnot
    refine h (List.mem_map.2 ⟨c, hc, ?_⟩)
    rw [if_neg hnot]
  calc safeRefChars s = s.map id := List.map_congr_left (fun c hc => if_pos (hall c hc))
    _ = s := List.map_id s

theorem safeRef_toList (ref : String) : (safeRef ref).toList = safeRefChars ref.toList := by
  rw [safeRef, String.toList_ofList]

/-- A ref whose folder's name has no underscore has the folder for itself. -/
theorem eq_of_safeRef_eq {ref other : String} (h : '_' ∉ (safeRef ref).toList)
    (heq : safeRef other = safeRef ref) : other = ref := by
  have hother : '_' ∉ (safeRef other).toList := by rwa [heq]
  have hchars := congrArg String.toList heq
  rw [safeRef_toList] at h hother
  rw [safeRef_toList, safeRef_toList, safeRefChars_eq_self h, safeRefChars_eq_self hother] at hchars
  exact String.toList_inj.1 hchars

/-- With an underscore it shares the folder with another ref. -/
theorem exists_rival_ref {ref : String} (h : '_' ∈ (safeRef ref).toList) :
    ∃ other, other ≠ ref ∧ safeRef other = safeRef ref := by
  by_cases hsafe : safeRef ref = ref
  · let slashed := ref.toList.map (fun c => if c = '_' then '/' else c)
    refine ⟨String.ofList slashed, ?_, ?_⟩
    · intro heq
      rw [hsafe, ← heq, String.toList_ofList, List.mem_map] at h
      obtain ⟨c, -, hc⟩ := h
      split at hc
      next => exact absurd hc (by decide)
      next hne => exact hne hc
    · have hchars : safeRefChars slashed = safeRefChars ref.toList := by
        rw [safeRefChars, safeRefChars, List.map_map]
        apply List.map_congr_left
        intro c _
        by_cases hc : c = '_'
        · rw [Function.comp_apply, hc]
          rfl
        · rw [Function.comp_apply, if_neg hc]
      rw [safeRef, safeRef, String.toList_ofList, hchars]
  · refine ⟨safeRef ref, hsafe, ?_⟩
    rw [safeRef, safeRef_toList, safeRefChars_idem, safeRef]

/-! ### Files -/

theorem isName_manifestName : IsName manifestName := by
  refine ⟨?_, ?_, ?_, ?_, ?_⟩ <;> decide

theorem fits_manifestName : Fits manifestName := by decide

theorem domainFile_inj {d e : String} (h : domainFile d = domainFile e) : d = e :=
  String.append_left_inj _ |>.1 h

theorem folderText_joined (repo refType ref name : String) :
    folderText repo refType ref ++ "/" ++ name =
      FileTree.joined [repo, folderName refType ref, name] := by
  simp [folderText, FileTree.joined, String.append_assoc]

theorem folderText_joined_two (repo refType ref : String) :
    folderText repo refType ref = FileTree.joined [repo, folderName refType ref] := rfl

/-! ### Which names a repository may have -/

/-- The letters and digits of ASCII, dots, underscores and hyphens. -/
def IsNameLetter (c : Char) : Prop :=
  ('A' ≤ c ∧ c ≤ 'Z') ∨ ('a' ≤ c ∧ c ≤ 'z') ∨ ('0' ≤ c ∧ c ≤ '9') ∨ c ∈ ['.', '_', '-']

instance (c : Char) : Decidable (IsNameLetter c) :=
  inferInstanceAs (Decidable (_ ∨ _))

/-- One to a hundred such characters. -/
structure IsNameText (s : List Char) : Prop where
  ne_nil : s ≠ []
  length : s.length ≤ 100
  letters : ∀ c ∈ s, IsNameLetter c

/-- The names that are said to be good: such a text that is no dot name. -/
structure IsStatedName (name : String) : Prop where
  text : IsNameText name.toList
  ne_dot : name ≠ "."
  ne_dots : name ≠ ".."

/-- Such a text, which may be a dot name, and a line feed behind it. -/
def EndsInLineFeed (name : String) : Prop := ∃ body, IsNameText body ∧ name.toList = body ++ ['\n']

/-- The control characters of Unicode. -/
def isControl (c : Char) : Bool := c.toNat < 32 || (127 ≤ c.toNat && c.toNat < 160)

/-- A name that leads to one folder of the store, whatever the store holds. Only a line feed at its
end is blank or a control character. -/
structure NamesOneFolder (name : String) : Prop where
  child : ∀ t : FileTree, t.resolve [] name = .ok [name]
  separators : '/' ∉ name.toList ∧ '\\' ∉ name.toList
  visible : (∀ c ∈ name.toList, Text.isBlank c = false ∧ isControl c = false) ↔
    ¬ EndsInLineFeed name

/-! ### Characters -/

theorem isNameChar_iff {c : Char} : isNameChar c = true ↔ IsNameLetter c := by
  have hupper : c.isUpper = decide ('A' ≤ c ∧ c ≤ 'Z') := rfl
  have hlower : c.isLower = (decide ('a' ≤ c) && decide (c ≤ 'z')) := rfl
  have hdigit : c.isDigit = (decide ('0' ≤ c) && decide (c ≤ '9')) := rfl
  have hchar : isNameChar c =
      (c.isUpper || c.isLower || c.isDigit || c == '.' || c == '_' || c == '-') := rfl
  simp only [hchar, hupper, hlower, hdigit, Bool.or_eq_true, Bool.and_eq_true, decide_eq_true_eq,
    beq_iff_eq, IsNameLetter, List.mem_cons, List.not_mem_nil, or_false, or_assoc]

theorem isNameText_iff {s : List Char} :
    IsNameText s ↔ s ≠ [] ∧ s.length ≤ maxNameLength ∧ s.all isNameChar = true := by
  simp only [List.all_eq_true, isNameChar_iff]
  exact ⟨fun h => ⟨h.ne_nil, h.length, h.letters⟩, fun h => ⟨h.1, h.2.1, h.2.2⟩⟩

theorem toNat_of_isNameLetter {c : Char} (h : IsNameLetter c) : 45 ≤ c.toNat ∧ c.toNat ≤ 122 := by
  rcases h with ⟨hlow, hhigh⟩ | ⟨hlow, hhigh⟩ | ⟨hlow, hhigh⟩ | h
  · have hlow : 65 ≤ c.toNat := hlow
    have hhigh : c.toNat ≤ 90 := hhigh
    omega
  · have hlow : 97 ≤ c.toNat := hlow
    exact ⟨by omega, hhigh⟩
  · have hlow : 48 ≤ c.toNat := hlow
    have hhigh : c.toNat ≤ 57 := hhigh
    omega
  · simp only [List.mem_cons, List.not_mem_nil, or_false] at h
    rcases h with rfl | rfl | rfl <;> decide

theorem visible_of_isNameLetter {c : Char} (h : IsNameLetter c) :
    Text.isBlank c = false ∧ isControl c = false := by
  have hrange := toNat_of_isNameLetter h
  simp only [Text.isBlank, isControl, Bool.or_eq_false_iff, Bool.and_eq_false_iff,
    beq_eq_false_iff_ne, decide_eq_false_iff_not]
  omega

/-! ### Accepted names -/

section Names

variable {name : String}

theorem lineFeed_mem (h : EndsInLineFeed name) : '\n' ∈ name.toList := by
  obtain ⟨body, -, hname⟩ := h
  exact hname ▸ List.mem_append_right body List.mem_cons_self

theorem IsStatedName.lineFeed_notMem (h : IsStatedName name) : '\n' ∉ name.toList :=
  fun hmem => absurd (h.text.letters _ hmem) (by decide)

theorem isRepoName_iff :
    isRepoName name = true ↔
      IsNameText (withoutLineEnd name.toList) ∧ name ≠ "." ∧ name ≠ ".." := by
  simp only [isRepoName, isNameText_iff, Bool.and_eq_true, Bool.not_eq_true',
    List.isEmpty_eq_false_iff, decide_eq_true_eq, ne_eq, and_assoc]

/-- The check takes a line feed off before it looks at the characters, and then compares the whole
name with the dot names. -/
theorem isRepoName_iff_stated :
    isRepoName name = true ↔ IsStatedName name ∨ EndsInLineFeed name := by
  rw [isRepoName_iff, withoutLineEnd]
  split
  next hlast =>
    have hname := List.dropLast_append_getLast? '\n' hlast
    have hmem : '\n' ∈ name.toList := List.mem_of_mem_getLast? hlast
    constructor
    · rintro ⟨hbody, -, -⟩
      exact Or.inr ⟨_, hbody, hname.symm⟩
    · rintro (hstated | ⟨body, hbody, hsplit⟩)
      · exact absurd hmem hstated.lineFeed_notMem
      · rw [hsplit, List.dropLast_concat]
        refine ⟨hbody, ?_, ?_⟩
        · rintro rfl
          exact absurd hmem (by decide)
        · rintro rfl
          exact absurd hmem (by decide)
  next hlast =>
    constructor
    · rintro ⟨htext, hdot, hdots⟩
      exact Or.inl ⟨htext, hdot, hdots⟩
    · rintro (hstated | ⟨body, -, hsplit⟩)
      · exact ⟨hstated.text, hstated.ne_dot, hstated.ne_dots⟩
      · rw [hsplit, List.getLast?_concat] at hlast
        exact absurd rfl hlast

/-- The letters of an accepted name. -/
theorem letters_of_isRepoName (h : isRepoName name = true) :
    ∀ c ∈ name.toList, IsNameLetter c ∨ c = '\n' :=
  fun c hc => ((chars_of_isRepoName h).1 c hc).imp_left isNameChar_iff.1

theorem namesOneFolder_of_isRepoName (h : isRepoName name = true) : NamesOneFolder name where
  child t := by
    have hname := isName_of_isRepoName h
    have hnames : ∀ n ∈ [name], IsName n := fun _ hn => List.mem_singleton.1 hn ▸ hname
    have hfollow : t.follow [] [name] = .ok [name] :=
      FileTree.follow_last hname (fits_of_isRepoName h)
    have hresolve := t.resolve_joined hnames
    rwa [hfollow] at hresolve
  separators := by
    constructor
    · exact (isName_of_isRepoName h).slash
    · intro hmem
      rcases letters_of_isRepoName h _ hmem with hletter | hfeed
      · exact absurd hletter (by decide)
      · exact absurd hfeed (by decide)
  visible := by
    constructor
    · intro hvisible hfeed
      exact absurd (hvisible _ (lineFeed_mem hfeed)) (by decide)
    · intro hfeed c hc
      have hstated := (isRepoName_iff_stated.1 h).resolve_right hfeed
      exact visible_of_isNameLetter (hstated.text.letters c hc)

end Names

/-- A name is accepted exactly if it is a stated one or ends in a line feed behind name characters;
every other name is refused with an error that holds it. So the check follows the stated grammar for
exactly the names that do not end so. Accepted names lead to one folder each. -/
theorem checkRepoName_decides (name : String) :
    (checkRepoName name = .ok () ∧ (IsStatedName name ∨ EndsInLineFeed name) ∧
        NamesOneFolder name ∨
      checkRepoName name = .error (.repositoryName name) ∧ ¬ IsStatedName name ∧
        ¬ EndsInLineFeed name) ∧
    ((checkRepoName name = .ok () ↔ IsStatedName name) ↔ ¬ EndsInLineFeed name) := by
  have haccepts : checkRepoName name = .ok () ↔ IsStatedName name ∨ EndsInLineFeed name := by
    rw [← isRepoName_iff_stated, checkRepoName]
    split
    next h => exact iff_of_true rfl h
    next h => exact iff_of_false (fun hok => by cases hok) h
  constructor
  · by_cases h : isRepoName name = true
    · have hstated := isRepoName_iff_stated.1 h
      exact Or.inl ⟨haccepts.2 hstated, hstated, namesOneFolder_of_isRepoName h⟩
    · rw [isRepoName_iff_stated, not_or] at h
      refine Or.inr ⟨?_, h⟩
      rw [checkRepoName, if_neg (mt isRepoName_iff_stated.1 (not_or.2 h))]
  · rw [haccepts, or_iff_left_iff_imp]
    constructor
    · exact fun himp hfeed => (himp hfeed).lineFeed_notMem (lineFeed_mem hfeed)
    · exact fun hfeed h => absurd h hfeed

/-- A shop with a line feed behind its name is accepted, and the folder's name has the line feed. -/
theorem checkRepoName_lineFeed : checkRepoName "shop\n" = .ok () ∧ ¬ IsStatedName "shop\n" ∧
    (FileTree.resolve {} [] "shop\n").toOption = some ["shop\n"] ∧
    ∃ c ∈ "shop\n".toList, isControl c = true := by
  refine ⟨by decide, fun h => absurd h.lineFeed_notMem (by decide), ?_, '\n', by decide, by decide⟩
  decide +kernel

end RepoAtlas.Store
