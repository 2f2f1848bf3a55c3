import RepoAtlas.Doc.Json
import RepoAtlas.Fault
import RepoAtlas.Files.Tree
import RepoAtlas.Record.Snapshot

/-!
Where a snapshot lies and what its manifest says.
-/
namespace RepoAtlas.Store

/-! ### Names

Names of repositories, and the parts of folder names that refs become, hold letters, digits,
dots, underscores and hyphens only; a repository's name may be followed by one line feed.
-/

def isNameChar (c : Char) : Bool := c.isAlphanum || c == '.' || c == '_' || c == '-'

def maxNameLength : Nat := 100

/-- A text without the line feed at its end. -/
def withoutLineEnd (s : List Char) : List Char :=
  if s.getLast? = some '\n' then s.dropLast else s

def isRepoName (name : String) : Bool :=
  let body := withoutLineEnd name.toList
  !body.isEmpty && body.length ≤ maxNameLength && body.all isNameChar && name ≠ "." && name ≠ ".."

def checkRepoName (name : String) : Result Unit :=
  if isRepoName name then .ok () else .error (.repositoryName name)

def safeRefChars (s : List Char) : List Char := s.map (fun c => if isNameChar c then c else '_')

/-- A ref as part of a folder's name. -/
def safeRef (ref : String) : String := String.ofList (safeRefChars ref.toList)

theorem safeRefChars_idem (s : List Char) : safeRefChars (safeRefChars s) = safeRefChars s := by
  simp only [safeRefChars, List.map_map]
  apply List.map_congr_left
  intro c _
  by_cases h : isNameChar c = true
  · simp [h]
  · have : isNameChar '_' = true := by decide
    simp [h, this]

/-! ### Folders and manifests

Every snapshot has a folder of its own,
`<repository>/<ref type>-<ref>`, with a file per domain and the manifest.
-/

def folderName (refType ref : String) : String := refType ++ "-" ++ safeRef ref

/-- The folder of a snapshot as a path text. -/
def folderText (repo refType ref : String) : String := repo ++ "/" ++ folderName refType ref

def manifestName : String := "manifest.json"

def domainFile (domain : String) : String := domain ++ ".json"

/-- What a manifest says about its snapshot. Manifests come from files, so only the time is
known to be one. -/
structure Entry where
  ref : Doc
  refType : Doc := .text RefType.branch.text
  sha : Doc := .null
  capturedAt : Timestamp
  deriving Repr, Inhabited

def Entry.toDoc (e : Entry) : Doc :=
  .object [("ref", e.ref), ("ref_type", e.refType), ("sha", e.sha),
    ("captured_at", .text e.capturedAt.isoText)]

/-- Whether the entry is for the ref. -/
def Entry.isFor (e : Entry) (ref : String) : Bool :=
  match e.ref with
  | .text r => r == ref
  | _ => false

/-- The entry of a manifest; a record without ref or with an unreadable time has none. -/
def Entry.ofManifest? : Doc → Result (Option Entry)
  | .object ms =>
    match OrderedMap.lookup "ref" ms, OrderedMap.lookup "captured_at" ms with
    | some ref, some (.text time) =>
      match Timestamp.parse time with
      | .ok capturedAt => .ok (some
          { ref, capturedAt,
            refType := (OrderedMap.lookup "ref_type" ms).getD (.text RefType.branch.text),
            sha := (OrderedMap.lookup "sha" ms).getD .null })
      | .error _ => .ok none
    | some _, some _ => .error .wrongKind
    | _, _ => .ok none
  | _ => .error .wrongKind

/-- The manifest of a snapshot. -/
def manifestOf (s : Snapshot) : Doc :=
  .object [("repo", .text s.repo), ("ref", .text s.ref), ("ref_type", .text s.refType.text),
    ("sha", s.sha), ("captured_at", .text s.capturedAt.isoText),
    ("domains", .ofTexts s.domains)]

/-- The entry at a path; a manifest that is no JSON text has none. -/
def entryAt (t : FileTree) (path : Path) : Result (Option Entry) :=
  match t.find? path with
  | none => .ok none
  | some .folder => .error (.file .isADirectory)
  | some (.file content) =>
    match content.read with
    | .error _ => .ok none
    | .ok text =>
      match Json.decode? text with
      | some d => Entry.ofManifest? d
      | none => .ok none

end RepoAtlas.Store
