import RepoAtlas.Fault
import RepoAtlas.OrderedMap
import RepoAtlas.Text.Pieces

/-!
Trees of folders and files, kept as a map from paths to what stands there. A path is a list of
names from the root, which is always a folder. Every operation is described by what `find?` sees
afterwards.
-/
namespace RepoAtlas

abbrev Path := List String

inductive FileContent where
  | text (s : String)
  /-- Bytes that are not UTF-8. -/
  | undecodable
  deriving DecidableEq, Repr, Inhabited

/-- Line breaks of all three customs become line feeds. -/
def unifyBreaks : List Char → List Char
  | '\r' :: '\n' :: rest => '\n' :: unifyBreaks rest
  | '\r' :: rest => '\n' :: unifyBreaks rest
  | c :: rest => c :: unifyBreaks rest
  | [] => []

/-- The text of a file as readers see it. -/
def FileContent.read : FileContent → Result String
  | .text s => .ok (String.ofList (unifyBreaks s.toList))
  | .undecodable => .error .notText

inductive TreeItem where
  | folder
  | file (content : FileContent)
  deriving DecidableEq, Repr, Inhabited

structure FileTree where
  items : OrderedMap Path TreeItem := {}
  deriving Repr, Inhabited

namespace FileTree

variable (t : FileTree)

def find? (path : Path) : Option TreeItem :=
  if path.isEmpty then some .folder else t.items.get? path

def isFolder (path : Path) : Bool := t.find? path == some .folder

def put (path : Path) (item : TreeItem) : FileTree := ⟨t.items.insert path item⟩

/-- Takes away a folder or a file with all that is below it. -/
def erase (path : Path) : FileTree := ⟨⟨t.items.entries.filter (fun e => !path.isPrefixOf e.1)⟩⟩

theorem find?_put {path other : Path} (item : TreeItem) (h : other ≠ []) :
    (t.put path item).find? other = if other = path then some item else t.find? other := by
  simp [find?, put, h]

theorem lookup_filter_eq_none {p : Path → Bool} {k : Path} (h : p k = false)
    (entries : List (Path × TreeItem)) :
    OrderedMap.lookup k (entries.filter (fun e => p e.1)) = none := by
  induction entries with
  | nil => rfl
  | cons e rest ih =>
    by_cases he : p e.1 = true
    · have : e.1 ≠ k := fun hk => by simp [← hk, he] at h
      simp [he, OrderedMap.lookup, this, ih]
    · simp [he, ih]

theorem lookup_filter_eq_self {p : Path → Bool} {k : Path} (h : p k = true)
    (entries : List (Path × TreeItem)) :
    OrderedMap.lookup k (entries.filter (fun e => p e.1)) = OrderedMap.lookup k entries := by
  induction entries with
  | nil => rfl
  | cons e rest ih =>
    by_cases he : p e.1 = true
    · rw [List.filter_cons_of_pos (p := fun e : Path × TreeItem => p e.1) he]
      simp [OrderedMap.lookup, ih]
    · have : e.1 ≠ k := fun hk => he (hk ▸ h)
      simp [he, OrderedMap.lookup, this, ih]

theorem find?_erase {path other : Path} (h : other ≠ []) :
    (t.erase path).find? other = if path <+: other then none else t.find? other := by
  simp only [find?, erase, List.isEmpty_iff, h, if_false, OrderedMap.get?]
  by_cases hp : path <+: other
  · simp only [hp, if_true]
    exact lookup_filter_eq_none (p := fun q => !path.isPrefixOf q) (by simp [hp]) _
  · simp only [hp, if_false]
    have : path.isPrefixOf other = false := by
      cases hb : path.isPrefixOf other with
      | false => rfl
      | true => exact absurd (List.isPrefixOf_iff_prefix.1 hb) hp
    exact lookup_filter_eq_self (p := fun q => !path.isPrefixOf q) (by simp [this]) _

/-- The names directly below a folder, in the order of their creation. -/
def children (path : Path) : List String :=
  t.items.keys.filterMap (fun p =>
    if p.dropLast == path then p.getLast? else none)

/-- The files below a folder by their paths from there. -/
def filesBelow (path : Path) : List (Path × FileContent) :=
  t.items.entries.filterMap (fun (p, item) =>
    match item with
    | .file content => if path.isPrefixOf p then some (p.drop path.length, content) else none
    | .folder => none)

/-! ### Paths as texts -/

/-- Longer names are refused. -/
def maxNameBytes : Nat := 255

/-- The names of a path text; empty names and lone dots do not count. -/
def pathParts (text : String) : List String :=
  ((Text.splitAt '/' text.toList).filter (fun p => !p.isEmpty && p != ['.'])).map String.ofList

/-- The last name of a path text, empty if there is none. -/
def lastName (text : String) : String := (pathParts text).getLast?.getD ""

/-- Follows names from a folder. All but the last must lead to folders, and `..` leads back. -/
def follow (here : Path) : List String → Except FileFault Path
  | [] => .ok here
  | name :: rest =>
    if maxNameBytes < name.utf8ByteSize then .error .nameTooLong
    else
      let next := if name = ".." then here.dropLast else here ++ [name]
      if rest.isEmpty then .ok next
      else match t.find? next with
        | some .folder => follow next rest
        | some (.file _) => .error .notADirectory
        | none => .error .missing

/-- The place that a path text names, seen from a folder. -/
def resolve (here : Path) (text : String) : Result Path :=
  if text.toList.contains '\x00' then .error .nullInPath
  else
    let start := if text.toList.head? = some '/' then [] else here
    match t.follow start (pathParts text) with
    | .ok path => .ok path
    | .error why => .error (.file why)

/-- Whether something stands at a path; a path through a file and one that cannot be leads
nowhere. -/
def existsAt (here : Path) (text : String) : Result Bool :=
  match t.resolve here text with
  | .ok path => .ok (t.find? path).isSome
  | .error (.file .nameTooLong) => .error (.file .nameTooLong)
  | .error _ => .ok false

/-! ### Reading and writing -/

def readAt (path : Path) : Result String :=
  match t.find? path with
  | some (.file content) => content.read
  | some .folder => .error (.file .isADirectory)
  | none => .error (.file .missing)

/-- Writes a file into a folder that exists. -/
def writeAt (path : Path) (content : FileContent) : Result FileTree :=
  match t.find? path, t.find? path.dropLast with
  | some .folder, _ => .error (.file .isADirectory)
  | _, some .folder => .ok (t.put path (.file content))
  | _, some (.file _) => .error (.file .notADirectory)
  | _, none => .error (.file .missing)

/-- Makes a folder and those around it, as far as they are missing. -/
def makeFolders : Path → List String → FileTree → Result FileTree
  | _, [], t => .ok t
  | here, name :: rest, t =>
    let next := here ++ [name]
    if maxNameBytes < name.utf8ByteSize then .error (.file .nameTooLong)
    else match t.find? next with
    | some .folder => makeFolders next rest t
    | some (.file _) => .error (.file (if rest.isEmpty then .exists else .notADirectory))
    | none => makeFolders next rest (t.put next .folder)

def makeFolder (path : Path) : Result FileTree := makeFolders [] path t

/-- Takes away a folder with all that is below it. -/
def removeFolder (path : Path) : Result FileTree :=
  match t.find? path with
  | some .folder => .ok (t.erase path)
  | some (.file _) => .error (.file .notADirectory)
  | none => .error (.file .missing)

/-- Writes a file and makes the folders around it. -/
def place (path : Path) (content : FileContent) : Result FileTree := do
  (← t.makeFolder path.dropLast).writeAt path content

end FileTree

end RepoAtlas
