import RepoAtlas.Files.Tree
import RepoAtlas.Settings.Basic
import RepoAtlas.Toml.Reader
import RepoAtlas.Toml.Writer

/-!
The file that settings are kept in. A file that is missing, cannot be read or does not parse
holds no settings.
-/
namespace RepoAtlas

/-- What stands at the place of the settings file. -/
structure SettingsFile where
  item : Option TreeItem := none
  deriving Repr, Inhabited

namespace SettingsFile

/-- The tables in the file. -/
def tables (f : SettingsFile) : Result (List (String × Doc)) :=
  match f.item with
  | some (.file content) => do
    let text ← content.read
    match Toml.decode text with
    | .error .settingsForm => return []
    | answer => answer
  | _ => .ok []

/-- Writes tables to the file; false if there is a folder in its place. A file whose tables
cannot be written is left empty. -/
def write (f : SettingsFile) (tables : List (String × Doc)) : Result Bool × SettingsFile :=
  match f.item with
  | some .folder => (.ok false, f)
  | _ =>
    match Toml.encode tables with
    | .ok text => (.ok true, ⟨some (.file (.text text))⟩)
    | .error why => (.error why, ⟨some (.file (.text ""))⟩)

/-- The tables with one value set; a value that is no table has no members to set. -/
def withValue (tables : List (String × Doc)) (name key : String) (v : Doc) :
    Result (List (String × Doc)) :=
  match (OrderedMap.lookup name tables).getD (.object []) with
  | .object ms =>
    .ok ((OrderedMap.mk tables).insert name
      (.object ((OrderedMap.mk ms).insert key v).entries)).entries
  | _ => .error .wrongKind

/-- Sets one value and leaves the others as they are. -/
def set (f : SettingsFile) (name key : String) (v : Doc) : Result Bool × SettingsFile :=
  match f.tables.bind (withValue · name key v) with
  | .ok tables => f.write tables
  | .error why => (.error why, f)

/-- Drops everything in the file. -/
def reset (f : SettingsFile) : Result Bool × SettingsFile := f.write []

/-- The default settings with the tables of the file laid over them. -/
def settings (f : SettingsFile) : Result Settings := do
  return Settings.defaults.overlayAll (← f.tables)

end SettingsFile

/-- The value that a text stands for: a truth value, a number, or the text itself. -/
def Settings.valueOfText (raw : String) : Doc :=
  let word := Text.lower (Text.trimWhile Text.isBlank raw.toList)
  if word = "true".toList then .bool true
  else if word = "false".toList then .bool false
  else match Numeral.readInt? raw.toList with
    | some i => .int i
    | none =>
      match Numeral.readFloat? raw.toList with
      | some x => .float x
      | none => .text raw

end RepoAtlas
