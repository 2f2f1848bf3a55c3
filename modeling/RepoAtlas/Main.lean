import RepoAtlas.CommandLine.Run
import Std.Time.DateTime

/-!
The program. It loads from the disk what a command may look at, runs the command, and writes back
what the command has changed.
-/
namespace RepoAtlas.Disk

open CommandLine

/-- The text of an absolute path. -/
def absolute (path : Path) : String := "/" ++ SourceWalk.pathText path

def contentOf (bytes : ByteArray) : FileContent :=
  match String.fromUTF8? bytes with
  | some s => .text s
  | none => .undecodable

/-- Adds what stands at a place of the disk to a tree, under the path given. -/
partial def load (place path : Path) (t : FileTree) : IO FileTree := do
  let here ← IO.FS.realPath (absolute place)
  if ← here.isDir then
    let mut t := if path.isEmpty then t else t.put path .folder
    for entry in ← here.readDir do
      t ← load (place ++ [entry.fileName]) (path ++ [entry.fileName]) t
    return t
  else return t.put path (.file (contentOf (← IO.FS.readBinFile here)))

/-- What an action yields, or a given value if it fails. -/
def orElse {α : Type} (fallback : α) (action : IO α) : IO α := do
  try action catch _ => return fallback

/-- The place of the disk that a path text names. -/
def locate (path : String) : IO Path := do
  return FileTree.pathParts (← IO.FS.realPath path).toString

/-- Brings the disk below a place from one tree to another. -/
def sync (place : Path) (old new : FileTree) : IO Unit := do
  for (path, item) in old.items.entries.reverse do
    if (new.find? path).isNone then
      match item with
      | .file _ => IO.FS.removeFile (absolute (place ++ path))
      | .folder => IO.FS.removeDirAll (absolute (place ++ path))
  for (path, item) in new.items.entries do
    if old.find? path != some item then
      match item with
      | .folder => IO.FS.createDirAll (absolute (place ++ path))
      | .file (.text s) =>
        IO.FS.createDirAll (absolute (place ++ path.dropLast))
        IO.FS.writeFile (absolute (place ++ path)) s
      | .file .undecodable => pure ()

/-- The folder that keeps snapshots and settings. -/
def home : IO Path := do
  match ← IO.getEnv "ECOGRAPH_HOME" with
  | some path => return FileTree.pathParts path
  | none => return FileTree.pathParts ((← IO.getEnv "HOME").getD "/" ++ "/.ecograph")

def settingsName : String := "config.toml"

def storeName : String := "snapshots"

/-- The path that a command reads, and the one that it writes. -/
def pathsOf : Command → Option String × Option String
  | .snapshot (.extract o) => (some o.path, none)
  | .analyze (.ecosystem _ _ _ dotFile) _ => (none, dotFile)
  | _ => (none, none)

def folderOf (path : String) : String :=
  String.ofList ((path.toList.reverse.dropWhile (· ≠ '/')).reverse ++ ['.'])

/-- The files that a command may look at. -/
def filesFor (c : Command) (folder : Path) : IO FileTree := do
  let withFolder := fun (t : FileTree) (path : Path) => ((t.makeFolder path).toOption).getD t
  let t := withFolder {} folder
  let (source, written) := pathsOf c
  let t ← match source with
    | some path => orElse t (do
        let place ← locate path
        load place place (withFolder t place.dropLast))
    | none => pure t
  match written with
  | some path => orElse t (do return withFolder t (← locate (folderOf path)))
  | none => return t

/-- The time of the clock, in UTC. -/
def now : IO Timestamp := do
  let t := Std.Time.PlainDateTime.ofWallTime ((← Std.Time.Timestamp.now).toWallTime .zero)
  return { year := t.date.year.toInt.toNat, month := t.date.month.val.toNat,
           day := t.date.day.val.toNat, hour := t.time.hour.val.toNat,
           minute := t.time.minute.val.toNat, second := t.time.second.val.toNat,
           micro := t.time.nanosecond.val.toNat / 1000 }

/-- The width of a page if the terminal does not say. -/
def usualPage : Nat := 80

def deskFor (c : Command) (home : Path) : IO Desk := do
  let folder ← locate "."
  let files ← filesFor c folder
  let store ← orElse {} (load (home ++ [storeName]) [] {})
  let settings ← orElse {} (load (home ++ [settingsName]) [settingsName] {})
  let time ← now
  let page := ((← IO.getEnv "COLUMNS").bind String.toNat?).getD usualPage
  return { files, folder, store := ⟨store⟩, settings := ⟨settings.find? [settingsName]⟩,
           clock := { time := fun _ => time }, page }

def settingsTree (f : SettingsFile) : FileTree :=
  match f.item with
  | some item => FileTree.put {} [settingsName] item
  | none => {}

def runAll (args : List String) : IO UInt32 := do
  match Command.ofWords? args with
  | none =>
    IO.eprintln "Usage: ecograph [--version] [--verbose] (snapshot | analyze | config) COMMAND ..."
    return UInt32.ofNat Ending.misused.code
  | some c =>
    let home ← home
    let before ← deskFor c home
    let (outcome, after) := run args before
    sync [] before.files after.files
    sync (home ++ [storeName]) before.store.tree after.store.tree
    sync home (settingsTree before.settings) (settingsTree after.settings)
    IO.print outcome.output
    return UInt32.ofNat outcome.ending.code

end RepoAtlas.Disk

def main (args : List String) : IO UInt32 := RepoAtlas.Disk.runAll args
