import RepoAtlas.Report.BoxTable
import RepoAtlas.Settings.File
import RepoAtlas.Store.Writing

/-!
What commands work on, and the steps that they are made of. A command prints lines until it is
done or stops; what it has printed and changed by then remains.
-/
namespace RepoAtlas.CommandLine

/-- A clock: the time of each reading, and how many there have been. -/
structure Clock where
  time : Nat → Timestamp
  readings : Nat := 0

structure Desk where
  /-- Working trees, and the folder that relative paths begin at. -/
  files : FileTree := {}
  folder : Path := []
  store : Store := {}
  settings : SettingsFile := {}
  clock : Clock
  /-- The width of the page in cells. -/
  page : Nat := 200

/-- How a command ends. -/
inductive Ending where
  | done
  | failed
  | misused
  deriving DecidableEq, Repr

def Ending.code : Ending → Nat
  | .done => 0
  | .failed => 1
  | .misused => 2

/-- A command at work: its desk, and the lines that it has printed. -/
structure Session where
  desk : Desk
  printed : List String := []

/-- Steps of a command; an ending stops it. -/
abbrev Steps := ExceptT Ending (StateM Session)

namespace Steps

def say (line : String) : Steps Unit := modify (fun s => { s with printed := s.printed ++ [line] })

def sayAll (lines : List String) : Steps Unit := lines.forM say

def desk : Steps Desk := do return (← get).desk

def modifyDesk (f : Desk → Desk) : Steps Unit := modify (fun s => { s with desk := f s.desk })

/-- A fault stops the command. -/
def orFail {α : Type} : Result α → Steps α
  | .ok a => pure a
  | .error _ => throw .failed

/-- A bad value is a misuse; every other fault just stops the command. -/
def orMisuse {α : Type} : Result α → Steps α
  | .ok a => pure a
  | .error f => throw (if f.isBadValue then .misused else .failed)

/-- Something that must be there. -/
def given {α : Type} (ending : Ending) : Option α → Steps α
  | some a => pure a
  | none => throw ending

/-- Prints marked-up text, with lines as wide as the page at most. -/
def sayMarked (text : String) : Steps Unit := do
  let plain ← given .failed (Report.Markup.plain? text)
  sayAll ((Report.wrap (← desk).page .fold .loose plain).map String.ofList)

def sayTable (t : Report.BoxTable) : Steps Unit := do
  let plain ← given .failed t.unmarked?
  sayAll (plain.lines (← desk).page)

def readClock : Steps Timestamp := do
  let d ← desk
  modifyDesk (fun d => { d with clock := { d.clock with readings := d.clock.readings + 1 } })
  return d.clock.time d.clock.readings

/-- A change of the store. -/
def changeStore {α : Type} (c : Store.Change α) : Steps (Result α) := do
  let (answer, store) := c.run (← desk).store
  modifyDesk (fun d => { d with store })
  return answer

/-- A change of the settings file. -/
def changeSettings (c : SettingsFile → Result Bool × SettingsFile) : Steps Bool := do
  let (answer, settings) := c (← desk).settings
  modifyDesk (fun d => { d with settings })
  orFail answer

end Steps

end RepoAtlas.CommandLine
