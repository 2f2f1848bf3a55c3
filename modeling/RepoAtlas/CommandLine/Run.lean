import RepoAtlas.CommandLine.Command
import RepoAtlas.CommandLine.Desk
import RepoAtlas.CommandLine.Printout
import RepoAtlas.CommandLine.Snapshots

/-!
Running the words of a command at a desk.
-/
namespace RepoAtlas.CommandLine

/-! ### Analyses

The atlas over the store and the settings of the desk is asked, and the
answer is printed. A miss is printed too and fails the command.
-/

open Steps RepoAtlas.Text

def print : Printout → Steps Unit
  | .text body note => do
    sayAll body
    match note with
    | some marked => sayMarked marked
    | none => pure ()
  | .table t => sayTable t

def sayMiss (n : NotFound) : Steps Unit := do
  sayMarked ("[red]❌ " ++ n.message ++ "[/red]")
  if !n.alternatives.isEmpty then
    sayMarked ("Did you mean: " ++ joinWith ", " n.alternatives)

def found {α : Type} : Except NotFound α → Steps α
  | .ok a => pure a
  | .error n => do
    sayMiss n
    throw .failed

/-- The answer to a question; a fault fails the command. -/
def answer {α : Type} (q : Query α) : Steps α := do found (← orFail q.run)

def atlas : Steps Atlas := do
  let d ← desk
  return { store := d.store, settings := ← orFail d.settings.settings }

/-- Writes a file of the desk. -/
def writeFile (path content : String) : Steps Unit := do
  let d ← desk
  let place ← orFail (d.files.resolve d.folder path)
  let files ← orFail (d.files.writeAt place (.text content))
  modifyDesk (fun d => { d with files })

/-- An ecosystem, drawn into a file too if one is named. -/
def ecosystem (a : Atlas) (focus ref : String) (dotFile : Option String) :
    Steps Topology.Ecosystem := do
  let graph ← answer (a.ecosystem [] ref focus)
  match dotFile with
  | some path => writeFile path (← orFail (Topology.dotDocument graph))
  | none => pure ()
  return graph

/-- A walk through a call graph; a bad bound or direction is a misuse. -/
def calls (a : Atlas) (repo : String) (query : Atlas.CallQuery) (ref : String) :
    Steps Atlas.CallView := do
  found (← orMisuse (a.callGraph repo query ref).run)

def printout (a : Atlas) (asJson : Bool) : Analysis → Steps Printout
  | .types repo query limit => do
    return .ofTypes asJson (← answer (a.searchTypes repo query limit))
  | .sharedTypes ref => do return .ofSharedTypes asJson (← orFail (a.sharedTypes [] ref))
  | .typeFlow focus minSimilarity => do
    orFail (Printout.ofTypeFlow asJson focus (← orFail (a.typeFlow [] "" minSimilarity)))
  | .relationships repo focus ref entitiesOnly => do
    return .ofRelationships asJson focus entitiesOnly (← answer (a.relationships repo focus ref))
  | .calls repo query ref temporal => do
    return .ofCalls asJson repo temporal (← calls a repo query ref)
  | .impactTree repo ref => do return .ofImpacts asJson (← answer (a.impactTree repo ref))
  | .ecosystem focus ref diagram dotFile => do
    orFail (Printout.ofEcosystem asJson diagram (← ecosystem a focus ref dotFile))
  | .diff fromRef toRef repo domain diagram => do
    return .ofDiff asJson diagram (← answer (a.diff fromRef toRef repo domain))

def runAnalysis (analysis : Analysis) (asJson : Bool) : Steps Unit := do
  print (← printout (← atlas) asJson analysis)

/-! ### Settings

Showing all of them, setting one, and going back to the defaults.
-/

open Steps

def sectionTable (name : String) (values : Section) : Report.BoxTable :=
  { title := if name.isEmpty then none else some name,
    columns := [{}, {}], hasHeader := false,
    rows := if values.entries.isEmpty then [["(empty)", ""]]
      else values.entries.map (fun v => [v.1, v.2.shown]) }

def listSettings : Steps Unit := do
  let settings ← orFail (← desk).settings.settings
  settings.sections.entries.forM (fun s => sayTable (sectionTable s.1 s.2))

/-- A key `section.name`, cut at its first point. -/
def keyParts? (key : String) : Option (String × String) :=
  let name := key.toList.takeWhile (· ≠ '.')
  let rest := key.toList.drop (name.length + 1)
  if name.isEmpty || rest.isEmpty then none else some (String.ofList name, String.ofList rest)

def isWhole : Doc → Bool
  | .int _ | .bool _ => true
  | _ => false

/-- A setting whose default is a whole number takes no other values. -/
def accepts (name key : String) (v : Doc) : Bool :=
  match Settings.defaults.value? name key with
  | some default => !isWhole default || isWhole v
  | none => true

def setValue (key value : String) : Steps Unit := do
  let (name, key) ← given .misused (keyParts? key)
  let v := Settings.valueOfText value
  if !accepts name key v then throw .misused
  if ← changeSettings (·.set name key v) then
    say ("Set " ++ name ++ "." ++ key ++ " = " ++ v.inner)
  else
    say "Could not write config file."
    throw .failed

def resetSettings : Steps Unit := do
  let _ ← changeSettings (·.reset)
  say "Settings reset to defaults."

def runSettings : SettingsCommand → Steps Unit
  | .list => listSettings
  | .set key value => setValue key value
  | .reset => resetSettings

/-! ### All commands -/

def versionText : String := "ecograph v0.1.0"

def runCommand : Command → Steps Unit
  | .version => Steps.say versionText
  | .snapshot c => runSnapshot c
  | .analyze a asJson => runAnalysis a asJson
  | .config c => runSettings c

/-- What a command has printed, and how it has ended. -/
structure Outcome where
  output : String
  ending : Ending
  deriving DecidableEq, Repr

def Session.output (s : Session) : String := String.join (s.printed.map (· ++ "\n"))

def endingOf : Except Ending Unit → Ending
  | .ok _ => .done
  | .error e => e

/-- What is left to see of a command; words that stand for no command are a misuse. -/
def run (ws : List String) (d : Desk) : Outcome × Desk :=
  match Command.ofWords? ws with
  | none => (⟨"", .misused⟩, d)
  | some c =>
    let (answer, s) := StateT.run (ExceptT.run (runCommand c)) { desk := d }
    (⟨s.output, endingOf answer⟩, s.desk)

theorem run_of_ofWords?_eq_none {ws : List String} (d : Desk) (h : Command.ofWords? ws = none) :
    run ws d = (⟨"", .misused⟩, d) := by
  simp [run, h]

end RepoAtlas.CommandLine
