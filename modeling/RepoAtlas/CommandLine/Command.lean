import RepoAtlas.Atlas.Queries
import RepoAtlas.CommandLine.Words
import RepoAtlas.Number.Numeral
import RepoAtlas.Record.Snapshot
import RepoAtlas.Store.Writing

/-!
The commands: capturing and keeping snapshots, analyses over them, and settings. Words that no
command understands stand for none.
-/
namespace RepoAtlas.CommandLine

structure ExtractOptions where
  path : String
  /-- Empty for the name of the folder. -/
  repo : String := ""
  ref : String := "main"
  refType : RefType := .branch
  sha : Option String := none
  deriving Repr

inductive SnapshotCommand where
  | extract (o : ExtractOptions)
  | list (repo : Option String)
  | delete (repo : String) (ref : Option String)
  | prune (repo : String) (keep : Int)

/-- An analysis; an empty text stands for an option that is not given. -/
inductive Analysis where
  | types (repo : String) (query : Types.Query) (limit : Int)
  | sharedTypes (ref : String)
  | typeFlow (focus : String) (minSimilarity : Option Int)
  | relationships (repo focus ref : String) (entitiesOnly : Bool)
  | calls (repo : String) (query : Atlas.CallQuery) (ref : String) (temporal : Bool)
  | impactTree (repo ref : String)
  | ecosystem (focus ref : String) (diagram : Bool) (dotFile : Option String)
  | diff (fromRef toRef repo domain : String) (diagram : Bool)

inductive SettingsCommand where
  | list
  | set (key value : String)
  | reset

inductive Command where
  | version
  | snapshot (c : SnapshotCommand)
  | analyze (a : Analysis) (asJson : Bool)
  | config (c : SettingsCommand)

/-! ### Options -/

def valued (long : String) (letter : Option Char := none) : OptionForm := { long, letter }

def flag (long : String) (letter : Option Char := none) : OptionForm :=
  { long, letter, hasValue := false }

/-- The value of an option that must be a whole number, if it is given. -/
def Words.whole? (w : Words) (long : String) : Option (Option Int) :=
  match w.value? long with
  | none => some none
  | some text => (Numeral.readInt? text.toList).map some

def checkedRepo? (repo : String) : Option String := (Store.checkRepoName repo).toOption.map (fun _ => repo)

/-! ### Snapshots -/

def extract? (ws : List String) : Option SnapshotCommand := do
  let w ← Words.read? [valued "--repo" 'r', valued "--ref", flag "--tag", valued "--sha"] false ws
  match w.operands with
  | [path] => some (.extract
      { path, repo := w.text "--repo", ref := w.text "--ref" "main",
        refType := if w.has "--tag" then .tag else .branch, sha := w.value? "--sha" })
  | _ => none

def snapshot? : List String → Option SnapshotCommand
  | "extract" :: ws => extract? ws
  | "list" :: ws => do
    match (← Words.read? [] false ws).operands with
    | [] => some (.list none)
    | [repo] => return .list (← checkedRepo? repo)
    | _ => none
  | "delete" :: ws => do
    let w ← Words.read? [valued "--ref"] false ws
    match w.operands with
    | [repo] => return .delete (← checkedRepo? repo) (w.value? "--ref")
    | _ => none
  | "prune" :: ws => do
    let w ← Words.read? [valued "--keep"] false ws
    let keep := (← w.whole? "--keep").getD Store.defaultKeep
    match w.operands with
    | [repo] => if keep < 1 then none else return .prune (← checkedRepo? repo) keep
    | _ => none
  | _ => none

/-! ### Analyses -/

/-- Words of an analysis with the given number of operands. -/
def analysisWords? (forms : List OptionForm) (operands : Nat) (ws : List String) :
    Option Words := do
  let w ← Words.read? (flag "--json" :: forms) false ws
  if w.operands.length = operands then some w else none

def types? (ws : List String) : Option (Analysis × Words) := do
  let w ← analysisWords? [valued "--repo" 'r', valued "--name" 'n', valued "--kind" 'k',
    valued "--limit"] 0 ws
  let query : Types.Query := { name := w.text "--name", kind := w.text "--kind" }
  some (.types (w.text "--repo") query ((← w.whole? "--limit").getD Atlas.searchLimit), w)

def relationships? (ws : List String) : Option (Analysis × Words) := do
  let w ← analysisWords? [valued "--type" 't', flag "--entities", valued "--ref"] 1 ws
  let repo ← w.operands.head?
  some (.relationships repo (w.text "--type") (w.text "--ref") (w.has "--entities"), w)

def calls? (ws : List String) : Option (Analysis × Words) := do
  let w ← analysisWords? [valued "--function" 'f', valued "--direction" 'd', valued "--depth",
    valued "--max-nodes", flag "--temporal", valued "--ref"] 1 ws
  let repo ← w.operands.head?
  let query : Atlas.CallQuery :=
    { function := w.text "--function",
      direction := w.text "--direction" Calls.Direction.callees.text,
      maxDepth := ← w.whole? "--depth", maxNodes := ← w.whole? "--max-nodes" }
  some (.calls repo query (w.text "--ref") (w.has "--temporal"), w)

def ecosystem? (ws : List String) : Option (Analysis × Words) := do
  let w ← analysisWords? [valued "--focus" 'f', valued "--ref", flag "--mermaid",
    valued "--dot"] 0 ws
  some (.ecosystem (w.text "--focus") (w.text "--ref") (w.has "--mermaid") (w.value? "--dot"), w)

def diff? (ws : List String) : Option (Analysis × Words) := do
  let w ← analysisWords? [valued "--repo" 'r', valued "--domain", flag "--mermaid"] 2 ws
  match w.operands with
  | [fromRef, toRef] =>
    some (.diff fromRef toRef (w.text "--repo") (w.text "--domain") (w.has "--mermaid"), w)
  | _ => none

def analysis? : List String → Option (Analysis × Words)
  | "types" :: ws => types? ws
  | "shared-types" :: ws => do
    let w ← analysisWords? [valued "--ref"] 0 ws
    some (.sharedTypes (w.text "--ref"), w)
  | "type-flow" :: ws => do
    let w ← analysisWords? [valued "--focus" 'f', valued "--min-similarity"] 0 ws
    some (.typeFlow (w.text "--focus") (← w.whole? "--min-similarity"), w)
  | "relationships" :: ws => relationships? ws
  | "calls" :: ws => calls? ws
  | "impact-tree" :: ws => do
    let w ← analysisWords? [valued "--ref"] 1 ws
    some (.impactTree (← w.operands.head?) (w.text "--ref"), w)
  | "ecosystem" :: ws => ecosystem? ws
  | "diff" :: ws => diff? ws
  | _ => none

/-! ### Settings -/

def settings? : List String → Option SettingsCommand
  | "show" :: ws => do if (← Words.read? [] false ws).operands.isEmpty then some .list else none
  | "set" :: ws => do
    match (← Words.read? [] false ws).operands with
    | [key, value] => some (.set key value)
    | _ => none
  | "reset" :: ws => do
    if (← Words.read? [] false ws).operands.isEmpty then some .reset else none
  | _ => none

/-! ### Commands -/

/-- The words of a group of commands: its name's options, none, and what follows them. -/
def groupWords? (ws : List String) : Option (List String) :=
  (Words.read? [] true ws).map (·.operands)

def ofGroup? : List String → Option Command
  | "snapshot" :: ws => do return .snapshot (← snapshot? (← groupWords? ws))
  | "analyze" :: ws => do
    let (a, w) ← analysis? (← groupWords? ws)
    some (.analyze a (w.has "--json"))
  | "config" :: ws => do return .config (← settings? (← groupWords? ws))
  | _ => none

/-- The command that words stand for. The version is shown whatever follows. -/
def Command.ofWords? (ws : List String) : Option Command := do
  let w ← Words.read? [flag "--version" 'v', flag "--verbose", flag "--help"] true ws
  match w.options.find? (fun o => o.1 == "--version" || o.1 == "--help") with
  | some (name, _) => if name = "--version" then some .version else none
  | none => ofGroup? w.operands

end RepoAtlas.CommandLine
