import RepoAtlas.Atlas.Queries
import RepoAtlas.Calls.FlowDiagram
import RepoAtlas.Calls.Impact
import RepoAtlas.CommandLine.Command
import RepoAtlas.Diff.Report
import RepoAtlas.Doc.Json
import RepoAtlas.Report.BoxTable
import RepoAtlas.Topology.Report
import RepoAtlas.Types.ClassDiagram
import RepoAtlas.Types.FlowDiagram

/-!
What an analysis prints: a text or a table with a note below it, or a JSON document.
-/
namespace RepoAtlas.CommandLine

open RepoAtlas.Text

inductive Printout where
  | text (body : List String) (note : Option String := none)
  | table (t : Report.BoxTable)

namespace Printout

def line (s : String) : Printout := .text [s]

def json (d : Doc) : Printout := line (Json.encode d)

/-! ### Types -/

/-- A definition with the repository that it is from. -/
def typeDoc (i : Types.Instance) : Doc :=
  .object (("repo", .text i.repo) :: (i.type.toDoc.members?).getD [])

def typeRow (i : Types.Instance) : List String :=
  [i.repo, i.type.name, i.type.kind.text, toString i.type.fields.length,
    i.type.file ++ ":" ++ toString i.type.line]

def typeTable (found : List Types.Instance) : Report.BoxTable :=
  { title := some ("🧩 Types (" ++ toString found.length ++ ")"),
    columns := [⟨"Repo", .left⟩, ⟨"Type", .left⟩, ⟨"Kind", .left⟩, ⟨"Fields", .right⟩,
      ⟨"Location", .left⟩],
    rows := found.map typeRow }

def ofTypes (asJson : Bool) (found : List Types.Instance) : Printout :=
  if asJson then json (.list (found.map typeDoc))
  else if found.isEmpty then line "No matching types."
  else .table (typeTable found)

def ofSharedTypes (asJson : Bool) (found : List Types.Match) : Printout :=
  if asJson then json (.list (found.map Types.Match.toDoc))
  else line (Types.sharedTypesTable found)

def ofTypeFlow (asJson : Bool) (focus : String) (edges : List Types.FlowEdge) :
    Result Printout := do
  if asJson then return json (.list ((Types.focused edges focus).map Types.FlowEdge.toDoc))
  else return line (← Types.flowDiagram edges focus)

def counts (pairs : List (String × Nat)) : Doc :=
  .object (pairs.map (fun p => (p.1, .int p.2)))

def summaryDoc (s : Types.Summary) : Doc :=
  .object [("by_kind", counts s.byKind), ("by_language", counts s.byLanguage),
    ("by_module", counts s.byModule), ("total_types", .int s.types),
    ("total_relationships", .int s.relationships), ("total_calls", .int s.calls)]

def moduleDoc (m : TypeModule) : Doc :=
  .object [("path", .text m.path), ("types", .int m.types.length),
    ("internal", .int m.inner.length), ("external", .int m.outer.length)]

def relationshipsDoc (facts : TypeFacts) : Doc :=
  .object [("summary", summaryDoc (Types.summarize facts)),
    ("relationships", .list (facts.relationships.map Relationship.toDoc)),
    ("modules", .list (facts.modules.map moduleDoc))]

def ofRelationships (asJson : Bool) (focus : String) (entitiesOnly : Bool) (facts : TypeFacts) :
    Printout :=
  if asJson then json (relationshipsDoc facts)
  else line (Types.classDiagram facts focus Types.usualMaxTypes entitiesOnly)

/-! ### Calls -/

def callsDoc (repo : String) (temporal : Bool) (v : Atlas.CallView) : Doc :=
  let t := v.traversal
  .object ([("repo", .text repo), ("ref", .text v.ref), ("seeds", .ofTexts t.seeds),
    ("nodes", .ofTexts t.nodes),
    ("edges", .list (t.edges.map (fun e =>
      .object [("caller", .text e.1), ("callee", .text e.2)]))),
    ("truncated_by", .ofOption (t.cut.map Calls.Cut.text))] ++
    if temporal then [("sequence", .list ((Calls.orderedCalls v.graph t).map CallEdge.toDoc))]
    else [])

def cutNote (cut : Calls.Cut) : String :=
  "[yellow]⚠️  Truncated by " ++ cut.text ++ " limit[/yellow]"

def callsText (temporal : Bool) (v : Atlas.CallView) : String :=
  if temporal then Calls.sequenceDiagram v.graph v.traversal
  else Calls.flowchart v.graph v.traversal

def ofCalls (asJson : Bool) (repo : String) (temporal : Bool) (v : Atlas.CallView) : Printout :=
  if asJson then json (callsDoc repo temporal v)
  else .text [callsText temporal v] (v.traversal.cut.map cutNote)

def surfaceDoc (s : Calls.Surface) : Doc :=
  .object [("function", .text s.function), ("file", .text s.file), ("chain", .ofTexts s.chain)]

def impactDoc (i : Calls.Impact) : Doc :=
  .object [("dependency", .text i.dependency), ("category", .text i.category.text),
    ("risk", .text i.risk.text), ("upstream_callers", .int i.callers),
    ("surfaces", .list (i.surfaces.map surfaceDoc))]

/-- How many dependencies there are of each risk. -/
def riskLine (found : List Calls.Impact) : String :=
  joinWith "  " (Calls.Risk.all.map (fun r =>
    r.glyph ++ " " ++ r.text ++ ": " ++ toString (found.countP (·.risk == r))))

def ofImpacts (asJson : Bool) (found : List Calls.Impact) : Printout :=
  if asJson then json (.list (found.map impactDoc))
  else .text (Calls.impactText found :: if found.isEmpty then [] else ["", riskLine found])

/-! ### The ecosystem -/

def missingNote (missing : List String) : Option String :=
  if missing.isEmpty then none
  else some ("[yellow]No data for: " ++ joinWith ", " missing ++ "[/yellow]")

def ofEcosystem (asJson diagram : Bool) (g : Topology.Ecosystem) : Result Printout := do
  if asJson then return json g.toDoc
  else
    let body ← if diagram then Topology.layerDiagram g else Topology.impactTable g
    return .text [body] (missingNote g.missing)

def ofDiff (asJson diagram : Bool) (e : Diff.EcosystemDiff) : Printout :=
  if asJson then json e.toDoc
  else line (if diagram then Diff.changeDiagram e else Diff.changeText e)

end Printout

end RepoAtlas.CommandLine
