import RepoAtlas.Proofs.Calls.Flowchart
import RepoAtlas.Proofs.Topology.LayerDiagram
import RepoAtlas.Proofs.Types.FlowDiagram

/-!
The three flowcharts are faithful. What is read back from their texts is what was drawn, up to the
identifiers, and no name can break them. The only charts that are not drawn are those with a number
that is too large.
-/
namespace RepoAtlas.Diagram

open RepoAtlas.Calls RepoAtlas.Topology RepoAtlas.Types

/-- The flowcharts of traversals, of type flows and of ecosystems show their nodes and their links
line by line, unless the mean confidence of a pair or the score of a repository is too large. -/
theorem flowcharts_show :
    (∀ (calls : List CallEdge) (seeds : List String) (direction : Direction)
      (maxDepth maxNodes hotspotDegree : Int) (t : Traversal),
      (Graph.ofCalls calls).traverse seeds direction maxDepth maxNodes = .ok t →
        t.edges.Nodup ∧ ∃ ids, Shows (flowchart (Graph.ofCalls calls) t hotspotDegree)
          (flowchartStatements (Graph.ofCalls calls) t hotspotDegree ids) (idOf ids) t.nodes
          t.edges []) ∧
    (∀ (edges : List FlowEdge) (focus : String), PairsUp (focused edges focus) ∧
      (((∃ pair ∈ (edgesByPair (focused edges focus)).entries, IsOverconfident pair.2) ∧
          flowDiagram edges focus = .error .tooLarge) ∨
        (∀ pair ∈ (edgesByPair (focused edges focus)).entries, ¬ IsOverconfident pair.2) ∧
          ∃ text ids, flowDiagram edges focus = .ok text ∧
            Shows text (flowStatements (focused edges focus) ids) (idOf ids)
              (endsOf (focused edges focus)) (edgesByPair (focused edges focus)).keys ["note"])) ∧
    ∀ g : Ecosystem, g.IsMade → (g.edges.map (fun e => (e.source, e.target, e.kind))).Nodup ∧
      (((∃ repo ∈ g.repos, Numeral.IsLong (g.score repo)) ∧
          layerDiagram g = .error .longNumber) ∨
        (∀ repo ∈ g.repos, ¬ Numeral.IsLong (g.score repo)) ∧
          ∃ text ids, layerDiagram g = .ok text ∧
            Shows text (layerStatements g ids) (idOf ids) g.repos
              (g.edges.map (fun e => (e.source, e.target))) reservedIds) := by
  refine ⟨?_, ?_, ?_⟩
  · intro calls seeds direction maxDepth maxNodes hotspotDegree t ht
    obtain ⟨honce, hedges, hends⟩ := traverse_sound ht
    exact ⟨hedges, shows_flowchart _ hotspotDegree honce hends⟩
  · exact fun edges focus => ⟨pairsUp _, flowDiagram_shows edges focus⟩
  · exact fun g h => ⟨h.isWhole.edges, layerDiagram_shows h.isWhole⟩

/-- A call between functions whose names are all quotes and brackets, and the shop and the bank. -/
theorem flowcharts_show_awkward_names :
    (∃ t ids, (Graph.ofCalls [⟨"\"]\n", "<end>", "", 0⟩]).traverse ["\"]\n"] = .ok t ∧
      t.nodes = ["\"]\n", "<end>"] ∧
      Shows (flowchart (Graph.ofCalls [⟨"\"]\n", "<end>", "", 0⟩]) t)
        (flowchartStatements (Graph.ofCalls [⟨"\"]\n", "<end>", "", 0⟩]) t defaultHotspotDegree ids)
        (idOf ids) t.nodes t.edges []) ∧
    ∃ g text ids, Ecosystem.build [("\"]\n", some (declaring ["<end>"]))] = .ok g ∧
      layerDiagram g = .ok text ∧
      Shows text (layerStatements g ids) (idOf ids) g.repos
        (g.edges.map (fun e => (e.source, e.target))) reservedIds := by
  obtain ⟨hcalls, -, hlayers⟩ := flowcharts_show
  constructor
  · obtain ⟨t, ht, hnodes⟩ : ∃ t, (Graph.ofCalls [⟨"\"]\n", "<end>", "", 0⟩]).traverse ["\"]\n"] =
        .ok t ∧ t.nodes = ["\"]\n", "<end>"] := ⟨_, rfl, by decide⟩
    obtain ⟨-, ids, hshows⟩ := hcalls _ _ _ _ _ defaultHotspotDegree t ht
    exact ⟨t, ids, ht, hnodes, hshows⟩
  · obtain ⟨g, hg, hscores⟩ := exists_build_score "\"]\n" "<end>" {} rfl
    obtain ⟨-, ⟨⟨repo, hrepo, hlong⟩, -⟩ | ⟨-, text, ids, htext, hshows⟩⟩ := hlayers g (.build hg)
    · rw [hscores.2 repo hrepo] at hlong
      exact absurd hlong (by rw [Numeral.IsLong]; decide +kernel)
    · exact ⟨g, text, ids, hg, htext, hshows⟩

/-- One edge that is all too sure has no flowchart, and neither has a repository that one service
makes all too important. -/
theorem not_flowcharts_drawn :
    flowDiagram [⟨"a", "T", "b", "T", 10 ^ 400, []⟩] = .error .tooLarge ∧
    ∃ g, Ecosystem.build [("a", some (declaring ["a"]))] [] {} 60 { services := 10 ^ 4300 } =
      .ok g ∧ layerDiagram g = .error .longNumber := by
  constructor
  · rcases flowDiagram_shows [⟨"a", "T", "b", "T", 10 ^ 400, []⟩] "" with ⟨-, hfails⟩ | ⟨hsmall, -⟩
    · exact hfails
    · have hlarge : IsOverconfident [⟨"a", "T", "b", "T", 10 ^ 400, []⟩] := by
        rw [IsOverconfident]
        decide +kernel
      exact absurd hlarge (hsmall (("a", "b"), _) List.mem_cons_self)
  · obtain ⟨g, hg, hrepo, hscores⟩ := exists_build_score "a" "a" { services := 10 ^ 4300 } rfl
    refine ⟨g, hg, ?_⟩
    rcases layerDiagram_shows (isWhole_of_build hg) with ⟨-, hfails⟩ | ⟨hshort, -⟩
    · exact hfails
    · have hlong : Numeral.IsLong (g.score "a") := by
        rw [hscores "a" hrepo, Numeral.IsLong]
        decide +kernel
      exact absurd hlong (hshort "a" hrepo)

end RepoAtlas.Diagram
