import Mathlib
import RepoAtlas.Proofs.Atlas.Questions
import RepoAtlas.Proofs.Calls.Flowchart
import RepoAtlas.Proofs.CommandLine.Steps
import RepoAtlas.Proofs.Settings.WrittenText

/-!
The flowchart that is printed for a walk through a call graph. It is drawn with the bound on
hotspots that holds without settings, and the bound that is set decides nothing.
-/
namespace RepoAtlas

/-! ### The bound that is set -/

namespace Settings

/-- The settings with one value set. -/
def withValue (s : Settings) (name key : String) (v : Doc) : Settings := s.overlay name [(key, v)]

theorem value?_withValue (s : Settings) (name key : String) (v : Doc) (name' key' : String) :
    (s.withValue name key v).value? name' key' =
      if name' = name ∧ key' = key then some v else s.value? name' key' := by
  rw [value?, section?, withValue, get?_overlay]
  by_cases hname : name' = name
  · rw [if_pos hname, hname, Option.getD_some, value?]
    have hone : ((s.section? name).insertAll [(key, v)]).get? key' =
      if key' = key then some v else (s.section? name).get? key' := OrderedMap.get?_insert _ _ _ _
    simp only [hone, true_and]
  · rw [if_neg hname, if_neg (fun h => hname h.1)]
    rfl

theorem hotspotDegree_of_value? {s : Settings} {bound : Int}
    (h : s.value? "impact" "hotspot_degree" = some (.int bound)) : s.hotspotDegree = .ok bound := by
  rw [hotspotDegree, atMost, h, whole, h]
  rfl

end Settings

namespace Atlas

/-- What a walk begins at does not hang on the bound. -/
theorem seeds_anyBound (calls : List CallEdge) (bound bound' : Int) (function : String) :
    seeds (.ofCalls calls) bound function = seeds (.ofCalls calls) bound' function := by
  have hentry : ∀ n, ((Calls.Graph.ofCalls calls).classOf n bound == .entry) =
      ((Calls.Graph.ofCalls calls).classOf n bound' == .entry) := by
    intro n
    rw [Bool.eq_iff_iff, beq_iff_eq, beq_iff_eq, Calls.classOf_eq_entry_iff,
      Calls.classOf_eq_entry_iff]
  rw [seeds, seeds]
  simp only [hentry]

/-- The bound on hotspots that is set decides nothing about a walk. -/
theorem callGraph_anyBound (store : Store) {settings : Settings} {bound : Int}
    (h : settings.value? "impact" "hotspot_degree" = some (.int bound)) (bound' : Int)
    (repo : String) (query : CallQuery) (ref : String) :
    Atlas.callGraph
        ⟨store, settings.withValue "impact" "hotspot_degree" (.int bound')⟩ repo query ref =
      Atlas.callGraph ⟨store, settings⟩ repo query ref := by
  have hdegree := Settings.hotspotDegree_of_value? h
  have hdegree' : (settings.withValue "impact" "hotspot_degree" (.int bound')).hotspotDegree =
      .ok bound' :=
    Settings.hotspotDegree_of_value? (by rw [Settings.value?_withValue]; rfl)
  have hother : ∀ key n, key ≠ "hotspot_degree" →
      boundOr (settings.withValue "impact" "hotspot_degree" (.int bound')) key n =
        boundOr settings key n := by
    intro key n hkey
    have hvalue : (settings.withValue "impact" "hotspot_degree" (.int bound')).value? "impact" key =
        settings.value? "impact" key := by
      rw [Settings.value?_withValue, if_neg (fun heq => hkey heq.2)]
    cases n with
    | none => rw [boundOr, boundOr, Settings.whole, Settings.whole, hvalue]
    | some n => rfl
  rw [callGraph, callGraph, callGraphOf, callGraphOf]
  dsimp only
  rw [hdegree, hdegree', hother "max_depth" _ (by decide), hother "max_nodes" _ (by decide)]
  refine bind_congr fun facts => ?_
  rw [Query.lift_ok_bind, Query.lift_ok_bind, seeds_anyBound facts.calls bound' bound]

end Atlas

/-! ### The view -/

/-- A view shows a walk through the graph of the stored calls. -/
theorem Atlas.exists_of_callGraph {a : Atlas} {repo ref : String} {query : CallQuery} {v : CallView}
    (h : (a.callGraph repo query ref).run = .ok (.ok v)) :
    ∃ facts seeds direction depth room, (a.store.source.typeFacts repo ref).run = .ok (.ok facts) ∧
      v.graph = .ofCalls facts.calls ∧
      v.graph.traverse seeds direction depth room = .ok v.traversal := by
  rw [callGraph, callGraphOf, Query.run_bind_eq_ok_iff] at h
  obtain ⟨facts, hfacts, h⟩ := h
  obtain ⟨bound, -, h⟩ := Query.run_bind_eq_ok_iff.1 h
  obtain ⟨seeds, -, h⟩ := Query.run_bind_eq_ok_iff.1 h
  obtain ⟨direction, -, h⟩ := Query.run_bind_eq_ok_iff.1 h
  obtain ⟨depth, -, h⟩ := Query.run_bind_eq_ok_iff.1 h
  obtain ⟨room, -, h⟩ := Query.run_bind_eq_ok_iff.1 h
  obtain ⟨traversal, htraversal, h⟩ := Query.run_bind_eq_ok_iff.1 h
  have hview : v.graph = .ofCalls facts.calls ∧ v.traversal = traversal := by
    dsimp only at h
    split at h
    all_goals
      obtain ⟨name, -, h⟩ := Query.run_bind_eq_ok_iff.1 h
      cases h
      exact ⟨rfl, rfl⟩
  rw [hview.1, hview.2]
  exact ⟨facts, seeds, direction, depth, room, hfacts, rfl, Query.run_lift_eq_ok_iff.1 htraversal⟩

namespace CommandLine

open Steps Calls Diagram

/-! ### Printing -/

/-- What is printed below a chart, if it is not the whole of what can be reached. -/
def noteLines (page : Nat) : Option Cut → List String
  | none => []
  | some cut =>
    (Report.wrap page .fold .loose ("⚠️  Truncated by " ++ cut.text ++ " limit")).map String.ofList

def noteText (page : Nat) (cut : Option Cut) : String :=
  String.join ((noteLines page cut).map (· ++ "\n"))

theorem noteText_none (page : Nat) : noteText page none = "" := rfl

theorem plain?_cutNote (cut : Cut) : Report.Markup.plain? (Printout.cutNote cut) =
    some ("⚠️  Truncated by " ++ cut.text ++ " limit") := by
  cases cut <;> decide +kernel

/-- A chart is printed with the note below it. -/
theorem outcome_print_ofCalls (repo : String) (v : Atlas.CallView) (s : Session) :
    outcome (print (.ofCalls false repo false v)) s =
      (.ok (), s.say (flowchart v.graph v.traversal ::
        noteLines s.desk.page v.traversal.cut)) := by
  have hbody : outcome (sayAll [Printout.callsText false v]) s =
      (.ok (), s.say [flowchart v.graph v.traversal]) := outcome_sayAll _ s
  have hprint : print (.ofCalls false repo false v) =
      (sayAll [Printout.callsText false v] >>= fun _ => match v.traversal.cut with
        | some cut => sayMarked (Printout.cutNote cut)
        | none => pure ()) := by
    rw [Printout.ofCalls]
    cases v.traversal.cut <;> rfl
  rw [hprint, outcome_bind_ok hbody]
  cases v.traversal.cut with
  | none => rfl
  | some cut =>
    simp only [outcome_sayMarked, pageLines?, plain?_cutNote, noteLines, Option.map_some]
    simp [Session.say]

/-- How a walk is asked for: it is answered, missed or refused. -/
theorem outcome_calls (a : Atlas) (repo : String) (query : Atlas.CallQuery) (ref : String)
    (s : Session) : match (a.callGraph repo query ref).run with
      | .error fault => outcome (CommandLine.calls a repo query ref) s =
          (.error (if fault.isBadValue then .misused else .failed), s)
      | .ok (.error _) => ∃ t, outcome (CommandLine.calls a repo query ref) s =
          (.error .failed, t) ∧ t.desk = s.desk
      | .ok (.ok v) => outcome (CommandLine.calls a repo query ref) s = (.ok v, s) := by
  rw [CommandLine.calls, outcome_bind, outcome_orMisuse]
  rcases (a.callGraph repo query ref).run with fault | miss | v
  · rfl
  · exact outcome_found_miss miss s
  · exact outcome_pure v s

/-- How the command ends: with the chart and the note below it, or without anything done. -/
theorem run_calls {ws : List String} {d : Desk} {repo ref : String} {query : Atlas.CallQuery}
    {settings : Settings}
    (hwords : Command.ofWords? ws = some (.analyze (.calls repo query ref false) false))
    (hsettings : d.settings.settings = .ok settings) :
    match (Atlas.callGraph { store := d.store, settings } repo query ref).run with
    | .error fault => run ws d = (⟨"", if fault.isBadValue then .misused else .failed⟩, d)
    | .ok (.error _) => (run ws d).1.ending = .failed ∧ (run ws d).2 = d
    | .ok (.ok v) => run ws d = (⟨flowchart v.graph v.traversal ++ "\n" ++
        noteText d.page v.traversal.cut, .done⟩, d) := by
  have hcalls := outcome_calls { store := d.store, settings } repo query ref { desk := d }
  have hsteps : runCommand (.analyze (.calls repo query ref false) false) =
      (atlas >>= fun a => (CommandLine.calls a repo query ref >>= fun v =>
        pure (Printout.ofCalls false repo false v)) >>= print) := rfl
  rw [run_of_ofWords? d hwords, hsteps, outcome_bind_ok (outcome_atlas hsettings)]
  generalize (Atlas.callGraph { store := d.store, settings } repo query ref).run = answer
    at hcalls ⊢
  rcases answer with fault | miss | v
  · rw [outcome_bind_error (outcome_bind_error hcalls)]
    dsimp only [endingOf]
    split <;> rfl
  · obtain ⟨t, hcalls, hdesk⟩ := hcalls
    rw [outcome_bind_error (outcome_bind_error hcalls)]
    exact ⟨rfl, hdesk⟩
  · have hview : outcome (CommandLine.calls { store := d.store, settings } repo query ref >>=
        fun v => pure (Printout.ofCalls false repo false v)) { desk := d } =
          (.ok (Printout.ofCalls false repo false v), { desk := d }) := outcome_bind_ok hcalls
    rw [outcome_bind_ok hview, outcome_print_ofCalls]
    simp only [Session.say, Session.output, List.nil_append, List.map_cons, String.join_cons]
    rfl

/-! ### Hotspots -/

/-- The chart of a walk through stored calls marks hotspots under the bound that holds without
settings. -/
theorem exists_hotspots_of_callGraph {a : Atlas} {repo ref : String} {query : Atlas.CallQuery}
    {v : Atlas.CallView} (h : (a.callGraph repo query ref).run = .ok (.ok v)) :
    ∃ facts ids, (a.store.source.typeFacts repo ref).run = .ok (.ok facts) ∧
      v.graph = .ofCalls facts.calls ∧
      Shows (flowchart v.graph v.traversal)
        (flowchartStatements v.graph v.traversal defaultHotspotDegree ids) (idOf ids)
        v.traversal.nodes v.traversal.edges [] ∧
      hotspots (flowchart v.graph v.traversal) =
        (v.traversal.nodes.filter (IsHotspot facts.calls defaultHotspotDegree ·)).map
          (idOf ids) := by
  obtain ⟨facts, seeds, direction, depth, room, hfacts, hgraph, htraverse⟩ :=
    Atlas.exists_of_callGraph h
  rw [hgraph] at htraverse ⊢
  obtain ⟨honce, -, hends⟩ := traverse_sound htraverse
  obtain ⟨ids, hshows⟩ := shows_flowchart (.ofCalls facts.calls) defaultHotspotDegree honce hends
  exact ⟨facts, ids, hfacts, rfl, hshows, hotspots_flowchart hshows⟩

/-! ### A desk with a low bound -/

def lowSettings : Settings := Settings.defaults.withValue "impact" "hotspot_degree" (.int 1)

def lowFile : SettingsFile := ⟨some (.file (.text "[impact]\nhotspot_degree = 1\n"))⟩

/-- A shop with the calls. -/
def shopOf (calls : List CallEdge) : Snapshot where
  repo := "shop"
  ref := "main"
  capturedAt := { year := 2024, month := 1, day := 1 }
  facts := [(typeDomain, TypeFacts.toDoc { calls })]

/-- A desk with the shop in its store, where two neighbours make a hotspot. -/
def shopDesk (calls : List CallEdge) : Desk where
  store := ((Store.save (shopOf calls)).run {}).2
  settings := lowFile
  clock := { time := fun _ => default }

theorem settings_lowFile : lowFile.settings = .ok lowSettings := by
  have htables : lowFile.tables = .ok [("impact", .object [("hotspot_degree", .int 1)])] :=
    Settings.tables_of_readsBack (by decide +kernel)
  rw [SettingsFile.settings, htables]
  rfl

theorem value?_lowSettings : lowSettings.value? "impact" "hotspot_degree" = some (.int 1) := by
  rw [lowSettings, Settings.value?_withValue]
  rfl

/-- A function that is called once, and calls another one. -/
def chainCalls : List CallEdge :=
  [{ caller := "a", callee := "b" }, { caller := "b", callee := "c" }]

def chainWalk : Traversal where
  seeds := ["b"]
  direction := .callees
  found := [("b", 0), ("c", 1)]
  edges := [("b", "c")]
  cut := none

theorem walk_chain : (Graph.ofCalls chainCalls).traverse ["b"] .callees 5 50 = .ok chainWalk := rfl

def leaves : List String := ["a", "b", "c", "d", "e", "f", "g", "h", "i", "j", "k"]

/-- A function that is called once, and calls all the leaves. -/
def hubCalls : List CallEdge :=
  { caller := "main", callee := "hub" } :: leaves.map ({ caller := "hub", callee := · })

def hubWalk : Traversal where
  seeds := ["hub"]
  direction := .callees
  found := ("hub", 0) :: leaves.map (·, 1)
  edges := leaves.map ("hub", ·)
  cut := none

theorem walk_hub : (Graph.ofCalls hubCalls).traverse ["hub"] .callees 5 50 = .ok hubWalk := rfl

section ShopDesk

variable {calls : List CallEdge} (hspelt : (TypeFacts.toDoc { calls }).isSpelt = true)

include hspelt

theorem storable_shopOf : Store.Storable (shopOf calls) where
  repo := (Store.storable_capture "main" 0).repo
  names := List.nodup_singleton _
  files := by
    have hname : IsName (Store.domainFile typeDomain) ∧ Fits (Store.domainFile typeDomain) := by
      refine ⟨⟨?_, ?_, ?_, ?_, ?_⟩, ?_⟩ <;> decide
    exact List.forall_mem_singleton.2 hname
  payloads := List.forall_mem_singleton.2 hspelt
  sha := rfl
  time := (Store.storable_capture "main" 0).time

theorem facts_shopDesk :
    ((shopDesk calls).store.source.typeFacts "shop" "").run =
        .ok (.ok (Types.factsOf [] calls)) ∧
      (shopDesk calls).store.source.latestRef "shop" = .ok "main" := by
  have hfits : Fits (Store.folderName "branch" "main") := by decide
  exact typeFacts_saved (storable_shopOf hspelt) hfits rfl

/-- A walk from a function of the shop. -/
theorem callGraph_shopDesk {function : String} {t : Traversal} (hname : function.isEmpty = false)
    (hfind : (Graph.ofCalls calls).find function = [function])
    (hwalk : (Graph.ofCalls calls).traverse [function] .callees 5 50 = .ok t) :
    (Atlas.callGraph ⟨(shopDesk calls).store, lowSettings⟩ "shop" { function } "").run =
      .ok (.ok ⟨"main", .ofCalls calls, t⟩) := by
  obtain ⟨hfacts, href⟩ := facts_shopDesk hspelt
  have hdegree := Settings.hotspotDegree_of_value? value?_lowSettings
  have hdepth : Atlas.boundOr lowSettings "max_depth" none = .ok 5 := rfl
  have hroom : Atlas.boundOr lowSettings "max_nodes" none = .ok 50 := rfl
  rw [Atlas.callGraph, Atlas.callGraphOf, Query.run_bind_eq_ok_iff]
  refine ⟨_, hfacts, ?_⟩
  have hcalls : (Types.factsOf [] calls).calls = calls := rfl
  dsimp only
  have hseeds : ∀ bound, Atlas.seeds (.ofCalls calls) bound function = pure [function] := by
    intro bound
    rw [Atlas.seeds, hname, hfind]
    rfl
  have hdirection : Direction.ofText Direction.callees.text = .ok .callees := rfl
  rw [hcalls, hdegree, hdepth, hroom, hdirection, Query.lift_ok_bind, hseeds, pure_bind,
    Query.lift_ok_bind, Query.lift_ok_bind, Query.lift_ok_bind, hwalk, Query.lift_ok_bind, href]
  rfl

end ShopDesk

/-! ### What is marked -/

/-- Where a bound on hotspots is set, the walk that a command shows is the same for any other, and
its chart marks the functions that have more than ten neighbours. So the marks are those of the
bound exactly if no function of the chart but entries has a number of neighbours between the two. -/
theorem run_marks_hotspots {ws : List String} {d : Desk} {repo ref : String}
    {query : Atlas.CallQuery} {settings : Settings} {bound : Int}
    (hwords : Command.ofWords? ws = some (.analyze (.calls repo query ref false) false))
    (hsettings : d.settings.settings = .ok settings)
    (hbound : settings.value? "impact" "hotspot_degree" = some (.int bound)) :
    (∀ other, Atlas.callGraph ⟨d.store, settings.withValue "impact" "hotspot_degree" (.int other)⟩
      repo query ref = Atlas.callGraph ⟨d.store, settings⟩ repo query ref) ∧
    match (Atlas.callGraph ⟨d.store, settings⟩ repo query ref).run with
    | .error fault => run ws d = (⟨"", if fault.isBadValue then .misused else .failed⟩, d)
    | .ok (.error _) => (run ws d).1.ending = .failed ∧ (run ws d).2 = d
    | .ok (.ok v) => ∃ facts chart ids,
        (d.store.source.typeFacts repo ref).run = .ok (.ok facts) ∧
        v.graph = .ofCalls facts.calls ∧
        run ws d = (⟨chart ++ "\n" ++ noteText d.page v.traversal.cut, .done⟩, d) ∧
        Shows chart (flowchartStatements v.graph v.traversal 10 ids) (idOf ids)
          v.traversal.nodes v.traversal.edges [] ∧
        hotspots chart = (v.traversal.nodes.filter (IsHotspot facts.calls 10 ·)).map (idOf ids) ∧
        (hotspots chart =
            (v.traversal.nodes.filter (IsHotspot facts.calls bound ·)).map (idOf ids) ↔
          ∀ n ∈ v.traversal.nodes, ¬ IsEntry facts.calls n →
            ((10 : Int) < degree facts.calls n ↔ bound < degree facts.calls n)) := by
  refine ⟨fun other => Atlas.callGraph_anyBound d.store hbound other repo query ref, ?_⟩
  have hrun := run_calls hwords hsettings
  have hview := @exists_hotspots_of_callGraph ⟨d.store, settings⟩ repo ref query
  generalize (Atlas.callGraph ⟨d.store, settings⟩ repo query ref).run = answer at hrun hview ⊢
  rcases answer with fault | miss | v
  · exact hrun
  · exact hrun
  · obtain ⟨facts, ids, hfacts, hgraph, hshows, hmarks⟩ := hview rfl
    refine ⟨facts, _, ids, hfacts, hgraph, hrun, hshows, hmarks, ?_⟩
    rw [hmarks, hshows.apart.map_filter_eq_iff]
    exact forall₂_congr fun n _ => isHotspot_congr_iff

/-- A function that calls eleven others is marked, under the low bound as well. -/
theorem run_marks_hotspots_hub : ∃ chart ids,
    run ["analyze", "calls", "shop", "--function", "hub"] (shopDesk hubCalls) =
        (⟨chart ++ "\n", .done⟩, shopDesk hubCalls) ∧
      hotspots chart = (hubWalk.nodes.filter (IsHotspot hubCalls 1 ·)).map (idOf ids) ∧
      IsHotspot hubCalls 1 "hub" ∧ "hub" ∈ hubWalk.nodes := by
  have hwords : Command.ofWords? ["analyze", "calls", "shop", "--function", "hub"] =
      some (.analyze (.calls "shop" { function := "hub" } "" false) false) := by
    cbv
  have hspelt : (TypeFacts.toDoc { calls := hubCalls }).isSpelt = true := by decide +kernel
  have hfind : (Graph.ofCalls hubCalls).find "hub" = ["hub"] := by decide +kernel
  have hcall := callGraph_shopDesk hspelt (by decide) hfind walk_hub
  have hfacts := (facts_shopDesk hspelt).1
  have hsettings : (shopDesk hubCalls).settings.settings = .ok lowSettings := settings_lowFile
  have hview := (run_marks_hotspots hwords hsettings value?_lowSettings).2
  rw [hcall] at hview
  obtain ⟨facts, chart, ids, hstored, -, hrun, -, -, hmarks⟩ := hview
  rw [hfacts, Except.ok.injEq, Except.ok.injEq] at hstored
  have hcalls : facts.calls = hubCalls := by rw [← hstored]; rfl
  rw [hcalls] at hmarks
  simp only [show hubWalk.cut = none from rfl, noteText_none, String.append_empty] at hrun
  refine ⟨chart, ids, hrun, hmarks.2 ?_, by decide +kernel, by decide⟩
  simp only [degree_eq]
  decide +kernel

/-- A function with two neighbours is not marked where one neighbour is the bound. -/
theorem run_misses_hotspot :
    (shopDesk chainCalls).settings.settings = .ok lowSettings ∧
      lowSettings.value? "impact" "hotspot_degree" = some (.int 1) ∧
      ((shopDesk chainCalls).store.source.typeFacts "shop" "").run =
        .ok (.ok (Types.factsOf [] chainCalls)) ∧
      ∃ chart, run ["analyze", "calls", "shop", "--function", "b"] (shopDesk chainCalls) =
          (⟨chart ++ "\n", .done⟩, shopDesk chainCalls) ∧
        .node "b" "b" ∈ readChart chart ∧ IsHotspot chainCalls 1 "b" ∧ hotspots chart = [] := by
  have hwords : Command.ofWords? ["analyze", "calls", "shop", "--function", "b"] =
      some (.analyze (.calls "shop" { function := "b" } "" false) false) := by
    cbv
  have hspelt : (TypeFacts.toDoc { calls := chainCalls }).isSpelt = true := by decide +kernel
  have hfind : (Graph.ofCalls chainCalls).find "b" = ["b"] := by decide +kernel
  have hcall := callGraph_shopDesk hspelt (by decide) hfind walk_chain
  have hfacts := (facts_shopDesk hspelt).1
  have hsettings : (shopDesk chainCalls).settings.settings = .ok lowSettings := settings_lowFile
  have hrun := run_calls hwords hsettings
  rw [hcall] at hrun
  simp only [show chainWalk.cut = none from rfl, noteText_none, String.append_empty] at hrun
  exact ⟨hsettings, value?_lowSettings, hfacts, _, hrun, by decide +kernel, by decide +kernel,
    by decide +kernel⟩

end CommandLine

end RepoAtlas
