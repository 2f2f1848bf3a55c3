import Mathlib.Data.Set.Card
import RepoAtlas.Calls.FlowDiagram
import RepoAtlas.Proofs.Calls.BreadthFirst
import RepoAtlas.Proofs.Calls.Indexes
import RepoAtlas.Proofs.Calls.Truncation
import RepoAtlas.Proofs.Diagram.Chart

/-!
The flowchart of a traversal shows its functions and the calls between them, each on a line of its
own, whatever the functions are called. It marks as hotspots those of its functions that are
hotspots under the bound it is drawn with.
-/
namespace RepoAtlas.Calls

open RepoAtlas.Diagram RepoAtlas.Text

/-! ### What is shown -/

/-- What the flowchart of a traversal says, line by line. -/
def flowchartStatements (g : Graph) (t : Traversal) (hotspotDegree : Int)
    (ids : OrderedMap String String) : List Statement :=
  [.other "flowchart TD", .other "    classDef entry fill:#d4edda,stroke:#28a745",
      .other "    classDef hotspot fill:#f8d7da,stroke:#dc3545"] ++
    t.nodes.map (fun n => .node (idOf ids n) (label n)) ++
    t.edges.map (fun e => .link (idOf ids e.1) "-->" (countLabel? g e) (idOf ids e.2)) ++
    (t.nodes.filterMap (classLine? g ids hotspotDegree)).map .other

section Lines

variable {g : Graph} {hotspotDegree : Int} {ids : OrderedMap String String} {names : List String}

theorem isArrow_call : IsArrow "-->" := by decide

theorem isSafe_countLabel {e : String × String} : ∀ l ∈ countLabel? g e, IsSafe l := by
  intro l hl
  rw [countLabel?] at hl
  split at hl
  · obtain rfl := Option.some.inj hl
    exact (isSafe_toString _).append (by decide)
  · cases hl

theorem reads_callLine (hids : TellsApart (idOf ids) names []) {e : String × String}
    (hends : e.1 ∈ names ∧ e.2 ∈ names) :
    Reads (callLine g ids e) (.link (idOf ids e.1) "-->" (countLabel? g e) (idOf ids e.2)) :=
  reads_link blank_indent (hids.valid _ hends.1) isArrow_call isSafe_countLabel
    (hids.valid _ hends.2)

theorem oneLine_class (c : NodeClass) : '\n' ∉ c.text.toList := by
  cases c <;> decide

/-- Entries and hotspots have a line that says so. -/
theorem reads_classLine (hids : TellsApart (idOf ids) names []) {node : String}
    (hnode : node ∈ names) : ∀ l ∈ classLine? g ids hotspotDegree node, Reads l (.other l) := by
  intro l hl
  rw [classLine?] at hl
  split at hl
  · cases hl
  next c =>
    obtain rfl := Option.some.inj hl
    have htext : "    class " ++ idOf ids node ++ " " ++ (g.classOf node hotspotDegree).text =
        "    " ++ ("class" ++ " " ++ (idOf ids node ++ " " ++
          (g.classOf node hotspotDegree).text)) := by
      simp only [← String.append_assoc]
      rfl
    rw [htext]
    exact reads_class blank_indent (hids.valid _ hnode) (oneLine_class _)

end Lines

/-- A traversal finds each function once, and its calls join functions that it has found. -/
theorem traverse_sound {calls : List CallEdge} {seeds : List String} {direction : Direction}
    {maxDepth maxNodes : Int} {t : Traversal}
    (h : (Graph.ofCalls calls).traverse seeds direction maxDepth maxNodes = .ok t) :
    t.nodes.Nodup ∧ t.edges.Nodup ∧ ∀ e ∈ t.edges, e.1 ∈ t.nodes ∧ e.2 ∈ t.nodes := by
  rw [Graph.traverse] at h
  split at h
  · cases h
  split at h
  · cases h
  obtain rfl := Except.ok.inj h
  have hnodup := (Walk.run_explored (Graph.mem_neighbours_ofCalls calls direction) maxNodes.toNat
    (min maxDepth.toNat maxTraversalDepth) seeds).nodup
  refine ⟨hnodup, Graph.nodup_edgesAmong_ofCalls calls hnodup, fun e he => ?_⟩
  exact ((Graph.mem_edgesAmong_ofCalls calls _ e.1 e.2).1 he).2

/-- The flowchart of distinct functions shows them and the calls between them. -/
theorem shows_flowchart (g : Graph) {t : Traversal} (hotspotDegree : Int) (honce : t.nodes.Nodup)
    (hends : ∀ e ∈ t.edges, e.1 ∈ t.nodes ∧ e.2 ∈ t.nodes) :
    ∃ ids, Shows (flowchart g t hotspotDegree) (flowchartStatements g t hotspotDegree ids)
      (idOf ids) t.nodes t.edges [] := by
  have hids := tellsApart_uniqueIds t.nodes []
  refine ⟨uniqueIds t.nodes, ?_⟩
  generalize hnames : uniqueIds t.nodes = ids at hids
  have hheader : Draws ["flowchart TD", "    classDef entry fill:#d4edda,stroke:#28a745",
      "    classDef hotspot fill:#f8d7da,stroke:#dc3545"] [.other "flowchart TD",
      .other "    classDef entry fill:#d4edda,stroke:#28a745",
      .other "    classDef hotspot fill:#f8d7da,stroke:#dc3545"] [] [] [] :=
    ⟨.cons (by decide) (.cons (by decide) (.cons (by decide) .nil)), rfl, rfl, rfl⟩
  have hnodes := draws_nodes fun n hn =>
    reads_node blank_indent (hids.valid n hn) (isSafe_label n)
  have hlinks := draws_links fun e he => @reads_callLine g ids t.nodes hids e (hends e he)
  have hclasses := draws_others fun n hn => @reads_classLine g hotspotDegree ids t.nodes hids n hn
  have hchart := ((hheader.append hnodes).append hlinks).append hclasses
  simp only [List.nil_append, List.append_nil] at hchart
  rw [flowchart, hnames]
  exact hchart.shows (List.cons_ne_nil _ _) hids honce (List.append_nil _ ▸ .refl _)
    (List.nil_subset _) rfl hends (List.nil_subset _)

/-! ### Classes -/

section Classes

variable (calls : List CallEdge)

/-- It calls others and is called by none. -/
def IsEntry (node : String) : Prop :=
  (∃ callee, IsCall calls node callee) ∧ ∀ caller, ¬ IsCall calls caller node

/-- How many functions call it, and how many it calls. -/
noncomputable def degree (node : String) : Nat :=
  {caller | IsCall calls caller node}.ncard + {callee | IsCall calls node callee}.ncard

/-- It is no entry and has more neighbours than the bound. -/
structure IsHotspot (bound : Int) (node : String) : Prop where
  notEntry : ¬ IsEntry calls node
  busy : bound < degree calls node

theorem length_callersOf (node : String) :
    ((Graph.ofCalls calls).callersOf node).length = {caller | IsCall calls caller node}.ncard := by
  have hcard := encard_setOf_mem (Graph.nodup_callersOf_ofCalls calls node)
  simp only [Graph.mem_callersOf_ofCalls] at hcard
  rw [Set.ncard_def, hcard, ENat.toNat_natCast]

theorem length_calleesOf (node : String) :
    ((Graph.ofCalls calls).calleesOf node).length = {callee | IsCall calls node callee}.ncard := by
  have hcard := encard_setOf_mem (Graph.nodup_calleesOf_ofCalls calls node)
  simp only [Graph.mem_calleesOf_ofCalls] at hcard
  rw [Set.ncard_def, hcard, ENat.toNat_natCast]

theorem degree_eq (node : String) : degree calls node =
    ((Graph.ofCalls calls).callersOf node).length +
      ((Graph.ofCalls calls).calleesOf node).length := by
  rw [degree, length_callersOf, length_calleesOf]

theorem isEntry_iff (node : String) : IsEntry calls node ↔
    ((Graph.ofCalls calls).callersOf node).length = 0 ∧
      1 ≤ ((Graph.ofCalls calls).calleesOf node).length := by
  have hcallers : ((Graph.ofCalls calls).callersOf node).length = 0 ↔
      ∀ caller, ¬ IsCall calls caller node := by
    rw [List.length_eq_zero_iff, List.eq_nil_iff_forall_not_mem]
    simp only [Graph.mem_callersOf_ofCalls]
  have hcallees : 1 ≤ ((Graph.ofCalls calls).calleesOf node).length ↔
      ∃ callee, IsCall calls node callee := by
    rw [Nat.one_le_iff_ne_zero, ne_eq, List.length_eq_zero_iff, List.eq_nil_iff_forall_not_mem]
    simp only [Graph.mem_calleesOf_ofCalls, not_forall, not_not]
  rw [hcallers, hcallees, IsEntry, and_comm]

instance (node : String) : Decidable (IsEntry calls node) :=
  decidable_of_iff _ (isEntry_iff calls node).symm

instance (bound : Int) (node : String) : Decidable (IsHotspot calls bound node) :=
  decidable_of_iff (¬ IsEntry calls node ∧ bound < (((Graph.ofCalls calls).callersOf node).length +
      ((Graph.ofCalls calls).calleesOf node).length : Nat)) <| by
    rw [← degree_eq]
    exact ⟨fun h => ⟨h.1, h.2⟩, fun h => ⟨h.notEntry, h.busy⟩⟩

theorem classOf_ofCalls (node : String) (bound : Int) :
    (Graph.ofCalls calls).classOf node bound = if IsEntry calls node then .entry
      else if bound < degree calls node then .hotspot else .plain := by
  simp only [Graph.classOf, isEntry_iff, degree_eq]

theorem classOf_eq_hotspot_iff (node : String) (bound : Int) :
    (Graph.ofCalls calls).classOf node bound = .hotspot ↔ IsHotspot calls bound node := by
  rw [classOf_ofCalls]
  split
  next hentry => exact iff_of_false (by simp) fun h => h.notEntry hentry
  next hentry =>
    split
    next hbusy => exact iff_of_true rfl ⟨hentry, hbusy⟩
    next hbusy => exact iff_of_false (by simp) fun h => hbusy h.busy

/-- No bound makes an entry or takes one away. -/
theorem classOf_eq_entry_iff (node : String) (bound : Int) :
    (Graph.ofCalls calls).classOf node bound = .entry ↔ IsEntry calls node := by
  rw [classOf_ofCalls]
  split
  next hentry => exact iff_of_true rfl hentry
  next hentry => exact iff_of_false (by split <;> simp) hentry

end Classes

/-- Two bounds agree on a function unless it is no entry and its neighbours lie between them. -/
theorem isHotspot_congr_iff {calls : List CallEdge} {bound bound' : Int} {node : String} :
    (IsHotspot calls bound node ↔ IsHotspot calls bound' node) ↔
      (¬ IsEntry calls node → (bound < degree calls node ↔ bound' < degree calls node)) := by
  constructor
  · intro hsame hentry
    exact ⟨fun h => (hsame.1 ⟨hentry, h⟩).busy, fun h => (hsame.2 ⟨hentry, h⟩).busy⟩
  · intro hsame
    exact ⟨fun h => ⟨h.notEntry, (hsame h.notEntry).1 h.busy⟩,
      fun h => ⟨h.notEntry, (hsame h.notEntry).2 h.busy⟩⟩

/-! ### Class lines -/

def classWord : List Char := "    class ".toList

/-- The identifier in a line that gives a node the class of hotspots. -/
def readHotspot? (line : List Char) : Option String :=
  let behind := line.drop classWord.length
  if classWord.isPrefixOf line ∧ behind.dropWhile isIdChar = " hotspot".toList then
    some (String.ofList (behind.takeWhile isIdChar))
  else none

/-- The identifier that a line of a chart marks as a hotspot. -/
def hotspot? : Statement → Option String
  | .other line => readHotspot? line.toList
  | _ => none

/-- The identifiers that the lines of a chart mark as hotspots. -/
def hotspots (chart : String) : List String := (readChart chart).filterMap hotspot?

theorem readHotspot?_class {id : String} (hid : IsIdentifier id) (c : NodeClass) :
    readHotspot? ("    class " ++ id ++ " " ++ c.text).toList =
      if c = .hotspot then some id else none := by
  have htext : ("    class " ++ id ++ " " ++ c.text).toList =
      classWord ++ (id.toList ++ ' ' :: c.text.toList) := by
    simp only [String.toList_append, List.append_assoc]
    rfl
  obtain ⟨htake, hdrop⟩ := hid.split (' ' :: c.text.toList) (fun d hd => by cases hd; rfl)
  have hword : classWord.isPrefixOf (classWord ++ (id.toList ++ ' ' :: c.text.toList)) = true :=
    List.isPrefixOf_iff_prefix.2 (List.prefix_append _ _)
  have hclass : ' ' :: c.text.toList = " hotspot".toList ↔ c = .hotspot := by
    cases c <;> decide
  rw [htext, readHotspot?, List.drop_left, htake, hdrop, String.ofList_toList]
  simp only [hword, hclass, true_and]

theorem classLine?_bind_readHotspot? {calls : List CallEdge} {ids : OrderedMap String String}
    {node : String} (hid : IsIdentifier (idOf ids node)) (bound : Int) :
    ((classLine? (.ofCalls calls) ids bound node).bind fun line => readHotspot? line.toList) =
      (Option.guard (IsHotspot calls bound ·) node).map (idOf ids) := by
  have hclass := classOf_eq_hotspot_iff calls node bound
  have hread : ((classLine? (.ofCalls calls) ids bound node).bind
      fun line => readHotspot? line.toList) =
        if (Graph.ofCalls calls).classOf node bound = .hotspot then some (idOf ids node)
        else none := by
    rw [classLine?]
    split
    next hplain => simp [hplain]
    next => exact readHotspot?_class hid _
  rw [hread, Option.guard]
  simp only [hclass, decide_eq_true_eq]
  split <;> rfl

/-- A flowchart marks those of its functions that are hotspots. -/
theorem hotspots_flowchart {calls : List CallEdge} {t : Traversal} {bound : Int}
    {ids : OrderedMap String String} {links : List (String × String)}
    (h : Shows (flowchart (.ofCalls calls) t bound)
      (flowchartStatements (.ofCalls calls) t bound ids) (idOf ids) t.nodes links []) :
    hotspots (flowchart (.ofCalls calls) t bound) =
      (t.nodes.filter (IsHotspot calls bound ·)).map (idOf ids) := by
  have hheader : [Statement.other "flowchart TD",
      .other "    classDef entry fill:#d4edda,stroke:#28a745",
      .other "    classDef hotspot fill:#f8d7da,stroke:#dc3545"].filterMap hotspot? = [] := by
    decide
  have hclasses : ((t.nodes.filterMap (classLine? (.ofCalls calls) ids bound)).map
      Statement.other).filterMap hotspot? =
        (t.nodes.filter (IsHotspot calls bound ·)).map (idOf ids) := by
    rw [List.filterMap_map, List.filterMap_filterMap, ← List.filterMap_eq_filter,
      List.map_filterMap]
    exact List.filterMap_congr fun n hn =>
      classLine?_bind_readHotspot? (h.apart.valid n hn) bound
  rw [hotspots, h.reads, flowchartStatements, List.filterMap_append, List.filterMap_append,
    List.filterMap_append, hheader, hclasses]
  simp [List.filterMap_map, Function.comp_def, hotspot?]

end RepoAtlas.Calls
