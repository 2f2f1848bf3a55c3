import RepoAtlas.Calls.Graph

/-!
Bounded breadth-first walks. A walk admits the distinct seeds, then layer by layer the
neighbours of the last layer, until it is deep enough or a node finds no room. Nothing is
admitted after the first node without room.
-/
namespace RepoAtlas.Calls

inductive Direction where
  | callers | callees | both
  deriving DecidableEq, Repr

namespace Direction

def text : Direction → String
  | .callers => "callers"
  | .callees => "callees"
  | .both => "both"

def ofText? (s : String) : Option Direction :=
  [Direction.callers, .callees, .both].find? (·.text == s)

theorem ofText?_text (d : Direction) : ofText? d.text = some d := by
  cases d <;> decide

def ofText (s : String) : Result Direction :=
  match ofText? s with
  | some d => .ok d
  | none => .error (.direction s)

end Direction

def Graph.neighbours (g : Graph) (direction : Direction) (node : String) : List String :=
  match direction with
  | .callees => g.calleesOf node
  | .callers => g.callersOf node
  | .both => g.calleesOf node ++ g.callersOf node

/-- Admitted nodes with their depths, in order, and whether a node was left out for lack of
room. -/
structure Walk where
  found : List (String × Nat) := []
  full : Bool := false
  deriving Repr, DecidableEq

namespace Walk

def nodes (w : Walk) : List String := w.found.map (·.1)

def layer (w : Walk) (depth : Nat) : List String :=
  (w.found.filter (fun n => n.2 == depth)).map (·.1)

def enter (room depth : Nat) (w : Walk) (node : String) : Walk :=
  if w.full || w.nodes.contains node then w
  else if room ≤ w.found.length then { w with full := true }
  else { w with found := w.found ++ [(node, depth)] }

/-- Admits the neighbours of a layer as the next layer. -/
def expand (step : String → List String) (room : Nat) (w : Walk) (depth : Nat) : Walk :=
  ((w.layer depth).flatMap step).foldl (enter room (depth + 1)) w

def ofSeeds (room : Nat) (seeds : List String) : Walk :=
  seeds.foldl (enter room 0) {}

def run (step : String → List String) (room depth : Nat) (seeds : List String) : Walk :=
  (List.range depth).foldl (expand step room) (ofSeeds room seeds)

theorem enter_found_prefix (room depth : Nat) (w : Walk) (node : String) :
    w.found <+: (enter room depth w node).found := by
  simp only [enter]
  split
  · exact List.prefix_rfl
  · split
    · exact List.prefix_rfl
    · exact List.prefix_append _ _

theorem length_enter_le {room depth : Nat} {w : Walk} {node : String}
    (h : w.found.length ≤ room) : (enter room depth w node).found.length ≤ room := by
  simp only [enter]
  split
  · exact h
  · split
    · exact h
    · simp; omega

theorem nodup_enter {room depth : Nat} {w : Walk} {node : String} (h : w.nodes.Nodup) :
    (enter room depth w node).nodes.Nodup := by
  simp only [enter]
  split
  · exact h
  next hn =>
    split
    · exact h
    · simp only [nodes, List.map_append, List.map_cons, List.map_nil]
      rw [List.nodup_append]
      refine ⟨h, by simp, ?_⟩
      intro a ha b hb e
      simp at hb
      subst hb; subst e
      simp [nodes] at hn ha
      obtain ⟨d, hd⟩ := ha
      exact hn.2 d hd

end Walk

/-- Walks go no deeper than this. -/
def maxTraversalDepth : Nat := 5

inductive Cut where
  | depth | nodes
  deriving DecidableEq, Repr

def Cut.text : Cut → String
  | .depth => "depth"
  | .nodes => "nodes"

structure Traversal where
  seeds : List String
  direction : Direction
  found : List (String × Nat)
  edges : List (String × String)
  cut : Option Cut
  deriving Repr

namespace Traversal

def nodes (t : Traversal) : List String := t.found.map (·.1)

def depthReached (t : Traversal) : Nat := (t.found.map (·.2)).foldl max 0

end Traversal

/-- The calls between the given nodes, by caller in the given order. -/
def Graph.edgesAmong (g : Graph) (nodes : List String) : List (String × String) :=
  nodes.flatMap (fun caller =>
    ((g.calleesOf caller).filter nodes.contains).map (fun callee => (caller, callee)))

/-- What kept a walk from going on: a node without room, or a neighbour beyond the last layer. -/
def Walk.cut? (w : Walk) (step : String → List String) (depth : Nat) : Option Cut :=
  if w.full then some .nodes
  else if (w.layer depth).any (fun n => (step n).any (fun m => !w.nodes.contains m)) then
    some .depth
  else none

/-- The walk from the seeds along one direction, with the calls between admitted nodes. -/
def Graph.traverse (g : Graph) (seeds : List String) (direction : Direction := .callees)
    (maxDepth : Int := 3) (maxNodes : Int := 50) : Result Traversal :=
  if maxDepth < 0 then .error .negativeDepth
  else if maxNodes < 1 then .error .noRoom
  else
    let depth := min maxDepth.toNat maxTraversalDepth
    let step := g.neighbours direction
    let walk := Walk.run step maxNodes.toNat depth seeds
    .ok { seeds := walk.layer 0, direction, found := walk.found,
          edges := g.edgesAmong walk.nodes, cut := walk.cut? step depth }

end RepoAtlas.Calls
