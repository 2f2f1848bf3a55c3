import RepoAtlas.OrderedMap
import RepoAtlas.Record.Facts
import RepoAtlas.Text.LowerCase

/-!
The call graph of a repository. Functions are labels as they stand in the source, so two
functions with one label are one node. Repeated calls are counted, the first site of a pair is
the least one, and the file of a caller is the first one that a call of it names.
-/
namespace RepoAtlas.Calls

structure Graph where
  callees : OrderedMap String (List String) := {}
  callers : OrderedMap String (List String) := {}
  calleeCounts : OrderedMap String Nat := {}
  pairCounts : OrderedMap (String × String) Nat := {}
  sites : OrderedMap (String × String) (String × Int) := {}
  files : OrderedMap String String := {}
  deriving Repr, Inhabited

/-- Adds an item at the end unless it is there. -/
def addNew (item : String) (found : Option (List String)) : List String :=
  let items := found.getD []
  if items.contains item then items else items ++ [item]

def count (found : Option Nat) : Nat := found.getD 0 + 1

/-- Sites are ordered by file, then by line. -/
def siteBefore (a b : String × Int) : Bool :=
  a.1 < b.1 || (a.1 == b.1 && a.2 < b.2)

def leastSite (site : String × Int) (found : Option (String × Int)) : String × Int :=
  match found with
  | some s => if siteBefore site s then site else s
  | none => site

namespace Graph

def add (g : Graph) (c : CallEdge) : Graph where
  callees := g.callees.update c.caller (addNew c.callee)
  callers := g.callers.update c.callee (addNew c.caller)
  calleeCounts := g.calleeCounts.update c.callee count
  pairCounts := g.pairCounts.update (c.caller, c.callee) count
  sites := g.sites.update (c.caller, c.callee) (leastSite (c.file, c.line))
  files := if c.file.isEmpty then g.files else g.files.insertNew c.caller c.file

def ofCalls (calls : List CallEdge) : Graph := calls.foldl add {}

def nodes (g : Graph) : List String := sortedSet (g.callees.keys ++ g.callers.keys)

def calleesOf (g : Graph) (node : String) : List String := (g.callees.get? node).getD []

def callersOf (g : Graph) (node : String) : List String := (g.callers.get? node).getD []

def pairCount (g : Graph) (caller callee : String) : Nat :=
  (g.pairCounts.get? (caller, callee)).getD 0

def fileOf (g : Graph) (node : String) : String := (g.files.get? node).getD ""

theorem calleesOf_add (g : Graph) (c : CallEdge) (node : String) :
    (g.add c).calleesOf node =
      if node = c.caller then addNew c.callee (g.callees.get? node) else g.calleesOf node := by
  by_cases h : node = c.caller
  · subst h; simp [add, calleesOf]
  · simp [add, calleesOf, h]

theorem callersOf_add (g : Graph) (c : CallEdge) (node : String) :
    (g.add c).callersOf node =
      if node = c.callee then addNew c.caller (g.callers.get? node) else g.callersOf node := by
  by_cases h : node = c.callee
  · subst h; simp [add, callersOf]
  · simp [add, callersOf, h]

end Graph

inductive NodeClass where
  | entry | hotspot | plain
  deriving DecidableEq, Repr

namespace NodeClass

def text : NodeClass → String
  | .entry => "entry"
  | .hotspot => "hotspot"
  | .plain => "plain"

end NodeClass

/-- From more neighbours than this a function is a hotspot. -/
def defaultHotspotDegree : Int := 10

/-- An entry calls others and is called by none; a hotspot has many neighbours. -/
def Graph.classOf (g : Graph) (node : String) (hotspotDegree : Int := defaultHotspotDegree) :
    NodeClass :=
  let callers := (g.callersOf node).length
  let callees := (g.calleesOf node).length
  if callers = 0 ∧ 1 ≤ callees then .entry
  else if hotspotDegree < (callers + callees : Nat) then .hotspot
  else .plain

/-- The part of a dotted label after its last dot. -/
def lastSegment (label : String) : String :=
  String.ofList (Text.afterLast '.' label.toList)

/-- The nodes that a name stands for: the node of that label, else those with that last
segment, else those that contain it without regard to case. -/
def Graph.find (g : Graph) (name : String) : List String :=
  if g.callees.contains name || g.callers.contains name then [name]
  else
    let bySegment := g.nodes.filter (fun n => lastSegment n == name)
    if !bySegment.isEmpty then bySegment
    else
      let wanted := Text.lower name.toList
      g.nodes.filter (fun n => Text.occursIn wanted (Text.lower n.toList))

end RepoAtlas.Calls
