import RepoAtlas.Diagram.Parts
import RepoAtlas.OrderedMap

/-!
Directed graphs as DOT documents. A focus text keeps the nodes whose name or label contains it
together with their neighbours; a focus that no node contains keeps everything.
-/
namespace RepoAtlas.Diagram.Dot

open RepoAtlas.Text

structure Edge where
  source : String
  target : String
  label : String
  deriving DecidableEq, Repr

def escapeChars (s : List Char) : List Char :=
  s.flatMap (fun c => if c = '"' then ['\\', '"'] else [c])

def escape (s : String) : String := String.ofList (escapeChars s.toList)

def contains (needle s : String) : Bool := occursIn needle.toList s.toList

/-- Node names in order and the edges between them. -/
structure Selection where
  nodes : List String
  edges : List Edge

def select (nodes : OrderedMap String String) (edges : List Edge) (focus : String) : Selection :=
  let known := edges.filter (fun e => nodes.contains e.source && nodes.contains e.target)
  let matching := (nodes.entries.filter (fun n => contains focus n.1 || contains focus n.2)).map
    (·.1)
  if focus.isEmpty || matching.isEmpty then ⟨sortTexts nodes.keys, known⟩
  else
    let touching := known.filter (fun e => matching.contains e.source || matching.contains e.target)
    ⟨sortedSet (matching ++ touching.flatMap (fun e => [e.source, e.target])), touching⟩

def nodeLine (nodes : OrderedMap String String) (name : String) : String :=
  "  \"" ++ escape name ++ "\" [label=\"" ++ escape ((nodes.get? name).getD "") ++ "\"];"

def edgeLine (e : Edge) : String :=
  "  \"" ++ escape e.source ++ "\" -> \"" ++ escape e.target ++ "\" [label=\"" ++
    escape e.label ++ "\"];"

def render (nodes : OrderedMap String String) (edges : List Edge) (focus : String := "")
    (name : String := "Ecosystem") : String :=
  let shown := select nodes edges focus
  joinWith "\n"
    (["digraph " ++ identifier name ++ " \x7b", "  rankdir=LR;"] ++
      shown.nodes.map (nodeLine nodes) ++ shown.edges.map edgeLine ++ ["\x7d"])

end RepoAtlas.Diagram.Dot
