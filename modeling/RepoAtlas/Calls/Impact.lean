import RepoAtlas.Calls.Callee

/-!
Blast radius: from each external dependency up along the callers to the user interface files
that reach it. A search keeps, for every function it has met, the call chain from it down to
the dependency; it stops at the surface that reaches the limit.
-/
namespace RepoAtlas.Calls

open RepoAtlas.Text

def surfaceFolders : List String := ["pages", "screens", "views", "routes"]

def surfaceEndings : List String :=
  ["Page", "Screen", "View", "_page", "_screen", "_view"]

/-- The last part of a path; empty and `.` parts do not count. -/
def fileName (parts : List (List Char)) : List Char :=
  ((parts.filter (fun p => p ≠ [] && p ≠ ['.'])).getLast?).getD []

/-- A file name without its last suffix; a dot at either end begins none. -/
def stem (name : List Char) : List Char :=
  let suffix := afterLast '.' name
  if '.' ∈ name && suffix ≠ [] && suffix.length + 1 < name.length then
    name.take (name.length - suffix.length - 1)
  else name

/-- A file in a folder of pages, screens, views or routes, or one whose name ends so. -/
def isSurface (path : String) : Bool :=
  let parts := splitAt '/' (path.toList.map (fun c => if c = '\\' then '/' else c))
  !path.isEmpty &&
    (parts.dropLast.any (fun p => surfaceFolders.contains (String.ofList p)) ||
      surfaceEndings.any (fun e =>
        e.toList.isSuffixOf (bare (String.ofList (stem (fileName parts))))))

inductive Risk where
  | low | medium | high
  deriving DecidableEq, Repr

namespace Risk

/-- All risks, the highest first. -/
def all : List Risk := [.high, .medium, .low]

def text : Risk → String
  | .low => "low"
  | .medium => "medium"
  | .high => "high"

def glyph : Risk → String
  | .low => "🟢"
  | .medium => "🟡"
  | .high => "🔴"

end Risk

/-- Numbers of surfaces at which the risk becomes medium and high. -/
structure RiskBands where
  mediumAt : Int := 1
  highAt : Int := 3
  deriving DecidableEq, Repr

def RiskBands.risk (bands : RiskBands) (surfaces : Int) : Risk :=
  if surfaces < bands.mediumAt then .low
  else if surfaces < bands.highAt then .medium
  else .high

/-- A function in a user interface file, with the calls from it down to the dependency. -/
structure Surface where
  file : String
  chain : List String
  deriving DecidableEq, Repr

def Surface.function (s : Surface) : String := s.chain.headD ""

/-- The chains met so far, each from a function down to the dependency. -/
structure Search where
  chains : List (List String)
  surfaces : List Surface := []
  stopped : Bool := false
  deriving Repr

namespace Search

def met (s : Search) (function : String) : Bool :=
  s.chains.any (fun chain => chain.head? == some function)

/-- Chains of the given number of calls. -/
def layer (s : Search) (calls : Nat) : List (List String) :=
  s.chains.filter (fun chain => chain.length == calls + 1)

/-- Notes the file of a chain's function if it is a new surface. -/
def note (file : String) (maxSurfaces : Int) (s : Search) (chain : List String) : Search :=
  if isSurface file && !(s.surfaces.map (·.file)).contains file then
    let surfaces := s.surfaces ++ [⟨file, chain⟩]
    { s with surfaces, stopped := maxSurfaces ≤ (surfaces.length : Nat) }
  else s

/-- Extends a chain by a caller of its function that was not met before. -/
def extend (g : Graph) (maxSurfaces : Int) (s : Search) (chain : List String) (caller : String) :
    Search :=
  if s.stopped || s.met caller then s
  else
    note (g.fileOf caller) maxSurfaces { s with chains := s.chains ++ [caller :: chain] }
      (caller :: chain)

def expand (g : Graph) (maxSurfaces : Int) (s : Search) (calls : Nat) : Search :=
  ((s.layer calls).flatMap (fun chain =>
    (g.callersOf (chain.headD "")).map (fun caller => (chain, caller)))).foldl
      (fun s step => extend g maxSurfaces s step.1 step.2) s

/-- Expands layer after layer, up to the given number of them; past an empty layer there is
nothing to expand. -/
def expandAll (g : Graph) (maxSurfaces : Int) : Nat → Nat → Search → Search
  | 0, _, s => s
  | rounds + 1, calls, s =>
    if (s.layer calls).isEmpty then s
    else expandAll g maxSurfaces rounds (calls + 1) (expand g maxSurfaces s calls)

def run (g : Graph) (dependency : String) (maxDepth maxSurfaces : Int) : Search :=
  expandAll g maxSurfaces maxDepth.toNat 0 { chains := [[dependency]] }

end Search

structure Impact where
  dependency : String
  category : Dependency
  surfaces : List Surface
  /-- How many functions the search has met besides the dependency. -/
  callers : Nat
  risk : Risk
  truncated : Bool
  deriving Repr

def impactOf (g : Graph) (maxDepth maxSurfaces : Int) (bands : RiskBands) (dependency : String)
    (category : Dependency) : Impact :=
  let s := Search.run g dependency maxDepth maxSurfaces
  { dependency, category, surfaces := s.surfaces, callers := s.chains.length - 1,
    risk := bands.risk s.surfaces.length, truncated := s.stopped }

/-- More callers first, then by name. -/
def Impact.before (a b : Impact) : Bool :=
  b.callers < a.callers || (a.callers == b.callers && a.dependency ≤ b.dependency)

/-- One entry per called function outside the repository, most widely used first. -/
def impactTree (g : Graph) (maxDepth : Int := 6) (maxSurfaces : Int := 10)
    (bands : RiskBands := {}) : List Impact :=
  (g.callers.keys.filterMap (fun callee =>
    (dependency? callee).map (impactOf g maxDepth maxSurfaces bands callee))).mergeSort
      Impact.before

def surfaceLines (last : Bool) (s : Surface) : List String :=
  ["   " ++ (if last then "└─" else "├─") ++ " " ++ s.file,
    "      " ++ joinWith " → " s.chain]

def impactLines (i : Impact) : List String :=
  (i.risk.glyph ++ " " ++ i.dependency ++ " [" ++ i.category.text ++ "] risk=" ++ i.risk.text ++
      s!" upstream={i.callers} surfaces={i.surfaces.length}") ::
    i.surfaces.zipIdx.flatMap (fun (s, n) => surfaceLines (n + 1 == i.surfaces.length) s) ++
    (if i.truncated then ["   … surface limit reached"] else [])

def impactText (found : List Impact) : String :=
  if found.isEmpty then "No external dependencies detected."
  else joinWith "\n" (found.flatMap impactLines)

end RepoAtlas.Calls
