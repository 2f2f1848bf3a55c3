import RepoAtlas.Doc.Basic
import RepoAtlas.Record.Facts

/-!
Keys that stand for the items of a domain's payload, and what a set of keys gained and lost.
-/
namespace RepoAtlas.Diff

/-! ### Sets

Both sides of a change are sets in the order of first occurrence.
-/

structure SetChange (α : Type) where
  added : List α := []
  removed : List α := []
  deriving Repr, DecidableEq

/-- The items without later equal ones. -/
def firstSeen {α : Type} [BEq α] : List α → List α
  | [] => []
  | x :: rest => x :: (firstSeen rest).filter (fun y => !(y == x))

/-- The items of `keys` that `others` lacks, each once. -/
def missingFrom {α : Type} [BEq α] (others keys : List α) : List α :=
  (firstSeen keys).filter (fun k => !others.contains k)

namespace SetChange

variable {α : Type}

def between [BEq α] (before after : List α) : SetChange α :=
  ⟨missingFrom before after, missingFrom after before⟩

def isEmpty (c : SetChange α) : Bool := c.added.isEmpty && c.removed.isEmpty

/-- The change in the other direction. -/
def reverse (c : SetChange α) : SetChange α := ⟨c.removed, c.added⟩

theorem between_swap [BEq α] (before after : List α) :
    between after before = (between before after).reverse := rfl

def toDoc (item : α → Doc) (c : SetChange α) : Doc :=
  .object [("added", .list (c.added.map item)), ("removed", .list (c.removed.map item))]

end SetChange

/-! ### Keys

A payload may be any document: what
is not there counts as empty where the domain's rule says so, and anything else of the wrong
kind is a fault.
-/

/-- A member of a record; other values have no members to ask for. -/
def memberOf (d : Doc) (name : String) : Result (Option Doc) :=
  match d with
  | .object ms => .ok (OrderedMap.lookup name ms)
  | _ => .error .notARecord

/-- A member that must be there. -/
def requiredMember (d : Doc) (name : String) : Result Doc :=
  match d with
  | .object ms =>
    match OrderedMap.lookup name ms with
    | some v => .ok v
    | none => .error (.missingMember name)
  | _ => .error .wrongKind

/-- The items of a member; no items if it is absent. -/
def itemsOf (d : Doc) (name : String) : Result (List Doc) := do
  match ← memberOf d name with
  | some v => v.toItems
  | none => return []

/-- The items of a value that may be left empty. -/
def itemsOrNone (d : Doc) : Result (List Doc) := if d.isTruthy then d.toItems else .ok []

/-- The members that name an item, the first one given counts. -/
def namingMembers : List String := ["name", "id", "key", "path"]

/-- An item's name, or the whole item as a text. -/
def itemKey (d : Doc) : String := ((namingMembers.findSome? d.get?).getD d).shown

def itemKeys (d : Doc) : Result (List String) := do
  return (← itemsOrNone d).map itemKey

/-- The keys of the items of a member that may be left empty. -/
def namedItems (member : String) (payload : Doc) : Result (List String) := do
  itemKeys ((← memberOf payload member).getD .null)

def serviceKey (s : Doc) : Result String := do
  let layer := (← memberOf s "layer").getD (.text "unknown")
  return layer.shown ++ "/" ++ (← requiredMember s "name").shown

def resourceKey (r : Doc) : Result String := do
  let kind := (← memberOf r "kind").getD (.text "Unknown")
  let name := (← memberOf r "name").getD (.text "?")
  return kind.shown ++ "/" ++ name.shown

def clusterDomain : String := "kubernetes"
def infrastructureDomain : String := "terraform"
def screenDomain : String := "user_flows"
def dataDomain : String := "data_flow"

def clusterKeys (payload : Doc) : Result (List String) := do
  let resources := if payload.isObject then (payload.get? "resources").getD .null else payload
  (← itemsOrNone resources).mapM resourceKey

/-- Members that usually hold the items of a catalog. -/
def catalogMembers : List String :=
  ["items", "resources", "services", "screens", "types", "entries"]

def memberNames (ms : List (String × Doc)) : List String := ms.map (·.1)

/-- The keys of a collection, which is a list or an object. -/
def collectionKeys? : Doc → Option (List String)
  | .list items => some (items.map itemKey)
  | .object ms => some (memberNames ms)
  | _ => none

/-- A catalog is a list, an object with a collection under a usual name, an object around a
single object, or else an object of items. -/
def catalogKeys : Doc → List String
  | .list items => items.map itemKey
  | .object ms =>
    match catalogMembers.findSome? (fun m => (OrderedMap.lookup m ms).bind collectionKeys?) with
    | some keys => keys
    | none =>
      match ms with
      | [(_, .object inner)] => memberNames inner
      | ms => memberNames ms
  | _ => []

def domainKeys (domain : String) (payload : Doc) : Result (List String) :=
  if domain = typeDomain then namedItems "types" payload
  else if domain = topologyDomain then do (← itemsOf payload "services").mapM serviceKey
  else if domain = clusterDomain then clusterKeys payload
  else if domain = infrastructureDomain then do
    return (← itemsOf payload "providers").map Doc.shown
  else if domain = screenDomain then namedItems "screens" payload
  else if domain = dataDomain then namedItems "services" payload
  else .ok (catalogKeys payload)

end RepoAtlas.Diff
