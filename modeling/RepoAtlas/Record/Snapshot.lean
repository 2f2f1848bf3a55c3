import RepoAtlas.Record.Facts
import RepoAtlas.Time.Timestamp

/-!
Snapshots: the facts captured for one ref of one repository. Payloads are documents by domain
name; the two domains with a schema have typed views, which are read on demand.
-/
namespace RepoAtlas

inductive RefType where
  | branch | tag
  deriving DecidableEq, Repr, Inhabited

namespace RefType

def text : RefType → String
  | .branch => "branch"
  | .tag => "tag"

def ofText? (s : String) : Option RefType :=
  [RefType.branch, .tag].find? (·.text == s)

theorem ofText?_text (r : RefType) : ofText? r.text = some r := by
  cases r <;> decide

end RefType

structure Snapshot where
  repo : String
  ref : String
  refType : RefType := .branch
  sha : Doc := .null
  capturedAt : Timestamp
  facts : List (String × Doc) := []
  deriving Repr, Inhabited

namespace Snapshot

/-- A key and a value from an item of a list of pairs. -/
def pairOf (index : Nat) (item : Doc) : Result (Doc × Doc) := do
  match ← item.toItems with
  | [.list _, _] | [.object _, _] => .error .wrongKind
  | [key, value] => return (key, value)
  | items => .error (.memberPair index items.length)

/-- Writes a value under a key: the same key keeps its place and its spelling. -/
def writeUnder (key value : Doc) : List (Doc × Doc) → List (Doc × Doc)
  | [] => [(key, value)]
  | (k, v) :: rest => if k.same key then (k, value) :: rest else (k, v) :: writeUnder key value rest

/-- An entry as a member, if its key is a name. -/
def memberOf? : Doc × Doc → Option (String × Doc)
  | (.text name, value) => some (name, value)
  | _ => none

/-- Entries as an object; those with a key that is no name stay pairs. -/
def ofEntries (entries : List (Doc × Doc)) : Doc :=
  match entries.mapM memberOf? with
  | some members => .object members
  | none => .list (entries.map (fun e => .list [e.1, e.2]))

/-- An object as it is, or the entries of a list of pairs. -/
def toMapping (d : Doc) : Result Doc :=
  match d with
  | .object ms => .ok (.object ms)
  | d => do
    let pairs ← (← d.toItems).zipIdx.mapM (fun (item, index) => pairOf index item)
    return ofEntries (pairs.foldl (fun found p => writeUnder p.1 p.2 found) [])

def required (ms : List (String × Doc)) (name : String) : Result Doc :=
  match OrderedMap.lookup name ms with
  | some d => .ok d
  | none => .error (.missingMember name)

/-- The full form of a snapshot's document. -/
def conform (d : Doc) : Result Doc :=
  match d with
  | .object ms => do
    let repo ← required ms "repo"
    let ref ← required ms "ref"
    let time ← Timestamp.parse (← (← required ms "captured_at").toText)
    let facts ← toMapping ((OrderedMap.lookup "facts_by_domain" ms).getD (.object []))
    let full := Doc.object [("repo", repo), ("ref", ref),
      ("ref_type", (OrderedMap.lookup "ref_type" ms).getD (.text "branch")),
      ("sha", (OrderedMap.lookup "sha" ms).getD .null),
      ("captured_at", .text time.isoText), ("facts_by_domain", facts)]
    Choice.check ⟨"ref_type", "ref type", refTypeTexts⟩ full
    return full
  | _ => .error .wrongKind

def toDoc (s : Snapshot) : Doc :=
  .object [("repo", .text s.repo), ("ref", .text s.ref), ("ref_type", .text s.refType.text),
    ("sha", s.sha), ("captured_at", .text s.capturedAt.isoText),
    ("facts_by_domain", .object s.facts)]

def ofFull : Doc → Result Snapshot
  | .object [(_, .text repo), (_, .text ref), (_, .text refType), (_, sha),
      (_, .text time), (_, .object facts)] => do
    let refType ← match RefType.ofText? refType with
      | some r => .ok r
      | none => .error .wrongKind
    return { repo, ref, refType, sha, capturedAt := ← Timestamp.parse time, facts }
  | _ => .error .wrongKind

def ofDoc (d : Doc) : Result Snapshot := do
  ofFull (← conform d)

/-- The names of the domains, in ascending order. -/
def domains (s : Snapshot) : List String := sortTexts (s.facts.map (·.1))

/-- The payload of a domain; null counts as absent. -/
def payload? (s : Snapshot) (domain : String) : Option Doc :=
  match OrderedMap.lookup domain s.facts with
  | some .null => none
  | found => found

def schemaOf? (domain : String) : Option RecordKind :=
  if domain = typeDomain then some .typeFacts
  else if domain = topologyDomain then some .topologyFacts
  else none

/-- The payload of a domain, in full form if the domain has a schema. -/
def view (s : Snapshot) (domain : String) : Result Doc :=
  match s.payload? domain, schemaOf? domain with
  | none, _ => .ok .null
  | some (.object ms), some kind => RepoAtlas.conform kind (.object ms)
  | some d, _ => .ok d

/-- The type facts, `none` without the domain. A payload that is no object has no types. -/
def typeFacts? (s : Snapshot) : Result (Option TypeFacts) :=
  match s.payload? typeDomain with
  | none => .ok none
  | some (.object ms) => do return some (← TypeFacts.ofDoc (.object ms))
  | some _ => .error .notARecord

/-- The type facts; an absent or empty payload counts as no facts. -/
def typeFacts (s : Snapshot) : Result TypeFacts :=
  match s.payload? typeDomain with
  | none => .ok {}
  | some (.object ms) => TypeFacts.ofDoc (.object ms)
  | some d => if d.isTruthy then .error .notARecord else .ok {}

/-- The service topology; an absent or empty payload counts as no facts. -/
def topologyFacts (s : Snapshot) : Result TopologyFacts :=
  match s.payload? topologyDomain with
  | none => .ok {}
  | some (.object ms) => TopologyFacts.ofDoc (.object ms)
  | some d => if d.isTruthy then .error .notARecord else .ok {}

end Snapshot

end RepoAtlas
