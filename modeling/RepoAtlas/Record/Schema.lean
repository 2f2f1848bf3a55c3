import RepoAtlas.Doc.Basic
import RepoAtlas.Fault
import RepoAtlas.Number.Numeral

/-!
The members that each kind of record has in its document form: which are required, what stands
for a missing one, and how a value is taken over. `conform` brings a document into the full
form of a record. Texts are not checked to be texts: a value goes through as it is unless the
schema says otherwise.
-/
namespace RepoAtlas

inductive RecordKind where
  | typeRef | field | variant | typeDefinition
  | relationship | module | call
  | service | outboundCall
  | typeFacts | topologyFacts
  deriving DecidableEq, Repr

/-- How the value of a member is taken over. -/
inductive Shape where
  | asIs
  | flag
  | whole
  | items
  | one (kind : RecordKind)
  | many (kind : RecordKind)

/-- What stands for a member that is not given. -/
inductive Missing where
  | refused
  | value (d : Doc)
  | copyOf (name : String)
  /-- Also stands for a member that is given but empty. -/
  | orEmpty (d : Doc)

structure Member where
  name : String
  shape : Shape := .asIs
  missing : Missing := .refused

/-- A member whose text must be one of a few. -/
structure Choice where
  member : String
  what : String
  choices : List String

def typeKindTexts : List String :=
  ["struct", "class", "interface", "enum", "trait", "type_alias", "union", "protocol"]

def relationKindTexts : List String := ["extends", "implements", "contains", "collection"]

def layerTexts : List String := ["edge", "backend", "internal"]

def refTypeTexts : List String := ["branch", "tag"]

namespace RecordKind

def empty : Missing := .value (.list [])

def members : RecordKind → List Member
  | .typeRef => [⟨"name", .asIs, .refused⟩, ⟨"raw", .asIs, .copyOf "name"⟩,
      ⟨"optional", .flag, .value (.bool false)⟩, ⟨"is_collection", .flag, .value (.bool false)⟩,
      ⟨"generics", .many .typeRef, empty⟩]
  | .field => [⟨"name", .asIs, .refused⟩,
      ⟨"type_ref", .one .typeRef, .orEmpty (.object [("name", .text "unknown")])⟩,
      ⟨"optional", .flag, .value (.bool false)⟩]
  | .variant => [⟨"name", .asIs, .refused⟩, ⟨"value", .asIs, .value .null⟩]
  | .typeDefinition => [⟨"name", .asIs, .refused⟩, ⟨"kind", .asIs, .refused⟩,
      ⟨"file", .asIs, .value (.text "")⟩, ⟨"line", .whole, .value (.int 0)⟩,
      ⟨"language", .asIs, .value (.text "unknown")⟩,
      ⟨"visibility", .asIs, .value (.text "public")⟩,
      ⟨"fields", .many .field, empty⟩, ⟨"variants", .many .variant, empty⟩,
      ⟨"extends", .many .typeRef, empty⟩, ⟨"implements", .many .typeRef, empty⟩,
      ⟨"tags", .items, empty⟩, ⟨"doc", .asIs, .value (.text "")⟩]
  | .relationship => [⟨"kind", .asIs, .refused⟩, ⟨"from_type", .asIs, .refused⟩,
      ⟨"to_type", .asIs, .refused⟩, ⟨"file", .asIs, .value (.text "")⟩,
      ⟨"via_field", .asIs, .value .null⟩]
  | .module => [⟨"path", .asIs, .refused⟩, ⟨"types", .items, empty⟩,
      ⟨"internal_relationships", .many .relationship, empty⟩,
      ⟨"external_relationships", .many .relationship, empty⟩]
  | .call => [⟨"caller", .asIs, .refused⟩, ⟨"callee", .asIs, .refused⟩,
      ⟨"file", .asIs, .value (.text "")⟩, ⟨"line", .whole, .value (.int 0)⟩]
  | .service => [⟨"name", .asIs, .refused⟩, ⟨"layer", .asIs, .refused⟩,
      ⟨"owner_repo", .asIs, .value (.text "")⟩, ⟨"route_patterns", .items, empty⟩,
      ⟨"container_image", .asIs, .value .null⟩]
  | .outboundCall => [⟨"target", .asIs, .refused⟩, ⟨"file", .asIs, .value (.text "")⟩,
      ⟨"line", .whole, .value (.int 0)⟩, ⟨"caller", .asIs, .value .null⟩,
      ⟨"method", .asIs, .value .null⟩]
  | .typeFacts => [⟨"types", .many .typeDefinition, empty⟩,
      ⟨"relationships", .many .relationship, empty⟩, ⟨"modules", .many .module, empty⟩,
      ⟨"calls", .many .call, empty⟩]
  | .topologyFacts => [⟨"services", .many .service, empty⟩,
      ⟨"outbound_calls", .many .outboundCall, empty⟩]

def choice? : RecordKind → Option Choice
  | .typeDefinition => some ⟨"kind", "type kind", typeKindTexts⟩
  | .relationship => some ⟨"kind", "relationship kind", relationKindTexts⟩
  | .service => some ⟨"layer", "service layer", layerTexts⟩
  | _ => none

/-- Why a value without members is no record of the kind. -/
def refusal : RecordKind → Fault
  | .field | .typeFacts | .topologyFacts => .notARecord
  | _ => .wrongKind

end RecordKind

namespace Doc

/-- The whole number of a value: fractions are cut off and texts are read. -/
def toWhole : Doc → Result Int
  | .int i => .ok i
  | .bool b => .ok (if b then 1 else 0)
  | .float .nan => .error .wholeOfNan
  | .float (.infinite _) => .error .tooLarge
  | .float x => .ok (x.truncate?.getD 0)
  | .text s =>
    match Numeral.integerParts? s.toList with
    | some (negative, digits) =>
      if Numeral.maxDigits < digits.length then .error (.tooManyDigits digits.length)
      else .ok (Numeral.signed negative (Numeral.digitsValue digits))
    | none => .error (.notAnInteger 10 s)
  | _ => .error .wrongKind

/-- The items that a walk over the value meets: an object gives its names, a text its
characters. -/
def toItems : Doc → Result (List Doc)
  | .list items => .ok items
  | .object ms => .ok (ms.map (fun m => .text m.1))
  | .text s => .ok (s.toList.map (fun c => .text (String.singleton c)))
  | _ => .error .wrongKind

theorem sizeOf_lookup_lt {key : String} {ms : List (String × Doc)} {v : Doc}
    (h : OrderedMap.lookup key ms = some v) : sizeOf v < sizeOf (Doc.object ms) := by
  suffices sizeOf v < sizeOf ms by simp; omega
  induction ms with
  | nil => simp [OrderedMap.lookup] at h
  | cons m rest ih =>
    obtain ⟨k, w⟩ := m
    simp only [OrderedMap.lookup] at h
    split at h
    · cases h; simp; omega
    · have := ih h; simp; omega

end Doc

/-- Whether the value at the choice's member is one of the choices. -/
def Choice.check (choice : Choice) (d : Doc) : Result Unit :=
  let value := (d.get? choice.member).getD .null
  let ok := match value with
    | .text s => choice.choices.contains s
    | _ => false
  if ok then .ok () else .error (.unknownChoice choice.what value.shown choice.choices)

/-- The given value of a member, or what stands for it. A substitute is already in full form,
apart from that of an empty one. -/
def Member.given (m : Member) (ms : List (String × Doc)) : Option Doc :=
  match OrderedMap.lookup m.name ms, m.missing with
  | some v, .orEmpty _ => if v.isTruthy then some v else none
  | found, _ => found

def Member.substitute (m : Member) (ms : List (String × Doc)) : Result Doc :=
  match m.missing with
  | .refused => .error (.missingMember m.name)
  | .value d => .ok d
  | .copyOf name => .ok ((OrderedMap.lookup name ms).getD .null)
  | .orEmpty _ => .ok (.object [("name", .text "unknown"), ("raw", .text "unknown"),
      ("optional", .bool false), ("is_collection", .bool false), ("generics", .list [])])

theorem Member.lookup_of_given {m : Member} {ms : List (String × Doc)} {v : Doc}
    (h : m.given ms = some v) : OrderedMap.lookup m.name ms = some v := by
  unfold Member.given at h
  split at h
  · split at h
    · cases h; assumption
    · simp at h
  · exact h

mutual

/-- The full form of a record's document. -/
def conform (kind : RecordKind) : Doc → Result Doc
  | .object ms => do
    let full ← kind.members.mapM (fun m => do
      match _given : m.given ms with
      | none => return (m.name, ← m.substitute ms)
      | some v => return (m.name, ← conformValue m.shape v))
    if let some choice := kind.choice? then choice.check (.object full)
    return .object full
  | _ => .error kind.refusal
termination_by d => (sizeOf d, 0)
decreasing_by
  have := Doc.sizeOf_lookup_lt (Member.lookup_of_given _given)
  simp_wf; simp only [Doc.object.sizeOf_spec] at this
  left; omega

def conformValue : Shape → Doc → Result Doc
  | .asIs, v => .ok v
  | .flag, v => .ok (.bool v.isTruthy)
  | .whole, v => do return .int (← v.toWhole)
  | .items, v => do return .list (← v.toItems)
  | .one kind, v => conform kind v
  | .many kind, .list items => do
    let full ← items.attach.mapM (fun ⟨d, _⟩ => conform kind d)
    return .list full
  | .many kind, v => do
    let items ← v.toItems
    if items.isEmpty then return .list [] else .error kind.refusal
termination_by _ d => (sizeOf d, 1)
decreasing_by
  · exact Prod.Lex.right _ (by omega)
  · simp_wf
    rename_i member
    have := List.sizeOf_lt_of_mem member
    left; omega

end

end RepoAtlas
