import RepoAtlas.Diff.Keys

/-!
Changes inside a domain that its keys do not show: calls, relationships and fields of types,
targets of requests, and how many resources there are.
-/
namespace RepoAtlas.Diff

/-- Values that can stand in a set. -/
def isKey : Doc → Bool
  | .list _ | .object _ => false
  | _ => true

def toKey (d : Doc) : Result Doc := if isKey d then .ok d else .error .wrongKind

/-- A value as the name of a member. -/
def memberName : Doc → String
  | .text s => s
  | .null => "null"
  | .bool b => if b then "true" else "false"
  | d => d.shown

/-- What a type's fields gained and lost, by the name of the type. -/
abbrev FieldChanges := List (Doc × SetChange String)

inductive Detail where
  | nothing
  /-- The payload of the only side that has the domain. -/
  | facts (payload : Doc)
  | types (calls relationships : SetChange String) (fields : FieldChanges)
  | requests (targets : SetChange Doc)
  /-- The numbers of resources as they were given, and their difference. -/
  | resources (before after : Doc) (delta : Int)
  deriving Repr

namespace Detail

def hasChanges : Detail → Bool
  | .nothing | .facts _ => false
  | .types calls relationships fields =>
    !(calls.isEmpty && relationships.isEmpty && fields.isEmpty)
  | .requests targets => !targets.isEmpty
  | .resources _ _ delta => delta != 0

def texts (c : SetChange String) : Doc := c.toDoc .text

def toDoc : Detail → Doc
  | .nothing => .object []
  | .facts payload => .object [("facts", payload)]
  | .types calls relationships fields =>
    .object [("calls", texts calls), ("relationships", texts relationships),
      ("fields", .object (fields.map (fun (name, c) => (memberName name, texts c))))]
  | .requests targets => .object [("outbound_calls", targets.toDoc id)]
  | .resources before after delta =>
    .object [("resources", .object [("from", before), ("to", after), ("delta", .int delta)])]

end Detail

def callText (c : Doc) : Result String := do
  return (← requiredMember c "caller").shown ++ "->" ++ (← requiredMember c "callee").shown

def relationshipText (r : Doc) : Result String := do
  return (← requiredMember r "from_type").shown ++ " -" ++ (← requiredMember r "kind").shown ++
    "-> " ++ (← requiredMember r "to_type").shown

/-- The texts of a member's items on both sides. -/
def textChange (member : String) (text : Doc → Result String) (before after : Doc) :
    Result (SetChange String) := do
  let old ← (← itemsOf before member).mapM text
  return .between old (← (← itemsOf after member).mapM text)

/-- The types of a payload with their names. -/
def namedTypes (payload : Doc) : Result (List (Doc × Doc)) := do
  (← itemsOf payload "types").mapM (fun t => do
    return (← toKey (← requiredMember t "name"), t))

/-- The last one of several types of a name. -/
def lastNamed? (types : List (Doc × Doc)) (name : Doc) : Option Doc :=
  (types.reverse.find? (fun t => t.1.same name)).map (·.2)

/-- The change is noted under its name, where it replaces an earlier one. -/
def FieldChanges.put (name : Doc) (c : SetChange String) : FieldChanges → FieldChanges
  | [] => [(name, c)]
  | (n, old) :: rest =>
    if n.same name then (n, c) :: rest else (n, old) :: FieldChanges.put name c rest

/-- Notes the change of the fields of a type that both sides have. -/
def addFieldChange (old : List (Doc × Doc)) (found : FieldChanges) (new : Doc) :
    Result FieldChanges := do
  let name ← toKey (← requiredMember new "name")
  match lastNamed? old name with
  | none => return found
  | some t =>
    let c := SetChange.between (← namedItems "fields" t) (← namedItems "fields" new)
    return if c.isEmpty then found else found.put name c

def fieldChanges (before after : Doc) : Result FieldChanges := do
  let old ← namedTypes before
  (← itemsOf after "types").foldlM (addFieldChange old) []

def typeDetail (before after : Doc) : Result Detail := do
  let calls ← textChange "calls" callText before after
  let relationships ← textChange "relationships" relationshipText before after
  return .types calls relationships (← fieldChanges before after)

instance : BEq Doc := ⟨Doc.same⟩

def requestTargets (payload : Doc) : Result (List Doc) := do
  (← itemsOf payload "outbound_calls").mapM (requiredMember · "target")

def requestDetail (before after : Doc) : Result Detail := do
  let old ← requestTargets before
  let new ← requestTargets after
  return .requests (.between (← old.mapM toKey) (← new.mapM toKey))

/-- The number of resources: given as a number, or the length of what is given. -/
def resourceCount (payload : Doc) : Result (Doc × Int) := do
  match (← memberOf payload "resources").getD (.int 0) with
  | .int i => return (.int i, i)
  | .bool b => return (.bool b, if b then 1 else 0)
  | d =>
    let n : Int := (← d.toItems).length
    return (.int n, n)

def resourceDetail (before after : Doc) : Result Detail := do
  let (shownOld, old) ← resourceCount before
  let (shownNew, new) ← resourceCount after
  return .resources shownOld shownNew (new - old)

/-- The detail of two payloads, if both are records and the domain has one. -/
def detailOf (domain : String) (before after : Doc) : Result Detail :=
  if !before.isObject || !after.isObject then .ok .nothing
  else if domain = typeDomain then typeDetail before after
  else if domain = topologyDomain then requestDetail before after
  else if domain = infrastructureDomain then resourceDetail before after
  else .ok .nothing

end RepoAtlas.Diff
