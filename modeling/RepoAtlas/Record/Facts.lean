import RepoAtlas.Record.TypeDefinition

/-!
The records of a repository's facts and the two fact domains with a schema.
-/
namespace RepoAtlas

/-! ### Relationships

Relationships between types, and the modules (directories) that types and relationships fall
into. Both are recomputed from type definitions and only stored for readers of a snapshot.
-/

inductive RelationKind where
  | parent | interface | contains | collection
  deriving DecidableEq, Repr, Inhabited

namespace RelationKind

def text : RelationKind → String
  | .parent => "extends"
  | .interface => "implements"
  | .contains => "contains"
  | .collection => "collection"

def ofText? (s : String) : Option RelationKind :=
  [RelationKind.parent, .interface, .contains, .collection].find? (·.text == s)

theorem ofText?_text (k : RelationKind) : ofText? k.text = some k := by
  cases k <;> decide

end RelationKind

structure Relationship where
  kind : RelationKind
  source : String
  target : String
  file : String := ""
  viaField : Option String := none
  deriving Repr, DecidableEq, Inhabited

structure TypeModule where
  path : String
  types : List String := []
  inner : List Relationship := []
  outer : List Relationship := []
  deriving Repr, DecidableEq, Inhabited

def Doc.toTextOption : Doc → Result (Option String)
  | .text s => .ok (some s)
  | .null => .ok none
  | _ => .error .wrongKind

namespace Relationship

def toDoc (r : Relationship) : Doc :=
  .object [("kind", .text r.kind.text), ("from_type", .text r.source),
    ("to_type", .text r.target), ("file", .text r.file), ("via_field", .ofOption r.viaField)]

def ofFull : Doc → Result Relationship
  | .object [(_, .text kind), (_, .text source), (_, .text target), (_, .text file),
      (_, via)] => do
    let kind ← match RelationKind.ofText? kind with
      | some k => .ok k
      | none => .error .wrongKind
    return { kind, source, target, file, viaField := ← via.toTextOption }
  | _ => .error .wrongKind

end Relationship

namespace TypeModule

def toDoc (m : TypeModule) : Doc :=
  .object [("path", .text m.path), ("types", .ofTexts m.types),
    ("internal_relationships", .list (m.inner.map Relationship.toDoc)),
    ("external_relationships", .list (m.outer.map Relationship.toDoc))]

def ofFull : Doc → Result TypeModule
  | .object [(_, .text path), (_, .list types), (_, .list inner), (_, .list outer)] => do
    return { path, types := ← types.mapM Doc.toText, inner := ← inner.mapM Relationship.ofFull,
             outer := ← outer.mapM Relationship.ofFull }
  | _ => .error .wrongKind

end TypeModule

/-! ### Calls and services

Calls between functions, services that a repository declares, and requests that it sends out.
Annotations of services and requests that come from manifests (image, caller, method) are kept
as documents, since a manifest may put any value there.
-/

structure CallEdge where
  caller : String
  callee : String
  file : String := ""
  line : Int := 0
  deriving Repr, DecidableEq, Inhabited

inductive Layer where
  | edge | backend | internal
  deriving DecidableEq, Repr, Inhabited

namespace Layer

def text : Layer → String
  | .edge => "edge"
  | .backend => "backend"
  | .internal => "internal"

def all : List Layer := [.edge, .backend, .internal]

def ofText? (s : String) : Option Layer := all.find? (·.text == s)

theorem ofText?_text (l : Layer) : ofText? l.text = some l := by
  cases l <;> decide

end Layer

structure Service where
  name : String
  layer : Layer
  owner : String := ""
  routes : List String := []
  image : Doc := .null
  deriving Repr, Inhabited

structure OutboundCall where
  target : String
  file : String := ""
  line : Int := 0
  caller : Doc := .null
  method : Doc := .null
  deriving Repr, Inhabited

namespace CallEdge

def toDoc (c : CallEdge) : Doc :=
  .object [("caller", .text c.caller), ("callee", .text c.callee), ("file", .text c.file),
    ("line", .int c.line)]

def ofFull : Doc → Result CallEdge
  | .object [(_, .text caller), (_, .text callee), (_, .text file), (_, .int line)] =>
    .ok { caller, callee, file, line }
  | _ => .error .wrongKind

end CallEdge

namespace Service

def toDoc (s : Service) : Doc :=
  .object [("name", .text s.name), ("layer", .text s.layer.text), ("owner_repo", .text s.owner),
    ("route_patterns", .ofTexts s.routes), ("container_image", s.image)]

def ofFull : Doc → Result Service
  | .object [(_, .text name), (_, .text layer), (_, .text owner), (_, .list routes),
      (_, image)] => do
    let layer ← match Layer.ofText? layer with
      | some l => .ok l
      | none => .error .wrongKind
    return { name, layer, owner, routes := ← routes.mapM Doc.toText, image }
  | _ => .error .wrongKind

def ofDoc (d : Doc) : Result Service := do
  ofFull (← conform .service d)

end Service

namespace OutboundCall

def toDoc (c : OutboundCall) : Doc :=
  .object [("target", .text c.target), ("file", .text c.file), ("line", .int c.line),
    ("caller", c.caller), ("method", c.method)]

def ofFull : Doc → Result OutboundCall
  | .object [(_, .text target), (_, .text file), (_, .int line), (_, caller), (_, method)] =>
    .ok { target, file, line, caller, method }
  | _ => .error .wrongKind

end OutboundCall

/-! ### Domains

The two fact domains with a schema: type definitions with their calls, and the service topology.
-/

structure TypeFacts where
  types : List TypeDefinition := []
  relationships : List Relationship := []
  modules : List TypeModule := []
  calls : List CallEdge := []
  deriving Repr, Inhabited

structure TopologyFacts where
  services : List Service := []
  outboundCalls : List OutboundCall := []
  deriving Repr, Inhabited

/-- The names of the two domains. -/
def typeDomain : String := "type_definitions"
def topologyDomain : String := "service_topology"

namespace TypeFacts

def toDoc (f : TypeFacts) : Doc :=
  .object [("types", .list (f.types.map TypeDefinition.toDoc)),
    ("relationships", .list (f.relationships.map Relationship.toDoc)),
    ("modules", .list (f.modules.map TypeModule.toDoc)),
    ("calls", .list (f.calls.map CallEdge.toDoc))]

def ofFull : Doc → Result TypeFacts
  | .object [(_, .list types), (_, .list relationships), (_, .list modules),
      (_, .list calls)] => do
    return { types := ← types.mapM TypeDefinition.ofFull,
             relationships := ← relationships.mapM Relationship.ofFull,
             modules := ← modules.mapM TypeModule.ofFull,
             calls := ← calls.mapM CallEdge.ofFull }
  | _ => .error .wrongKind

def ofDoc (d : Doc) : Result TypeFacts := do
  ofFull (← conform .typeFacts d)

end TypeFacts

namespace TopologyFacts

def toDoc (f : TopologyFacts) : Doc :=
  .object [("services", .list (f.services.map Service.toDoc)),
    ("outbound_calls", .list (f.outboundCalls.map OutboundCall.toDoc))]

def ofFull : Doc → Result TopologyFacts
  | .object [(_, .list services), (_, .list calls)] => do
    return { services := ← services.mapM Service.ofFull,
             outboundCalls := ← calls.mapM OutboundCall.ofFull }
  | _ => .error .wrongKind

def ofDoc (d : Doc) : Result TopologyFacts := do
  ofFull (← conform .topologyFacts d)

end TopologyFacts

end RepoAtlas
