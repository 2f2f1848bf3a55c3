import RepoAtlas.Record.Facts
import RepoAtlas.Record.TypeDefinition
import RepoAtlas.Types.Similarity

/-!
Relationships and modules derived from type definitions, and which types tell most about a
repository.
-/
namespace RepoAtlas.Types

/-! ### Importance

The weight that decides what a diagram keeps, and the test for domain entities.
-/

def isContract (k : TypeKind) : Bool :=
  match k with
  | .trait | .interface | .protocol => true
  | _ => false

def importance (t : TypeDefinition) : Nat :=
  (if t.isPublic then 2 else 0) + t.fields.length + (if t.doc.isEmpty then 0 else 1) +
    (if isContract t.kind then 3 else 0) + (if t.parents.isEmpty then 0 else 2) +
    (if t.interfaces.isEmpty then 0 else 2)

/-- Names of wrappers and errors; a line feed after `Error` does not matter. -/
def isWrapperName (name : String) : Bool :=
  let s := name.toList
  ["Option", "Result", "Vec", "Box"].any (fun lead => lead.toList.isPrefixOf s) ||
    ["Error", "Error\n"].any (fun tail => tail.toList.isSuffixOf s)

/-- Records of several fields that are neither wrappers nor errors. -/
def isEntity (t : TypeDefinition) : Bool :=
  t.kind != .enum && t.kind != .typeAlias && 2 ≤ t.fields.length && !isWrapperName t.name

/-! ### Relationships

A field counts as a reference when the named type is declared in the same set; its generic
arguments count too.
-/

def fieldRelations (known : List String) (t : TypeDefinition) (f : Field) : List Relationship :=
  let kind := if f.typeRef.isCollection then RelationKind.collection else .contains
  let targets := (if known.contains f.typeRef.name then [f.typeRef.name] else []) ++
    (f.typeRef.generics.map (·.name)).filter (fun g => known.contains g && g != f.typeRef.name)
  targets.map (fun target => ⟨kind, t.name, target, t.file, some f.name⟩)

def relationsOf (known : List String) (t : TypeDefinition) : List Relationship :=
  t.parents.map (fun p => ⟨.parent, t.name, p.name, t.file, none⟩) ++
    t.interfaces.map (fun i => ⟨.interface, t.name, i.name, t.file, none⟩) ++
    t.fields.flatMap (fieldRelations known t)

def relations (types : List TypeDefinition) : List Relationship :=
  types.flatMap (relationsOf (types.map (·.name)))

/-- The directory part of a file path; a file at the top lies in `/`. -/
def directory (file : String) : String :=
  let parts := (Text.splitAt '/' file.toList).dropLast
  let path := String.ofList (['/'].intercalate parts)
  if path.isEmpty then "/" else path

def byDirectory (types : List TypeDefinition) : OrderedMap String (List TypeDefinition) :=
  .groupedBy (fun t => directory t.file) types

/-- A module takes every relationship that starts at one of its type names. -/
def moduleOf (rels : List Relationship) (path : String) (types : List TypeDefinition) :
    TypeModule :=
  let names := types.map (·.name)
  let own := rels.filter (fun r => names.contains r.source)
  { path, types := names, inner := own.filter (fun r => names.contains r.target),
    outer := own.filter (fun r => !names.contains r.target) }

def modules (types : List TypeDefinition) (rels : List Relationship) : List TypeModule :=
  ((byDirectory types).entries.map (fun (path, ts) => moduleOf rels path ts)).mergeSort
    (fun a b => decide (a.path ≤ b.path))

/-- The facts of a snapshot, with relationships and modules derived anew. -/
def factsOf (types : List TypeDefinition) (calls : List CallEdge := []) : TypeFacts :=
  let rels := relations types
  { types, relationships := rels, modules := modules types rels, calls }

/-- The relationships that touch a name which mentions the focus; all without a focus. -/
def touching (focus : String) (rels : List Relationship) : List Relationship :=
  if focus.isEmpty then rels
  else rels.filter (fun r => mentions focus r.source || mentions focus r.target)

/-- How often each text occurs, in first-seen order. -/
def tally (texts : List String) : List (String × Nat) :=
  (texts.foldl (fun (m : OrderedMap String Nat) t => m.update t (fun n => n.getD 0 + 1)) {}).entries

structure Summary where
  byKind : List (String × Nat)
  byLanguage : List (String × Nat)
  byModule : List (String × Nat)
  types : Nat
  relationships : Nat
  calls : Nat
  deriving Repr

def summarize (facts : TypeFacts) : Summary where
  byKind := tally (facts.types.map (·.kind.text))
  byLanguage := tally (facts.types.map (·.language))
  byModule := (OrderedMap.ofList (facts.modules.map (fun m => (m.path, m.types.length)))).entries
  types := facts.types.length
  relationships := facts.relationships.length
  calls := facts.calls.length

end RepoAtlas.Types
