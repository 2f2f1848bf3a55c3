import RepoAtlas.Net.Url
import RepoAtlas.OrderedMap
import RepoAtlas.Record.Facts
import RepoAtlas.Text.Glob
import RepoAtlas.Text.Pieces

/-!
Which repository a service belongs to, and which service answers a request.
-/
namespace RepoAtlas.Topology

/-! ### Owners

Services behind the edge name their owner; those that a
cluster runs are traced back by rules, by their image, or by their name without the suffix of
its deployment; all others belong to the repository that declares them.
-/

open RepoAtlas.Text

/-- The name of an image without its registry, folders, digest and tag. -/
def imageName (image : String) : String :=
  let last := afterLast '/' (dropEndWhile (· == '/') image.toList)
  String.ofList ((last.takeWhile (· ≠ '@')).takeWhile (· ≠ ':'))

def deploymentSuffixes : List String :=
  ["-api", "-relay", "-worker", "-service", "-server", "-web", "-app"]

/-- A name without the suffix of its deployment; a suffix alone is a name. -/
def withoutDeploymentSuffix (name : String) : String :=
  let s := name.toList
  match deploymentSuffixes.find? (fun e => e.toList.isSuffixOf s && e.length < s.length) with
  | some e => String.ofList (s.take (s.length - e.length))
  | none => name

/-- Owners that a user has fixed: by the name of a service, and by its full or short image. -/
structure OwnershipRules where
  explicit : List (String × Doc) := []
  images : List (String × Doc) := []
  deriving Repr, Inhabited

/-- The image of a service, if it has one. -/
def imageOf (s : Service) : Result (Option String) :=
  match s.image with
  | .text image => .ok (if image.isEmpty then none else some image)
  | .list (_ :: _) | .object (_ :: _) => .error .wrongKind
  | d => if d.isTruthy then .error .notARecord else .ok none

/-- The owner that a rule for the image names. -/
def ruledByImage? (rules : OwnershipRules) (image : String) : Option Doc :=
  (OrderedMap.lookup image rules.images).or (OrderedMap.lookup (imageName image) rules.images)

/-- The known repository that the names stand for, shortened names first. -/
def knownName? (known : List String) (names : List String) : Option String :=
  (names.flatMap (fun n => [withoutDeploymentSuffix n, n])).find? known.contains

def clusterOwner (rules : OwnershipRules) (known : List String) (declaring : String)
    (s : Service) : Result String := do
  if let some owner := OrderedMap.lookup s.name rules.explicit then
    return ← owner.toText
  if !s.owner.isEmpty && s.owner ≠ declaring then
    return s.owner
  let image ← imageOf s
  match image.bind (ruledByImage? rules) with
  | some owner => owner.toText
  | none =>
    return (knownName? known (s.name :: (image.map imageName).toList)).getD declaring

def ownerOf (rules : OwnershipRules) (known : List String) (declaring : String)
    (s : Service) : Result String :=
  match s.layer with
  | .backend => clusterOwner rules known declaring s
  | .edge => .ok (if s.owner.isEmpty then declaring else s.owner)
  | .internal => .ok declaring

/-! ### Providers

Every service is found by its name, one behind the edge also by its
routes, and a key belongs to the first service that claims it. A target is matched with the
keys exactly, then as a text of a glob, then by the first label of its host, and at last by
the beginning of its path.
-/

open RepoAtlas.Text

structure Provider where
  key : String
  repo : String
  service : String
  layer : Layer
  deriving Repr, DecidableEq, Inhabited

def Provider.toDoc (p : Provider) : Doc :=
  .object [("key", .text p.key), ("repo", .text p.repo), ("service", .text p.service),
    ("layer", .text p.layer.text)]

def keysOf (s : Service) : List String :=
  if s.layer = .edge then s.routes ++ [s.name] else [s.name]

/-- The providers by key; services carry their owners already. -/
def providerIndex (services : List Service) : OrderedMap String Provider :=
  services.foldl
    (fun m s => (keysOf s).foldl (fun m k => m.insertNew k ⟨k, s.owner, s.name, s.layer⟩) m) {}

/-- A target as a text, and its host and its path if it reads as an address. -/
structure Target where
  text : String
  host : String := ""
  path : String := ""
  deriving Repr, DecidableEq

namespace Target

def parse (target : String) : Result Target := do
  let s := target.toList
  if s.head? = some '/' then
    return { text := target, path := target }
  else if occursIn "://".toList s then
    let (host, path) ← Net.hostAndPath s
    return ⟨target, String.ofList host, String.ofList path⟩
  else if '/' ∈ s || '.' ∈ s then
    let (host, path) ← Net.hostAndPath ('/' :: '/' :: s)
    return ⟨target, String.ofList host, String.ofList path⟩
  else
    return { text := target }

/-- Texts that may be keys, in the order in which they are tried. -/
def exactForms (t : Target) : List String :=
  [t.text, t.host ++ t.path, t.path, t.host].filter (!·.isEmpty)

/-- Texts that a glob may stand for. -/
def globForms (t : Target) : List String :=
  [t.text, t.host ++ t.path, t.path].filter (!·.isEmpty)

def hostLabel (t : Target) : String := String.ofList (t.host.toList.takeWhile (· ≠ '.'))

end Target

/-- Keys with longer ones first. -/
def longestFirst (keys : List String) : List String :=
  keys.mergeSort (fun a b => decide (b.length ≤ a.length))

/-- Whether the path lies at or below the key, read as a path that may end in a star. -/
def isBelow (path key : String) : Bool :=
  let base := dropEndWhile (· == '/') (dropEndWhile (· == '*') key.toList)
  base.head? == some '/' && (path.toList == base || (base ++ ['/']).isPrefixOf path.toList)

/-- The key under which a target is answered. -/
def matchingKey? (keys : List String) (t : Target) : Option String :=
  let sorted := longestFirst keys
  (t.exactForms.find? keys.contains).or <|
    (sorted.find? (fun k => isGlob k && t.globForms.any (globMatches k))).or <|
      (if !t.host.isEmpty && keys.contains t.hostLabel then some t.hostLabel else none).or <|
        if t.path.isEmpty then none else sorted.find? (isBelow t.path)

def matchProvider (providers : OrderedMap String Provider) (target : String) :
    Result (Option Provider) := do
  return (matchingKey? providers.keys (← Target.parse target)).bind providers.get?

end RepoAtlas.Topology
