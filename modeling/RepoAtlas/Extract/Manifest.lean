import RepoAtlas.Extract.FileFacts
import RepoAtlas.Yaml.Meaning

/-!
Facts in YAML files: service inventories and cluster manifests.
-/
namespace RepoAtlas.Inventory

/-! ### Inventories

In an inventory a repository declares its services and the requests that it sends.
-/

open Yaml

def layerOf (text : String) : Result Layer :=
  match Layer.ofText? text with
  | some layer => .ok layer
  | none => .error (.unknownChoice "service layer" text layerTexts)

/-- The value, or a text in place of an empty one. -/
def textOr (v : Value) (default : String) : String := if v.isTruthy then v.shown else default

def serviceOf (entry : Value) : Result Service := do
  let name := (← entry.need "name").shown
  let layer := textOr (← entry.get "layer") "internal"
  let owner := textOr (← entry.get "owner") ""
  let routes ← (← entry.get "routes").orEmptyList.items
  let image ← entry.get "image"
  return { name, layer := ← layerOf layer, owner, routes := routes.map Value.shown,
           image := image.toDoc }

def callOf (path : String) (entry : Value) : Result OutboundCall := do
  let target := (← entry.need "target").shown
  let caller ← entry.get "caller"
  let method ← entry.get "method"
  return { target, file := path, caller := caller.toDoc, method := method.toDoc }

/-- The facts of an inventory's text. -/
def facts (content path : String) : Result FileFacts := do
  let declared := (← singleDocument content).orEmptyMap
  let services ← (← (← declared.get "services").orEmptyList.items).mapM serviceOf
  let calls ← (← (← declared.get "calls").orEmptyList.items).mapM (callOf path)
  return { services, outboundCalls := calls }

end RepoAtlas.Inventory

namespace RepoAtlas.Manifest

/-! ### Cluster manifests

Every declared object is a resource, workloads are backend services, and an ingress is an edge
service with the routes that it opens.
-/

open Yaml

def workloadKinds : List String := ["Deployment", "StatefulSet", "DaemonSet", "CronJob", "Job"]

/-- The value under a key, or an empty map. -/
def part (v : Value) (key : String) : Result Value := do return (← v.get key).orEmptyMap

/-- The pod template of a workload; a scheduled job holds it in the template of its jobs. -/
def podTemplate (spec : Value) : Result Value := do
  let direct ← part spec "template"
  if spec.has "jobTemplate" then part (← part (← part spec "jobTemplate") "spec") "template"
  else return direct

/-- The image of the first container that names one. -/
def firstImage (spec : Value) : Result Value := do
  let containers ← (← part (← podTemplate spec) "spec").get "containers"
  let images ← (← containers.orEmptyList.items).filterMapM (fun container =>
    match container with
    | .map _ => do return some (← container.get "image")
    | _ => pure none)
  return (images.find? Value.isTruthy).getD .null

/-- The routes of one rule: its host with each path, or with any path if none is given. -/
def ruleRoutes (rule : Value) : Result (List String) := do
  let host ← rule.get "host" (.text "")
  let paths ← (← part rule "http").get "paths"
  let routes ← (← paths.orEmptyList.items).mapM (fun path => do
    return host.shown ++ (← path.get "path" (.text "/")).shown)
  return routes ++ (if host.isTruthy && !paths.isTruthy then [host.shown ++ "/*"] else [])

def ingressRoutes (spec : Value) : Result (List String) := do
  let rules ← (← (← spec.get "rules").orEmptyList.items).mapM ruleRoutes
  return rules.flatten

def isObject (doc : Value) : Bool := doc.has "kind" && doc.has "apiVersion"

/-- The facts of one document; one that declares no object has none. -/
def documentFacts (path : String) (doc : Value) : Result FileFacts := do
  if !isObject doc then return {}
  let kind := (← doc.get "kind").shown
  let metadata ← part doc "metadata"
  let name := (← metadata.get "name" (.text "unnamed")).shown
  let scope := (← metadata.get "namespace" (.text "")).shown
  let resources := [{ kind, name, scope, file := path }]
  let spec ← part doc "spec"
  if workloadKinds.contains kind then
    let image ← firstImage spec
    return { resources, services := [{ name, layer := .backend, image := image.toDoc }] }
  else if kind = "Ingress" then
    return { resources, services := [{ name, layer := .edge, routes := ← ingressRoutes spec }] }
  else return { resources }

/-- The facts of a manifest's text. -/
def facts (content path : String) : Result FileFacts := do
  let parts ← (documents content).mapM (fun doc => do documentFacts path (← doc))
  return FileFacts.join parts

end RepoAtlas.Manifest
