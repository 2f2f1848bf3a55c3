import RepoAtlas.Calls.Graph
import RepoAtlas.Text.CharClass

/-!
What the label of a called function tells: calls that are mere plumbing, and calls that leave
the repository. A line feed that ends a label is not part of it.
-/
namespace RepoAtlas.Calls

open RepoAtlas.Text

/-- A label without a line feed at its end. -/
def bare (label : String) : List Char :=
  match label.toList.reverse with
  | '\n' :: rest => rest.reverse
  | _ => label.toList

/-- A label as what stands before its last dot and what stands after it. -/
structure Dotted where
  receiver : String
  member : String
  deriving DecidableEq, Repr

def dotted? (s : List Char) : Option Dotted :=
  if '.' ∈ s then
    let member := afterLast '.' s
    some ⟨String.ofList (s.take (s.length - member.length - 1)), String.ofList member⟩
  else none

def isWord (s : String) : Bool := !s.isEmpty && s.toList.all isWordChar

def loggers : List String := ["console", "logger", "logging", "log", "_logger", "LOGGER", "LOG"]

def collectionMembers : List String :=
  ["append", "extend", "insert", "pop", "push", "shift", "unshift", "splice", "slice", "map",
   "filter", "reduce", "forEach", "keys", "values", "items", "entries", "get", "set", "has",
   "add", "remove", "discard", "update", "setdefault", "copy", "clear", "sort", "reverse", "join",
   "split", "strip", "lstrip", "rstrip", "trim", "replace", "lower", "upper", "toLowerCase",
   "toUpperCase", "startswith", "endswith", "startsWith", "endsWith", "includes", "indexOf",
   "format", "toString", "substring", "concat"]

def plainFunctions : List String :=
  ["print", "len", "range", "enumerate", "zip", "sorted", "reversed", "isinstance", "hasattr",
   "getattr", "setattr", "min", "max", "sum", "any", "all", "iter", "next", "list", "dict", "set",
   "tuple", "super", "String", "Number", "Boolean", "Object", "Array", "BigInt", "Symbol", "str",
   "int", "float", "bool", "bytes"]

def codecs : List String := ["json", "JSON"]

def codecMembers : List String := ["dumps", "loads", "dump", "load", "stringify", "parse"]

def promiseMembers : List String := ["then", "catch", "finally"]

/-- Logging, collection and text methods, built-in functions, JSON codecs and promise
chaining. -/
def isPlumbing (callee : String) : Bool :=
  let s := bare callee
  plainFunctions.contains (String.ofList s) ||
    match dotted? s with
    | some ⟨receiver, member⟩ =>
      ((loggers.contains receiver || receiver == "Promise") && isWord member) ||
        (codecs.contains receiver && codecMembers.contains member) ||
        collectionMembers.contains member || promiseMembers.contains member
    | none => false

inductive Dependency where
  | datastore | network | facade
  deriving DecidableEq, Repr

def Dependency.text : Dependency → String
  | .datastore => "datastore"
  | .network => "network"
  | .facade => "facade"

def datastoreEndings : List String :=
  ["db", "Db", "DB", "database", "Database", "cache", "Cache", "redis", "Redis", "relay", "Relay",
   "repository", "Repository", "cursor", "prisma", "pool"]

def facadeEndings : List String :=
  ["client", "Client", "service", "Service", "api", "Api", "API"]

def networkReceivers : List String :=
  ["requests", "httpx", "aiohttp", "axios", "urllib", "urllib.request", "http"]

/-- A word that ends in one of the endings, with a word as member. -/
def endsReceiver (endings : List String) (label : Option Dotted) : Bool :=
  match label with
  | some ⟨receiver, member⟩ =>
    receiver.toList.all isWordChar && isWord member &&
      endings.any (fun e => e.toList.isSuffixOf receiver.toList)
  | none => false

/-- `fetch` or `request` followed by a capital or an underscore, such as `fetchUser`. -/
def isRequestVerb (segment : List Char) : Bool :=
  ["fetch", "request"].any (fun verb =>
    verb.toList.isPrefixOf segment &&
      match segment.drop verb.length with
      | c :: rest => (('A' ≤ c && c ≤ 'Z') || c == '_') && rest.all isWordChar
      | [] => false)

def isNetworkCall (s : List Char) : Bool :=
  let segment := afterLast '.' s
  ["fetch", "urlopen"].contains (String.ofList segment) || isRequestVerb segment ||
    match dotted? s with
    | some ⟨receiver, member⟩ => networkReceivers.contains receiver && isWord member
    | none => false

/-- The kind of thing outside the repository that a call reaches, if it reaches one. -/
def dependency? (callee : String) : Option Dependency :=
  let s := bare callee
  if endsReceiver datastoreEndings (dotted? s) then some .datastore
  else if isNetworkCall s then some .network
  else if endsReceiver facadeEndings (dotted? s) then some .facade
  else none

end RepoAtlas.Calls
