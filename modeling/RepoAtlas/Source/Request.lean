import RepoAtlas.Record.Facts
import RepoAtlas.Source.Tree
import RepoAtlas.Source.TypeAnnotation
import RepoAtlas.Text.LowerCase

/-!
Calls in a piece of a tree, and the requests that they send to other services.
-/
namespace RepoAtlas.Source

/-! ### Calls

Calls that a piece of a tree makes itself, in the order of the tree: those in nested functions,
classes and lambdas belong to others. A dictionary's keys come before its values.
-/

structure CallSite where
  line : Nat
  function : Expr
  args : List Expr
  keywords : List Expr
  deriving Repr, Inhabited

mutual

def Expr.calls : Expr → List CallSite
  | .name _ | .constant _ | .lambda _ _ => []
  | .template parts => Expr.callsAll parts
  | .hole value _ _ format => value.calls ++ Expr.callsAll format
  | .attribute value _ => value.calls
  | .subscript value index => value.calls ++ index.calls
  | .call line function args keywords =>
    ⟨line, function, args, keywords⟩ ::
      (function.calls ++ Expr.callsAll args ++ Expr.callsAll keywords)
  | .keyword _ value => value.calls
  | .starred value => value.calls
  | .boolean _ values => Expr.callsAll values
  | .named _ value => value.calls
  | .binary _ left right => left.calls ++ right.calls
  | .unary _ e => e.calls
  | .param _ default => Expr.callsOption default
  | .conditional test yes no => test.calls ++ yes.calls ++ no.calls
  | .dict entries => Expr.callsOfKeys entries ++ Expr.callsOfValues entries
  | .entry key value => Expr.callsOption key ++ value.calls
  | .set items | .list items | .tuple items => Expr.callsAll items
  | .comprehension _ element clauses => element.calls ++ Expr.callsAll clauses
  | .dictComprehension key value clauses => key.calls ++ value.calls ++ Expr.callsAll clauses
  | .clause _ target source conditions =>
    target.calls ++ source.calls ++ Expr.callsAll conditions
  | .await value | .yieldFrom value => value.calls
  | .yield value => Expr.callsOption value
  | .compare first rest => first.calls ++ Expr.callsAll rest
  | .operand _ value => value.calls
  | .slice lower upper step =>
    Expr.callsOption lower ++ Expr.callsOption upper ++ Expr.callsOption step

def Expr.callsAll : List Expr → List CallSite
  | [] => []
  | e :: rest => e.calls ++ Expr.callsAll rest

def Expr.callsOption : Option Expr → List CallSite
  | none => []
  | some e => e.calls

def Expr.keyCalls : Expr → List CallSite
  | .entry key _ => Expr.callsOption key
  | _ => []

def Expr.valueCalls : Expr → List CallSite
  | .entry _ value => value.calls
  | _ => []

def Expr.callsOfKeys : List Expr → List CallSite
  | [] => []
  | e :: rest => e.keyCalls ++ Expr.callsOfKeys rest

def Expr.callsOfValues : List Expr → List CallSite
  | [] => []
  | e :: rest => e.valueCalls ++ Expr.callsOfValues rest

end

mutual

def Stmt.calls : Stmt → List CallSite
  | .function .. | .class_ .. => []
  | .assign _ targets value => Expr.callsAll targets ++ value.calls
  | .annotated _ target declared value =>
    target.calls ++ declared.calls ++ Expr.callsOption value
  | .expression value => value.calls
  | .simple values => Expr.callsAll values
  | .block head body => Expr.callsAll head ++ Stmt.callsAll body

def Stmt.callsAll : List Stmt → List CallSite
  | [] => []
  | s :: rest => s.calls ++ Stmt.callsAll rest

end

/-! ### Requests

Requests that calls send to other services. A call sends one if it names a verb of a client and
its address is written out.
-/

def requestVerbs : List String :=
  ["get", "post", "put", "patch", "delete", "head", "request", "fetch", "urlopen"]

/-- Verbs that need no client. -/
def freeVerbs : List String := ["fetch", "urlopen"]

/-- Verbs that name the method of their request. -/
def methodVerbs : List String := ["get", "post", "put", "patch", "delete", "head"]

def clientNames : List String := ["requests", "httpx", "session", "client", "http", "aiohttp"]

/-- Whether a receiver is a client by its name, letter case and underscores in front apart. -/
def isClient (receiver : String) : Bool :=
  let name := (Text.lower receiver.toList).dropWhile (· == '_')
  clientNames.contains (String.ofList name) ||
    "client".toList.isSuffixOf name || "session".toList.isSuffixOf name

def isRequest (callee : String) : Bool :=
  match (Text.splitAt '.' callee.toList).reverse with
  | [verb] => freeVerbs.contains (String.ofList verb)
  | verb :: receiver :: _ =>
    requestVerbs.contains (String.ofList verb) && isClient (String.ofList receiver)
  | [] => false

/-- A part of a text with holes; a hole may be anything. -/
def partText : Expr → String
  | .constant (.text s _) => s
  | _ => "*"

def isAddress (s : String) : Bool :=
  ["http://", "https://", "/"].any (fun start => start.toList.isPrefixOf s.toList)

/-- The address that an expression writes out. -/
def addressText? (e : Expr) : Option String :=
  let text := match e with
    | .constant (.text s _) => some s
    | .template parts => some (String.join (parts.map partText))
    | _ => none
  text.filter isAddress

def urlKeyword? : Expr → Option Expr
  | .keyword (some "url") value => some value
  | _ => none

/-- The argument that holds the address: the last keyword `url`, or the first of the others; of
`request` with a method, the second. -/
def addressArgument? (verb : String) (call : CallSite) : Option Expr :=
  match (call.keywords.filterMap urlKeyword?).getLast?, call.args with
  | some e, _ => some e
  | none, first :: second :: _ => some (if verb = "request" then second else first)
  | none, args => args.head?

def lastSegment (callee : String) : String :=
  String.ofList (Text.afterLast '.' callee.toList)

def requestTarget? (callee : String) (call : CallSite) : Option String :=
  if isRequest callee then (addressArgument? (lastSegment callee) call).bind addressText?
  else none

def requestMethod (callee : String) : Doc :=
  let verb := lastSegment callee
  if methodVerbs.contains verb then .text verb.toUpper else .null

end RepoAtlas.Source
