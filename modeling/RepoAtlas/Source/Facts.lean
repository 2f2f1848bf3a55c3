import RepoAtlas.Extract.FileFacts
import RepoAtlas.Source.Declaration
import RepoAtlas.Source.Request
import RepoAtlas.Source.Statement

/-!
The facts of a source module: its type definitions, and the calls and requests that each
function makes itself. A definition comes before those inside it.
-/
namespace RepoAtlas.Source

/-- The facts of one call in the body of `caller`. -/
def callFacts (path caller : String) (call : CallSite) : FileFacts :=
  match call.function.dottedName? with
  | none => {}
  | some callee =>
    { calls := [{ caller, callee, file := path, line := call.line }]
      outboundCalls := (requestTarget? callee call).toList.map (fun target =>
        { target, file := path, line := call.line, caller := .text caller,
          method := requestMethod callee }) }

def dotted (scope : List String) : String := String.intercalate "." scope

mutual

/-- The facts of a statement inside the given definitions, outermost first. -/
def stmtFacts (path : String) (scope : List String) : Stmt → Result FileFacts
  | .function _ name body => do
    let scope := scope ++ [name]
    let own := FileFacts.join ((Stmt.callsAll body).map (callFacts path (dotted scope)))
    return own ++ (← stmtsFacts path scope body)
  | .class_ line name decorators bases keywords body => do
    let own ← classDefinition path line name decorators bases keywords body
    return { types := [own] } ++ (← stmtsFacts path (scope ++ [name]) body)
  | .block _ body => stmtsFacts path scope body
  | s => .ok { types := if scope.isEmpty then (aliasDefinition? path s).toList else [] }

def stmtsFacts (path : String) (scope : List String) : List Stmt → Result FileFacts
  | [] => .ok {}
  | s :: rest => do
    let head ← stmtFacts path scope s
    return head ++ (← stmtsFacts path scope rest)

end

/-- The facts of a module's text. -/
def facts (content path : String) : Result FileFacts :=
  if content.toList.contains '\x00' then .error .nullInSource
  else match module? content.toList with
    | none => .error .sourceForm
    | some body => stmtsFacts path [] body

end RepoAtlas.Source
