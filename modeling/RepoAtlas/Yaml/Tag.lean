import RepoAtlas.Text.CodeRanges
import RepoAtlas.Yaml.Cursor

/-!
Names of anchors, tags and directives.
-/
namespace RepoAtlas.Yaml

def isNameChar (c : Char) : Bool :=
  c.isAlphanum || c == '-' || c == '_'

/-- The name of an anchor or an alias, behind its mark. -/
def anchorName (c : Cursor) : Result (String × Cursor) :=
  let (name, after) := c.next.span isNameChar
  let ends := match after.peek with
    | none => true
    | some x => endsWord x || "?:,]\x7d%@".toList.contains x || x == '\x60'
  if name.isEmpty || !ends then .error .manifestForm else .ok (String.ofList name, after)

def isUriChar (c : Char) : Bool :=
  c.isAlphanum || "-;/?:@&=+$,_.!~*'()[]%".toList.contains c

/-- The bytes of a run of escapes `%41%C3`. -/
def uriBytes : List Char → Option (List UInt8 × List Char)
  | '%' :: a :: b :: rest => do
    let high ← Text.hexDigitValue? a
    let low ← Text.hexDigitValue? b
    match rest with
    | '%' :: _ =>
      let (more, rest) ← uriBytes rest
      some (UInt8.ofNat (16 * high + low) :: more, rest)
    | _ => some ([UInt8.ofNat (16 * high + low)], rest)
  | _ => none

def uriFrom : Nat → Cursor → Result (List Char × Cursor)
  | 0, c => .ok ([], c)
  | fuel + 1, c =>
    match c.peek with
    | some '%' =>
      match uriBytes c.rest with
      | some (bytes, rest) =>
        match String.fromUTF8? ⟨bytes.toArray⟩ with
        | some text => do
          let (more, c) ← uriFrom fuel (c.skip (c.rest.length - rest.length))
          return (text.toList ++ more, c)
        | none => .error .manifestForm
      | none => .error .manifestForm
    | some x =>
      if isUriChar x then do
        let (more, c) ← uriFrom fuel c.next
        return (x :: more, c)
      else .ok ([], c)
    | none => .ok ([], c)

/-- A nonempty URI. -/
def uri (c : Cursor) : Result (String × Cursor) := do
  let (text, after) ← uriFrom (c.rest.length + 1) c
  if after.index = c.index then .error .manifestForm else return (String.ofList text, after)

/-- The handle of a tag: `!`, or a name between two such marks. -/
def tagHandle (c : Cursor) : Result (String × Cursor) :=
  if c.peek != some '!' then .error .manifestForm
  else if c.peekAt 1 == some ' ' then .ok ("!", c.next)
  else
    let (name, after) := c.next.span isNameChar
    if after.peek == some '!' then .ok (String.ofList ('!' :: name ++ ['!']), after.next)
    else .error .manifestForm

/-- A tag as written: a handle, perhaps, and what follows it. -/
structure TagName where
  handle : Option String
  suffix : String
  deriving DecidableEq, Repr, Inhabited

/-- Whether a second mark comes before the end of the tag's word. -/
def hasHandle (c : Cursor) : Bool :=
  (c.next.rest.takeWhile (fun (x : Char) => !endsItem x)).contains '!'

def tagName (c : Cursor) : Result (TagName × Cursor) := do
  let (name, after) ←
    if c.peekAt 1 == some '<' then do
      let (suffix, after) ← uri (c.skip 2)
      if after.peek == some '>' then pure (⟨none, suffix⟩, after.next) else .error .manifestForm
    else if endsWord (c.peekAt 1) then pure (⟨none, "!"⟩, c.next)
    else do
      let (handle, after) ← if hasHandle c then tagHandle c else pure ("!", c.next)
      let (suffix, after) ← uri after
      pure (⟨some handle, suffix⟩, after)
  if endsItem after.peek then return (name, after) else .error .manifestForm

inductive Directive where
  | version (major : Nat)
  | tagHandle (handle start : String)
  | other
  deriving DecidableEq, Repr, Inhabited

def digits (c : Cursor) : Result (Nat × Cursor) :=
  let (ds, after) := c.span Char.isDigit
  if ds.isEmpty then .error .manifestForm
  else .ok (ds.foldl (fun n d => 10 * n + (d.toNat - 48)) 0, after)

def versionNumber (c : Cursor) : Result (Nat × Cursor) := do
  let (major, c) ← digits c.skipBlanks
  if c.peek != some '.' then .error .manifestForm
  let (_, c) ← digits c.next
  if endsItem c.peek then return (major, c) else .error .manifestForm

def handleRule (c : Cursor) : Result (Directive × Cursor) := do
  let (handle, c) ← tagHandle c.skipBlanks
  if c.peek != some ' ' then .error .manifestForm
  let (start, c) ← uri c.skipBlanks
  if endsItem c.peek then return (.tagHandle handle start, c) else .error .manifestForm

/-- Reads a directive's line from its mark on. -/
def directive (c : Cursor) : Result (Directive × Cursor) := do
  let (name, after) := c.next.span isNameChar
  if name.isEmpty || !endsItem after.peek then .error .manifestForm
  let (found, after) ←
    if name = "YAML".toList then do
      let (major, c) ← versionNumber after
      pure (.version major, c)
    else if name = "TAG".toList then handleRule after
    else pure (.other, after.skipWhile (!isBreak ·))
  return (found, ← after.endLine)

end RepoAtlas.Yaml
