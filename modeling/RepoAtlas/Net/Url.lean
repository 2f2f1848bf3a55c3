import RepoAtlas.Fault
import RepoAtlas.Text.CodeRanges
import RepoAtlas.Text.Compatibility
import RepoAtlas.Text.LowerCase
import RepoAtlas.Text.Pieces

/-!
The host and the path of a URL, and which hosts are IP addresses.
-/
namespace RepoAtlas.Net

/-! ### Addresses

Four decimal numbers, or eight groups of hexadecimal digits, where
one run of zero groups may be left out and the last two groups may be written as four numbers.
-/

open RepoAtlas.Text

def isByteText (s : List Char) : Bool :=
  !s.isEmpty && s.all Char.isDigit && s.length ≤ 3 && (s = ['0'] || s.head? ≠ some '0') &&
    s.foldl (fun n c => 10 * n + (c.toNat - 48)) 0 ≤ 255

def isVersionFour (s : List Char) : Bool :=
  let parts := splitAt '.' s
  parts.length == 4 && parts.all isByteText

def isGroup (s : List Char) : Bool :=
  !s.isEmpty && s.length ≤ 4 && s.all (fun c => (hexDigitValue? c).isSome)

/-- The parts between colons, with four numbers at the end as two groups. -/
def groupParts? (s : List Char) : Option (List (List Char)) :=
  let parts := splitAt ':' s
  let last := parts.getLast?.getD []
  if parts.length < 3 then none
  else if last.contains '.' then
    if isVersionFour last then some (parts.dropLast ++ [['0'], ['0']]) else none
  else some parts

/-- Whether the parts, with the one at `gap` left out, are groups. An empty part at either end
belongs to the gap and must touch it. -/
def gapFits (parts : List (List Char)) (gap : Nat) : Bool :=
  let high := parts.take gap
  let low := parts.drop (gap + 1)
  let high' := if high.head? = some [] then high.drop 1 else high
  let low' := if low.getLast? = some [] then low.dropLast else low
  (high'.length == high.length || high'.isEmpty) && (low'.length == low.length || low'.isEmpty) &&
    high'.length + low'.length < 8 && high'.all isGroup && low'.all isGroup

def isVersionSixBody (s : List Char) : Bool :=
  match groupParts? s with
  | none => false
  | some parts =>
    let inner := (parts.zipIdx.drop 1).dropLast
    match inner.filter (fun p => p.1.isEmpty) with
    | [] => parts.length == 8 && parts.all isGroup
    | [gap] => parts.length ≤ 9 && gapFits parts gap.2
    | _ => false

/-- An address may name its zone behind a percent sign. -/
def isVersionSix (s : List Char) : Bool :=
  let body := s.takeWhile (· ≠ '%')
  let zone := s.drop (body.length + 1)
  let zoneFits := body.length == s.length || (!zone.isEmpty && !zone.contains '%')
  !s.contains '/' && zoneFits && isVersionSixBody body

/-! ### URLs

The host stands behind two slashes, in lower case and without
what an at sign or a colon sets apart from it; query and fragment belong to neither.
-/

open RepoAtlas.Text

def isSchemeChar (c : Char) : Bool := c.isAlphanum || c == '+' || c == '-' || c == '.'

/-- The text before the first `c` and the text behind it; everything and nothing without one. -/
def cutAt (c : Char) (s : List Char) : List Char × List Char :=
  let before := s.takeWhile (· ≠ c)
  (before, s.drop (before.length + 1))

/-- Control characters and blanks in front do not count, and tabs and line breaks nowhere. -/
def cleaned (s : List Char) : List Char :=
  (s.dropWhile (·.toNat ≤ 32)).filter (fun c => c ≠ '\t' && c ≠ '\r' && c ≠ '\n')

/-- Takes a scheme with its colon away. -/
def dropScheme (s : List Char) : List Char :=
  let (scheme, rest) := cutAt ':' s
  let isScheme := scheme.length < s.length && scheme.all isSchemeChar &&
    (scheme.head?.map Char.isAlpha).getD false
  if isScheme then rest else s

/-- The host with what belongs to it, and the rest of the URL. -/
def splitLocation (s : List Char) : List Char × List Char :=
  match s with
  | '/' :: '/' :: rest => rest.span (fun c => c ≠ '/' && c ≠ '?' && c ≠ '#')
  | s => ([], s)

/-- A later form of address: a version in hexadecimal digits, a point, and any text. -/
def isFutureAddress (s : List Char) : Bool :=
  let (version, rest) := cutAt '.' (s.drop 1)
  !version.isEmpty && version.all (fun c => (hexDigitValue? c).isSome) && !rest.isEmpty

def checkBracketed (host : List Char) : Result Unit :=
  if host.head? = some 'v' then
    if isFutureAddress host then .ok () else .error (.host .futureForm)
  else if !host.contains '/' && isVersionFour host then .error (.host .versionFour)
  else if isVersionSix host then .ok ()
  else .error (.host (.notAnAddress (String.ofList host)))

def checkBrackets (location : List Char) : Result Unit :=
  match location.contains '[', location.contains ']' with
  | true, true => checkBracketed (cutAt ']' (cutAt '[' location).2).1
  | false, false => .ok ()
  | _, _ => .error (.host .unbalanced)

/-- No character may turn into a delimiter when the host is brought into its compatible form. -/
def checkDisguise (location : List Char) : Result Unit :=
  let plain := location.filter (fun c => !"@:#?".toList.contains c)
  let form := Compatibility.form plain
  if location.any (fun c => 128 ≤ c.toNat) && form ≠ plain &&
      form.any (fun c => "/?#@:".toList.contains c) then
    .error (.host (.disguised (String.ofList location)))
  else .ok ()

/-- The host of a location; the zone of an address keeps its letter case. -/
def hostOf (location : List Char) : List Char :=
  let site := afterLast '@' location
  let host :=
    if site.contains '[' then (cutAt ']' (cutAt '[' site).2).1 else (cutAt ':' site).1
  let name := host.takeWhile (· ≠ '%')
  lower name ++ host.drop name.length

/-- Host and path of a URL. -/
def hostAndPath (url : List Char) : Result (List Char × List Char) := do
  let (location, rest) := splitLocation (dropScheme (cleaned url))
  checkBrackets location
  let path := (cutAt '?' (cutAt '#' rest).1).1
  checkDisguise location
  return (hostOf location, path)

end RepoAtlas.Net
