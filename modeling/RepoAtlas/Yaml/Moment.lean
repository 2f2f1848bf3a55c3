import RepoAtlas.Fault
import RepoAtlas.Time.Timestamp

/-!
Dates and times in YAML texts: `2024-01-02`, or a date and a clock with an optional fraction and
an optional zone.
-/
namespace RepoAtlas.Yaml

structure Moment where
  time : Timestamp
  hasClock : Bool := false
  hasZone : Bool := false
  deriving DecidableEq, Repr, Inhabited

namespace Moment

-- The power of naturals stays that of the core library, whatever imports this file.
attribute [local instance (high)] instPowNat

/-- Cuts off a number of `least` to `most` digits, as many as there are. -/
def digitRun? (least most : Nat) (s : List Char) : Option (List Char × List Char) :=
  let ds := (s.take most).takeWhile Text.isAsciiDigit
  if ds.length < least then none else some (ds, s.drop ds.length)

def number? (least most : Nat) (s : List Char) : Option (Nat × List Char) :=
  (digitRun? least most s).map (fun (ds, rest) =>
    (ds.foldl (fun n c => 10 * n + (c.toNat - 48)) 0, rest))

def mark? (c : Char) : List Char → Option (List Char)
  | x :: rest => if x = c then some rest else none
  | [] => none

def isSpace (c : Char) : Bool := c == ' ' || c == '\t'

/-- The offset in microseconds behind the clock, if a zone is given; nothing may follow it. -/
def zone? (s : List Char) : Option (Option Int) :=
  match s.dropWhile isSpace with
  | [] => if s.isEmpty then some none else none
  | ['Z'] => some (some 0)
  | sign :: rest => do
    if sign ≠ '+' && sign ≠ '-' then none
    let (hours, rest) ← number? 1 2 rest
    let (minutes, rest) ← match rest with
      | [] => some (0, [])
      | _ => number? 2 2 (← mark? ':' rest)
    if !rest.isEmpty then none
    let size : Int := (hours * 60 + minutes) * 60000000
    some (some (if sign = '-' then -size else size))

/-- The microseconds of a fraction's digits. -/
def micros (fraction : List Char) : Nat :=
  let ds := fraction.take 6
  ds.foldl (fun n c => 10 * n + (c.toNat - 48)) 0 * 10 ^ (6 - ds.length)

/-- Reads a clock and a zone behind a date. -/
def clock? (date : Timestamp) (s : List Char) : Option Moment := do
  let rest ← match s with
    | 'T' :: rest | 't' :: rest => some rest
    | x :: _ => if isSpace x then some (s.dropWhile isSpace) else none
    | [] => none
  let (hour, rest) ← number? 1 2 rest
  let (minute, rest) ← number? 2 2 (← mark? ':' rest)
  let (second, rest) ← number? 2 2 (← mark? ':' rest)
  let (fraction, rest) := match rest with
    | '.' :: rest => rest.span Text.isAsciiDigit
    | _ => ([], rest)
  let zone ← zone? rest
  some { time := { date with hour, minute, second, micro := micros fraction,
                             offset := zone.getD 0 },
         hasClock := true, hasZone := zone.isSome }

/-- Reads a moment; its fields may be out of range. -/
def read? (s : List Char) : Option Moment := do
  let (year, rest) ← number? 4 4 s
  let (month, rest) ← number? 1 2 (← mark? '-' rest)
  let (day, rest) ← number? 1 2 (← mark? '-' rest)
  let date : Timestamp := { year, month, day }
  if rest.isEmpty then some { time := date } else clock? date rest

/-- Whether a plain text is taken for a moment: a date alone has ten characters. -/
def isMoment (s : List Char) : Bool :=
  match read? s with
  | some m => m.hasClock || s.length == 10
  | none => false

def ofText (s : String) : Result Moment :=
  match read? s.toList with
  | some m => do return { m with time := ← m.time.checked }
  | none => .error .notARecord

def shown (m : Moment) : String :=
  if m.hasClock then
    m.time.dateText ++ " " ++ m.time.clockText ++
      (if m.hasZone then Timestamp.offsetText m.time.offset else "")
  else m.time.dateText

/-- The clock's fields; seconds and microseconds are left out if nothing but zeros follows. -/
def clockFields (t : Timestamp) : List Nat :=
  [t.hour, t.minute] ++
    (if t.micro ≠ 0 then [t.second, t.micro] else if t.second ≠ 0 then [t.second] else [])

def zoneText (offset : Int) : String :=
  if offset = 0 then "datetime.timezone.utc"
  else "datetime.timezone(" ++ spanText 0 offset ++ ")"

/-- The text inside other values, where the fields are listed. -/
def inner (m : Moment) : String :=
  let t := m.time
  let date := [t.year, t.month, t.day]
  let fields := if m.hasClock then date ++ clockFields t else date
  let parts := fields.map toString ++
    (if m.hasZone then ["tzinfo=" ++ zoneText t.offset] else [])
  (if m.hasClock then "datetime.datetime(" else "datetime.date(") ++
    String.intercalate ", " parts ++ ")"

end Moment

end RepoAtlas.Yaml
