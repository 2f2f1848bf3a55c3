import RepoAtlas.Fault
import RepoAtlas.Text.CharClass

/-!
Points in time with their offset from UTC, and their ISO 8601 texts. A text without offset
stands for UTC.
-/
namespace RepoAtlas

structure Timestamp where
  year : Nat
  month : Nat
  day : Nat
  hour : Nat := 0
  minute : Nat := 0
  second : Nat := 0
  micro : Nat := 0
  /-- Offset from UTC in microseconds. -/
  offset : Int := 0
  deriving DecidableEq, Repr, Inhabited

namespace Timestamp

-- Powers and sums of naturals stay those of the core library, whatever imports this file.
attribute [local instance (high)] instPowNat Zero.ofOfNat0

def isLeap (year : Nat) : Bool :=
  year % 4 == 0 && (year % 100 != 0 || year % 400 == 0)

def daysInMonth (year month : Nat) : Nat :=
  if month = 2 then (if isLeap year then 29 else 28)
  else if month = 4 ∨ month = 6 ∨ month = 9 ∨ month = 11 then 30
  else 31

/-- Days of the year before the given month. -/
def daysBeforeMonth (year month : Nat) : Nat :=
  ((List.range (month - 1)).map (fun m => daysInMonth year (m + 1))).sum

/-- Day number with 1 for the first day of year 1. -/
def dayNumber (year month day : Nat) : Int :=
  let y : Int := year - 1
  y * 365 + Int.fdiv y 4 - Int.fdiv y 100 + Int.fdiv y 400 + daysBeforeMonth year month + day

/-- Microseconds since the beginning of year 1 in UTC; the order of instants. -/
def instant (t : Timestamp) : Int :=
  ((dayNumber t.year t.month t.day * 24 + t.hour) * 60 + t.minute) * 60000000 +
    t.second * 1000000 + t.micro - t.offset

def pad (width n : Nat) : String :=
  let digits := toString n
  String.ofList (List.replicate (width - digits.length) '0') ++ digits

def offsetText (offset : Int) : String :=
  let size := offset.natAbs
  let seconds := size / 1000000
  (if offset < 0 then "-" else "+") ++ pad 2 (seconds / 3600) ++ ":" ++
    pad 2 (seconds / 60 % 60) ++
    (if size % 60000000 = 0 then "" else ":" ++ pad 2 (seconds % 60)) ++
    (if size % 1000000 = 0 then "" else "." ++ pad 6 (size % 1000000))

def dateText (t : Timestamp) : String :=
  pad 4 t.year ++ "-" ++ pad 2 t.month ++ "-" ++ pad 2 t.day

def clockText (t : Timestamp) : String :=
  pad 2 t.hour ++ ":" ++ pad 2 t.minute ++ ":" ++ pad 2 t.second ++
    (if t.micro = 0 then "" else "." ++ pad 6 t.micro)

def isoText (t : Timestamp) : String :=
  t.dateText ++ "T" ++ t.clockText ++ offsetText t.offset

/-- Date, hour and minute, as lists of captures show them. -/
def minuteText (t : Timestamp) : String :=
  toString t.year ++ "-" ++ pad 2 t.month ++ "-" ++ pad 2 t.day ++ " " ++
    pad 2 t.hour ++ ":" ++ pad 2 t.minute

def digitsAt? (count : Nat) (s : List Char) : Option (Nat × List Char) :=
  let digits := s.take count
  if digits.length = count && digits.all Text.isAsciiDigit then
    some (digits.foldl (fun n c => 10 * n + (c.toNat - 48)) 0, s.drop count)
  else none

/-- Where the date part ends, from the characters that tell the date forms apart. -/
def datePartLength? (s : List Char) : Option Nat :=
  let n := s.length
  if n = 7 then some 7
  else if s[4]? = some '-' then
    if s[5]? = some 'W' then
      if n < 8 then none
      else if 8 < n && s[8]? = some '-' then
        if n = 9 then none
        else if 10 < n && (s[10]?.map Text.isAsciiDigit).getD false then some 8
        else some 10
      else some 8
    else some 10
  else if s[4]? = some 'W' then
    let stop := 7 + ((s.drop 7).takeWhile Text.isAsciiDigit).length
    if stop < 9 then some stop
    else if stop % 2 = 0 then some 7
    else some 8
  else some 8

/-- The weekday of a day number, Monday as 0. -/
def weekday (dayNumber : Int) : Int := Int.fmod (dayNumber + 6) 7

/-- Day number of the Monday of ISO week 1. -/
def firstMonday (year : Nat) : Int :=
  let first := dayNumber year 1 1
  let day := weekday first
  first - day + (if day > 3 then 7 else 0)

/-- The month and day of the `rest`-th day (from 0) of a year, from the given month on. -/
def monthDay (year : Nat) : Nat → Nat → Nat → Nat × Nat
  | 0, month, rest => (month, rest + 1)
  | steps + 1, month, rest =>
    let length := daysInMonth year month
    if rest < length then (month, rest + 1) else monthDay year steps (month + 1) (rest - length)

/-- The date of a day number near the given year. -/
def ofDayNumber (near : Nat) (number : Int) : Nat × Nat × Nat :=
  let year :=
    if number < dayNumber near 1 1 then near - 1
    else if dayNumber (near + 1) 1 1 ≤ number then near + 1
    else near
  let (month, day) := monthDay year 11 1 (number - dayNumber year 1 1).toNat
  (year, month, day)

/-- The date of a weekday in an ISO week; a year before 1 has weeks but no months. -/
def ofIsoWeek? (year week day : Nat) : Option (Nat × Nat × Nat) :=
  let opening := weekday (dayNumber year 1 1)
  let isLong := opening = 3 || (opening = 2 && isLeap year)
  if week = 0 ∨ 53 < week ∨ (week = 53 ∧ !isLong) then none
  else if day = 0 ∨ 7 < day then none
  else if year = 0 then some (1, 0, 0)
  else some (ofDayNumber year (firstMonday year + ((week - 1) * 7 + (day - 1) : Nat)))

/-- Reads the date part, which ends after `length` characters. -/
def readDate? (length : Nat) (s : List Char) : Option (Nat × Nat × Nat) := do
  let (year, rest) ← digitsAt? 4 s
  let dashed := rest.head? = some '-'
  let rest := if dashed then rest.drop 1 else rest
  if rest.head? = some 'W' then
    let (week, rest) ← digitsAt? 2 (rest.drop 1)
    let used := if dashed then 8 else 7
    if used < length then
      let rest ← if dashed then (if rest.head? = some '-' then some (rest.drop 1) else none)
        else some rest
      let (day, _) ← digitsAt? 1 rest
      ofIsoWeek? year week day
    else ofIsoWeek? year week 1
  else
    let (month, rest) ← digitsAt? 2 rest
    let rest ← if dashed then (if rest.head? = some '-' then some (rest.drop 1) else none)
      else some rest
    let (day, _) ← digitsAt? 2 rest
    some (year, month, day)

structure Clock where
  fields : List Nat := []
  micro : Nat := 0
  /-- Characters stand after the last field that was read. -/
  trailing : Bool := false

def Clock.field (c : Clock) (i : Nat) : Nat := c.fields[i]?.getD 0

/-- Reads the fraction of a second: six digits count, more are skipped. -/
def readFraction? (fields : List Nat) (room : Nat) (s : List Char) : Option Clock := do
  let count := min room 6
  let (value, rest) ← digitsAt? count s
  let micro := if count < 6 then value * 10 ^ (6 - count) else value
  let rest := rest.dropWhile Text.isAsciiDigit
  some ⟨fields, micro, !rest.isEmpty⟩

/-- The size of a text in bytes. -/
def room (s : List Char) : Nat := (String.ofList s).utf8ByteSize

/-- Reads up to `left` two-digit fields. `room` bytes belong to this part of the text; the text
goes on behind them. -/
def readClock? (colons : Bool) (fields : List Nat) : Nat → Nat → List Char → Option Clock
  | 0, room, s => readFraction? fields room s
  | left + 1, room, s => do
    let (value, rest) ← digitsAt? 2 s
    let fields := fields ++ [value]
    let next := rest.head?
    let colons := if fields.length = 1 then next = some ':' else colons
    if room ≤ 3 then some ⟨fields, 0, next.isSome⟩
    else if colons && next = some ':' then readClock? colons fields left (room - 3) (rest.drop 1)
    else if next = some '.' ∨ next = some ',' then readFraction? fields (room - 3) (rest.drop 1)
    else if !colons then readClock? colons fields left (room - 2) rest
    else none

/-- The clock and the offset in microseconds of a time text. An offset of less than a second
counts as none. -/
def readTime? (s : List Char) : Option (Clock × Option Int) := do
  let clockPart := s.takeWhile (fun c => c ≠ '+' && c ≠ '-' && c ≠ 'Z')
  let clock ← readClock? true [] 3 (room clockPart) s
  match s.drop clockPart.length with
  | [] => if clock.trailing then none else some (clock, none)
  | 'Z' :: rest => if rest.isEmpty then some (clock, some 0) else none
  | sign :: rest =>
    let zone ← readClock? true [] 3 (room rest) rest
    if zone.trailing then none
    let seconds : Int := zone.field 0 * 3600 + zone.field 1 * 60 + zone.field 2
    let size := if seconds = 0 then 0 else seconds * 1000000 + zone.micro
    some (clock, some (if sign = '-' then -size else size))

def dayMicros : Int := 86400000000

/-- Checks every field against its range. -/
def checked (t : Timestamp) : Result Timestamp :=
  if t.offset ≤ -dayMicros ∨ dayMicros ≤ t.offset then
    .error (.time (.offset 0 t.offset))
  else if t.year = 0 ∨ 9999 < t.year then .error (.time (.year t.year))
  else if t.month = 0 ∨ 12 < t.month then .error (.time .month)
  else if t.day = 0 ∨ daysInMonth t.year t.month < t.day then .error (.time .day)
  else if 23 < t.hour then .error (.time .hour)
  else if 59 < t.minute then .error (.time .minute)
  else if 59 < t.second then .error (.time .second)
  else .ok t

/-- Reads a date, or date and time parted by any one character. -/
def read? (s : List Char) : Option Timestamp := do
  if s.length < 7 then none
  let length ← datePartLength? s
  let (year, month, day) ← readDate? length s
  if s.length ≤ length then some { year, month, day }
  else
    let (clock, offset) ← readTime? (s.drop (length + 1))
    some { year, month, day, hour := clock.field 0, minute := clock.field 1,
           second := clock.field 2, micro := clock.micro, offset := offset.getD 0 }

def parse (text : String) : Result Timestamp :=
  match read? text.toList with
  | some t => checked t
  | none => .error (.time (.form text))

end Timestamp

end RepoAtlas
