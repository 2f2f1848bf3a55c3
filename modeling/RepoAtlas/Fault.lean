import RepoAtlas.Text.Quoted

/-!
Why an operation gives no result. Each constructor is one cause; the wording of the causes that
are explained to a user is in `Fault.message`.
-/
namespace RepoAtlas

/-- What is wrong with the text of a point in time. -/
inductive TimeFault where
  | form (text : String)
  | year (value : Nat)
  | month
  | day
  | hour
  | minute
  | second
  | offset (seconds micros : Int)
  deriving DecidableEq, Repr

/-- What is wrong with the host part of a URL. -/
inductive HostFault where
  | unbalanced
  | futureForm
  | versionFour
  | notAnAddress (host : String)
  | disguised (netloc : String)
  deriving DecidableEq, Repr

inductive FileFault where
  | missing
  | notADirectory
  | isADirectory
  | exists
  | nameTooLong
  deriving DecidableEq, Repr

inductive Fault where
  /-- A record lacks a required member. -/
  | missingMember (name : String)
  /-- Members were asked of a value that has none. -/
  | notARecord
  /-- A value has the wrong kind for the operation on it. -/
  | wrongKind
  | raggedRow
  | unknownChoice (what value : String) (choices : List String)
  | notAnInteger (base : Nat) (text : String)
  | notANumber (text : String)
  | tooManyDigits (count : Nat)
  | longNumber
  | wholeOfNan
  | tooLarge
  | divisionByZero
  | memberPair (index length : Nat)
  | time (why : TimeFault)
  | host (why : HostFault)
  | repositoryName (name : String)
  | direction (value : String)
  | negativeDepth
  | noRoom
  | nullInSource
  | backslashInTemplate
  | nullInPath
  | sourceForm
  | manifestForm
  | settingsForm
  /-- An item was asked of a sequence that is too short. -/
  | noSuchItem
  | notACharacter
  | emptyNumber
  | notJson
  /-- A value that holds itself was to be copied. -/
  | endless
  | notText
  | file (why : FileFault)
  deriving DecidableEq, Repr

/-- Whether a value that was given is at fault, and not the shape of a record, a file or the
program's own arithmetic. -/
def Fault.isBadValue : Fault → Bool
  | .missingMember _ | .notARecord | .wrongKind | .raggedRow | .tooLarge | .divisionByZero
  | .sourceForm | .manifestForm | .noSuchItem | .emptyNumber | .notJson | .endless
  | .file _ => false
  | _ => true

abbrev Result := Except Fault

/-- The length of a span of time, as days, seconds and microseconds; only days may be negative. -/
def spanText (seconds micros : Int) : String :=
  let seconds := seconds + Int.fdiv micros 1000000
  let micros := Int.fmod micros 1000000
  let days := Int.fdiv seconds 86400
  let seconds := Int.fmod seconds 86400
  let parts := (if days ≠ 0 then [s!"days={days}"] else []) ++
    (if seconds ≠ 0 then [s!"seconds={seconds}"] else []) ++
    (if micros ≠ 0 then [s!"microseconds={micros}"] else [])
  "datetime.timedelta(" ++ (if parts.isEmpty then "0" else String.intercalate ", " parts) ++ ")"

def TimeFault.message : TimeFault → String
  | .form text => "Invalid isoformat string: " ++ Text.quotedText text
  | .year y => s!"year {y} is out of range"
  | .month => "month must be in 1..12"
  | .day => "day is out of range for month"
  | .hour => "hour must be in 0..23"
  | .minute => "minute must be in 0..59"
  | .second => "second must be in 0..59"
  | .offset seconds micros =>
    "offset must be a timedelta strictly between -timedelta(hours=24) and " ++
      "timedelta(hours=24), not " ++ spanText seconds micros ++ "."

def HostFault.message : HostFault → String
  | .unbalanced => "Invalid IPv6 URL"
  | .futureForm => "IPvFuture address is invalid"
  | .versionFour => "An IPv4 address cannot be in brackets"
  | .notAnAddress host => Text.quotedText host ++ " does not appear to be an IPv4 or IPv6 address"
  | .disguised netloc =>
    "netloc '" ++ netloc ++ "' contains invalid characters under NFKC normalization"

namespace Fault

def message : Fault → String
  | .missingMember name => Text.quotedText name
  | .unknownChoice what value choices =>
    s!"Unknown {what} '" ++ value ++ "'. Expected one of: " ++ String.intercalate ", " choices
  | .notAnInteger base text =>
    s!"invalid literal for int() with base {base}: " ++ Text.quotedText text
  | .notANumber text => "could not convert string to float: " ++ Text.quotedText text
  | .tooManyDigits count =>
    s!"Exceeds the limit (4300 digits) for integer string conversion: value has {count} digits; "
      ++ "use sys.set_int_max_str_digits() to increase the limit"
  | .longNumber =>
    "Exceeds the limit (4300 digits) for integer string conversion; "
      ++ "use sys.set_int_max_str_digits() to increase the limit"
  | .wholeOfNan => "cannot convert float NaN to integer"
  | .memberPair index length =>
    s!"dictionary update sequence element #{index} has length {length}; 2 is required"
  | .time why => why.message
  | .host why => why.message
  | .repositoryName name =>
    "Invalid repository name '" ++ name ++ "': use 1-100 letters, digits, '-', '_' or '.'"
  | .direction value => "direction must be one of callers, callees, both, got '" ++ value ++ "'"
  | .negativeDepth => "max_depth must be >= 0"
  | .noRoom => "max_nodes must be >= 1"
  | .nullInSource => "source code string cannot contain null bytes"
  | .backslashInTemplate => "Unable to avoid backslash in f-string expression part"
  | .nullInPath => "embedded null byte"
  | .notARecord => "the value has no members"
  | .wrongKind => "the value has the wrong kind"
  | .raggedRow => "a row does not fit the columns"
  | .tooLarge => "the number is too large"
  | .divisionByZero => "division by zero"
  | .sourceForm => "the source does not parse"
  | .manifestForm => "the manifest does not parse"
  | .settingsForm => "the settings do not parse"
  | .noSuchItem => "the sequence is too short"
  | .notACharacter => "chr() arg not in range(0x110000)"
  | .emptyNumber => "the number has no digits"
  | .notJson => "the value has no JSON form"
  | .endless => "the value holds itself"
  | .notText => "the bytes are not UTF-8"
  | .file _ => "the file operation failed"

end Fault

end RepoAtlas
