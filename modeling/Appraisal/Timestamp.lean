/-
Timestamps: a date, a time of day and an offset from universal time, in the internet format.

The format is `YYYY-MM-DDThh:mm:ss`, then an optional fraction of a second, then `Z` or an offset `+hh:mm`.
The letters may be small, a blank may stand for the `T`, and the offset may have a true minus sign instead
of a hyphen. The date has to exist. A sixtieth second is admitted at the end of any minute, since nobody
knows leap seconds in advance.

Text is read byte by byte from the left and the first byte that cannot stand where it stands decides, with
one exception: a text with fewer bytes than the shortest date and time is called too short at once.
-/
import Appraisal.Text.Blank

set_option autoImplicit false

namespace Appraisal.Timestamp

/-- Why a text is no timestamp. -/
inductive Fault where
  | tooShort
  | badCharacter
  | outOfRange
  | trailing
  deriving DecidableEq

/-- A fault in words. -/
def Fault.message : Fault → String
  | .tooShort => "premature end of input"
  | .badCharacter => "input contains invalid characters"
  | .outOfRange => "input is out of range"
  | .trailing => "trailing input"

/-! ## Bytes -/

/-- The bytes of a text in UTF-8. -/
abbrev Bytes := List UInt8

/-- The byte of an ASCII character. -/
def byte (c : Char) : UInt8 :=
  c.toNat.toUInt8

/-- Is the byte an ASCII digit? -/
def isDigit (b : UInt8) : Bool :=
  byte '0' ≤ b && b ≤ byte '9'

/-- The value of an ASCII digit. -/
def digitValue (b : UInt8) : Nat :=
  b.toNat - '0'.toNat

/-- A step of reading: it takes bytes off the front, or ends in a fault. -/
abbrev Reading := StateT Bytes (Except Fault)

/-- The next byte, if it passes the test. -/
def next (isAllowed : UInt8 → Bool) : Reading UInt8
  | [] => .error .tooShort
  | b :: rest => if isAllowed b then .ok (b, rest) else .error .badCharacter

/-- One of the given characters. -/
def oneOf (allowed : List Char) : Reading Unit := do
  let _ ← next (allowed.map byte).contains

/-- A number of exactly so many digits. -/
def number : (digits : Nat) → Reading Nat
  | 0 => return 0
  | n + 1 => do
    let high ← next isDigit
    let low ← number n
    return digitValue high * Nat.pow 10 n + low

/-! ## The calendar -/

/-- Every fourth year is a leap year, but of the full centuries only every fourth. -/
def isLeapYear (year : Nat) : Bool :=
  year % 4 = 0 && (year % 100 ≠ 0 || year % 400 = 0)

/-- The length of a month. -/
def daysIn (year month : Nat) : Nat :=
  if month = 2 then (if isLeapYear year then 29 else 28)
  else if month ∈ [4, 6, 9, 11] then 30
  else 31

/-- Is there such a date? -/
def dateExists (year month day : Nat) : Bool :=
  1 ≤ month && month ≤ 12 && 1 ≤ day && day ≤ daysIn year month

/-- Is there such a time of day? -/
def timeExists (hour minute second : Nat) : Bool :=
  hour ≤ 23 && minute ≤ 59 && second ≤ 60

/-! ## The parts -/

/-- A date. -/
def date : Reading Unit := do
  let year ← number 4
  oneOf ['-']
  let month ← number 2
  oneOf ['-']
  let day ← number 2
  if !dateExists year month day then throw .outOfRange

/-- A fraction of a second, if there is one: a point and at least one digit. -/
def fraction : Reading Unit
  | [] => .ok ((), [])
  | b :: rest =>
    if b = byte '.' then do
      let (_, rest) ← next isDigit rest
      return ((), rest.dropWhile isDigit)
    else .ok ((), b :: rest)

/-- A time of day. It is judged only when its fraction has been read. -/
def time : Reading Unit := do
  let hour ← number 2
  oneOf [':']
  let minute ← number 2
  oneOf [':']
  let second ← number 2
  fraction
  if !timeExists hour minute second then throw .outOfRange

/-- The sign of an offset: a plus, a hyphen, or the true minus sign, which has three bytes. -/
def sign : Reading Unit
  | 0xe2 :: 0x88 :: 0x92 :: rest => .ok ((), rest)
  | bs => oneOf ['+', '-'] bs

/-- Two digits, neither of which is judged before both are there. -/
def twoDigits : Reading Nat := do
  if (← get).length < 2 then throw .tooShort
  number 2

/-- An offset in hours and minutes; what is returned are its hours. -/
def offset : Reading Nat := do
  sign
  let hours ← twoDigits
  oneOf [':']
  let minutes ← twoDigits
  if 59 < minutes then throw .outOfRange
  return hours

/-- The letter for universal time, which is off by no hours, or an offset. -/
def zone : Reading Nat
  | [] => .error .tooShort
  | b :: rest => if b = byte 'Z' || b = byte 'z' then .ok (0, rest) else offset (b :: rest)

/-! ## Timestamps -/

/-- The fewest bytes of a date and a time. -/
def shortest : Nat := 19

/-- A date and a time with its zone. -/
def dateAndTime : Reading Nat := do
  date
  oneOf ['T', 't', ' ']
  time
  zone

/-- Judges a text that should be a timestamp and nothing else. -/
def check (text : String) : Except Fault Unit := do
  let bytes := text.toUTF8.data.toList
  if bytes.length < shortest then throw .tooShort
  let (hours, rest) ← dateAndTime bytes
  if !rest.isEmpty then throw .trailing
  if 23 < hours then throw .outOfRange

/-- Is the text a timestamp, apart from blanks around it? -/
def isValid (text : String) : Bool :=
  (check (Text.trim text)).isOk

/-- The timestamp in a text that may have blanks around it; the complaint quotes the text as it was. -/
def parse (text : String) : Except String String :=
  let trimmed := Text.trim text
  match check trimmed with
  | .ok _ => .ok trimmed
  | .error fault =>
    .error ("failed to parse '" ++ text ++ "' as an RFC 3339 timestamp (" ++ fault.message ++ ")")

/-! ## Writing -/

/-- A natural number with at least two digits. -/
def twoDigitText (n : Nat) : String :=
  if n < 10 then "0" ++ toString n else toString n

/-- The date so many days after the first of January 1970, as year, month and day. The year is counted from
March on, so that the leap day is its last, and in cycles of four centuries. -/
def dateOfDays (days : Nat) : Nat × Nat × Nat :=
  let shifted := days + 719468
  let cycle := shifted / 146097
  let day := shifted % 146097
  let year := (day - day / 1460 + day / 36524 - day / 146096) / 365
  let dayOfYear := day - (365 * year + year / 4 - year / 100)
  let march := (5 * dayOfYear + 2) / 153
  let month := if march < 10 then march + 3 else march - 9
  (year + 400 * cycle + (if month ≤ 2 then 1 else 0), month, dayOfYear - (153 * march + 2) / 5 + 1)

/-- The timestamp so many seconds after the start of 1970 in universal time. -/
def ofSeconds (seconds : Nat) : String :=
  let (year, month, day) := dateOfDays (seconds / 86400)
  let rest := seconds % 86400
  toString year ++ "-" ++ twoDigitText month ++ "-" ++ twoDigitText day ++ "T"
    ++ twoDigitText (rest / 3600) ++ ":" ++ twoDigitText (rest / 60 % 60) ++ ":"
    ++ twoDigitText (rest % 60) ++ "Z"

end Appraisal.Timestamp
