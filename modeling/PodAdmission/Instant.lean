import PodAdmission.Text.Blank

/-!
# Instants

Points in time as dates and times of day in UTC, to the nanosecond. `Instant.read` is lenient
about spelling: blanks before most parts, one-digit months and days, signed years, a blank between
date and time, any of several forms of the offset. `Instant.render` writes one form to the second,
`YYYY-MM-DDThh:mm:ssZ`.

A second of 60 is a leap second and stays one; an offset from UTC is less than a day, so going to
UTC moves the date by at most one day.
-/

namespace PodAdmission

/-- A point in time, in UTC. -/
structure Instant where
  year : Int
  month : Nat
  day : Nat
  hour : Nat
  minute : Nat
  second : Nat
  nanosecond : Nat
  deriving DecidableEq

/-- What is wrong with the text of an instant. -/
inductive InstantFault where
  | malformed
  | tooShort
  | tooLong
  | outOfRange
  | impossible
  deriving DecidableEq

/-- The wording of a fault. -/
def InstantFault.message : InstantFault → String
  | .malformed => "input contains invalid characters"
  | .tooShort => "premature end of input"
  | .tooLong => "trailing input"
  | .outOfRange => "input is out of range"
  | .impossible => "no possible date and time matching input"

namespace Instant

/-! ### The calendar -/

/-- The first year that a date can have. -/
def minYear : Int := -262143

/-- The last year that a date can have. -/
def maxYear : Int := 262142

/-- A year with a 29th of February. -/
def isLeapYear (year : Int) : Bool :=
  year % 4 == 0 && (year % 100 != 0 || year % 400 == 0)

/-- The number of days of a month. -/
def daysInMonth (year : Int) (month : Nat) : Nat :=
  if month = 2 then (if isLeapYear year then 29 else 28)
  else if month = 4 ∨ month = 6 ∨ month = 9 ∨ month = 11 then 30
  else 31

/-- The same time on the day before. -/
def previousDay? (t : Instant) : Option Instant :=
  if 1 < t.day then some { t with day := t.day - 1 }
  else if 1 < t.month then
    some { t with month := t.month - 1, day := daysInMonth t.year (t.month - 1) }
  else if minYear < t.year then some { t with year := t.year - 1, month := 12, day := 31 }
  else none

/-- The same time on the day after. -/
def nextDay? (t : Instant) : Option Instant :=
  if t.day < daysInMonth t.year t.month then some { t with day := t.day + 1 }
  else if t.month < 12 then some { t with month := t.month + 1, day := 1 }
  else if t.year < maxYear then some { t with year := t.year + 1, month := 1, day := 1 }
  else none

/-- The instant in UTC of a local time that is `offset` minutes ahead of UTC. -/
def toUtc? (offset : Int) (t : Instant) : Option Instant :=
  let minutes : Int := t.hour * 60 + t.minute - offset
  let atMinute (m : Int) : Instant :=
    { t with hour := m.toNat / 60, minute := m.toNat % 60 }
  if minutes < 0 then (atMinute (minutes + 1440)).previousDay?
  else if minutes < 1440 then some (atMinute minutes)
  else (atMinute (minutes - 1440)).nextDay?

/-! ### Reading -/

/-- The value of a digit. -/
def digitValue (c : Char) : Nat :=
  c.toNat - 48

/-- Takes at most `limit` digits. The number has to fit in 63 bits. -/
def takeDigits (value limit : Nat) : List Char → Except InstantFault (Nat × List Char)
  | [] => .ok (value, [])
  | c :: rest =>
    if 0 < limit ∧ c.isDigit then
      if value * 10 + digitValue c < 0x8000000000000000 then
        takeDigits (value * 10 + digitValue c) (limit - 1) rest
      else .error .outOfRange
    else .ok (value, c :: rest)

/-- Reads a number of at least one and at most `limit` digits. -/
def readNumber (limit : Nat) : List Char → Except InstantFault (Nat × List Char)
  | [] => .error .tooShort
  | c :: rest => if c.isDigit then takeDigits 0 limit (c :: rest) else .error .malformed

/-- Reads a number of one or two digits within bounds, blanks before it. -/
def readField (low high : Nat) (cs : List Char) : Except InstantFault (Nat × List Char) := do
  let (n, rest) ← readNumber 2 (Text.dropBlanks cs)
  if low ≤ n ∧ n ≤ high then .ok (n, rest) else .error .outOfRange

/-- Reads a separator, blanks before it. -/
def readSeparator (separator : Char) (cs : List Char) : Except InstantFault (List Char) :=
  match Text.dropBlanks cs with
  | [] => .error .tooShort
  | c :: rest => if c = separator then .ok rest else .error .malformed

/-- A year has to fit in 32 bits when it is read. -/
def checkYear (year : Int) (rest : List Char) : Except InstantFault (Int × List Char) :=
  if -0x80000000 ≤ year ∧ year < 0x80000000 then .ok (year, rest) else .error .outOfRange

/-- Reads a year: up to four digits, or a sign and any number of them. -/
def readYear (cs : List Char) : Except InstantFault (Int × List Char) := do
  match Text.dropBlanks cs with
  | '-' :: rest =>
    let (n, behind) ← readNumber rest.length rest
    checkYear (-(n : Int)) behind
  | '+' :: rest =>
    let (n, behind) ← readNumber rest.length rest
    checkYear n behind
  | rest =>
    let (n, behind) ← readNumber 4 rest
    checkYear n behind

/-- Reads a fraction of a second if there is one. Nine digits count. -/
def readFraction (cs : List Char) : Except InstantFault (Nat × List Char) :=
  match cs with
  | '.' :: rest => do
    let (n, behind) ← readNumber 9 rest
    .ok (n * Nat.pow 10 (9 - (rest.length - behind.length)), behind.dropWhile Char.isDigit)
  | _ => .ok (0, cs)

/-- Two digits; a single ASCII character is too short for them. -/
def readTwoDigits : List Char → Except InstantFault ((Nat × Nat) × List Char)
  | a :: b :: rest =>
    if a.isDigit ∧ b.isDigit then .ok ((digitValue a, digitValue b), rest) else .error .malformed
  | [a] => if a.toNat < 0x80 then .error .tooShort else .error .malformed
  | [] => .error .tooShort

/-- Reads the hours and minutes of an offset behind its sign. -/
def readOffsetTime (cs : List Char) : Except InstantFault (Nat × List Char) := do
  let ((a, b), rest) ← readTwoDigits cs
  let ((c, d), rest) ← readTwoDigits (rest.dropWhile fun c => c == ':' || isBlank c)
  if c ≤ 5 then .ok ((a * 10 + b) * 60 + c * 10 + d, rest) else .error .outOfRange

/-- Reads an offset from UTC in minutes. -/
def readOffset (cs : List Char) : Except InstantFault (Int × List Char) :=
  match cs with
  | [] => .error .tooShort
  | c :: rest =>
    if (cs.take 3).map Char.toUpper = ['U', 'T', 'C'] then .ok (0, cs.drop 3)
    else if c = 'Z' ∨ c = 'z' then .ok (0, rest)
    else if c = '+' then (readOffsetTime rest).map fun (n, r) => ((n : Int), r)
    else if c = '-' ∨ c = '\u2212' then (readOffsetTime rest).map fun (n, r) => (-(n : Int), r)
    else .error .malformed

/-- Reads the mark between date and time. -/
def readMark : List Char → Except InstantFault (List Char)
  | [] => .error .tooShort
  | c :: rest => if c = 'T' ∨ c = 't' ∨ c = ' ' then .ok rest else .error .malformed

/-- Reads a date and a time of day. -/
def readLocal (cs : List Char) : Except InstantFault (Instant × List Char) := do
  let (year, cs) ← readYear cs
  let (month, cs) ← readField 1 12 (← readSeparator '-' cs)
  let (day, cs) ← readField 1 31 (← readSeparator '-' cs)
  let (hour, cs) ← readField 0 23 (← readMark cs)
  let (minute, cs) ← readField 0 59 (← readSeparator ':' cs)
  let (second, cs) ← readField 0 60 (← readSeparator ':' cs)
  let (nanosecond, cs) ← readFraction cs
  .ok (⟨year, month, day, hour, minute, second, nanosecond⟩, cs)

/-- The instant that a text stands for. The length of the month and the size of the offset are
checked when all of the text is read. -/
def read (s : String) : Except InstantFault Instant := do
  let (t, cs) ← readLocal s.toList
  let (offset, cs) ← readOffset (Text.dropBlanks cs)
  if Text.dropBlanks cs ≠ [] then .error .tooLong
  else if t.year < minYear ∨ maxYear < t.year ∨ daysInMonth t.year t.month < t.day then
    .error .outOfRange
  else if 1440 ≤ offset.natAbs then .error .outOfRange
  else
    match t.toUtc? offset with
    | some t => .ok t
    | none => .error .impossible

/-! ### Writing -/

/-- A number with zeros in front up to a width. -/
def padded (width n : Nat) : List Char :=
  let digits := Nat.toDigits 10 n
  List.replicate (width - digits.length) '0' ++ digits

/-- A year: four digits, or a sign and at least four digits. -/
def renderYear (year : Int) : List Char :=
  if 0 ≤ year ∧ year ≤ 9999 then padded 4 year.natAbs
  else (if year < 0 then '-' else '+') :: padded 4 year.natAbs

/-- The text of an instant, to the second. -/
def render (t : Instant) : String :=
  String.ofList
    (renderYear t.year ++ '-' :: padded 2 t.month ++ '-' :: padded 2 t.day ++ 'T' ::
      padded 2 t.hour ++ ':' :: padded 2 t.minute ++ ':' :: padded 2 t.second ++ ['Z'])

end Instant

end PodAdmission
