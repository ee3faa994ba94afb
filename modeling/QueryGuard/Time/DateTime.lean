/-!
# Dates and date-times

The proleptic Gregorian calendar, date-times with their offset from UTC, and
the instants at which they stand, in nanoseconds since the start of 1970.
-/

namespace QueryGuard

-- ---------------------------------------------------------------------------
-- Calendar
-- ---------------------------------------------------------------------------

structure Date where
  year : Int
  month : Nat
  day : Nat
  deriving DecidableEq

namespace Date

def isLeapYear (year : Int) : Bool :=
  year % 4 == 0 && (year % 100 != 0 || year % 400 == 0)

def daysInMonth (year : Int) (month : Nat) : Nat :=
  if month = 2 then (if isLeapYear year then 29 else 28)
  else if month = 4 || month = 6 || month = 9 || month = 11 then 30
  else 31

def isValid (d : Date) : Bool :=
  1 ≤ d.month && d.month ≤ 12 && 1 ≤ d.day && d.day ≤ daysInMonth d.year d.month

/-- Days from the start of year 1 to the start of a year. -/
def daysToYear (year : Int) : Int :=
  let past := year - 1
  past * 365 + past / 4 - past / 100 + past / 400

def daysToMonth (year : Int) (month : Nat) : Nat :=
  (List.range (month - 1)).foldl (fun days m => days + daysInMonth year (m + 1)) 0

/-- Days since the first of January 1970. -/
def dayNumber (d : Date) : Int :=
  daysToYear d.year + daysToMonth d.year d.month + d.day - 1 - daysToYear 1970

end Date

-- ---------------------------------------------------------------------------
-- Date-times
-- ---------------------------------------------------------------------------

/-- A point of time as a clock at some offset from UTC shows it. -/
structure DateTime where
  date : Date
  hour : Nat
  minute : Nat
  second : Nat
  nanosecond : Nat
  /-- Minutes by which the clock is ahead of UTC. -/
  offset : Int
  deriving DecidableEq

/-- Nanoseconds since the start of 1970 in UTC. -/
abbrev Instant := Int

namespace DateTime

def minuteOfDay (t : DateTime) : Int := t.hour * 60 + t.minute

def instant (t : DateTime) : Instant :=
  ((t.date.dayNumber * 1440 + t.minuteOfDay - t.offset) * 60 + t.second) * 1000000000
    + t.nanosecond

/-- Is this the last second of a month in UTC? The day there is the day here or
one next to it. -/
def endsMonth (t : DateTime) : Bool :=
  let utc := t.minuteOfDay - t.offset
  let length := Date.daysInMonth t.date.year t.date.month
  utc % 1440 == 1439 && t.second == 59 &&
    (if utc < 0 then t.date.day == 1
     else if utc < 1440 then t.date.day == length
     else t.date.day + 1 == length)

-- ---------------------------------------------------------------------------
-- Reading
-- ---------------------------------------------------------------------------

/-- Reads exactly so many decimal digits. -/
def digits? : Nat → Nat → List Char → Option (Nat × List Char)
  | 0, value, rest => some (value, rest)
  | n + 1, value, c :: rest =>
    if c.isDigit then digits? n (value * 10 + (c.toNat - '0'.toNat)) rest else none
  | _ + 1, _, [] => none

def mark? (c : Char) : List Char → Option (List Char)
  | first :: rest => if first = c then some rest else none
  | [] => none

/-- Nanoseconds from the digits behind a point; those after the ninth are cut
off. -/
def nanoseconds (fraction : List Char) : Nat :=
  ((fraction ++ List.replicate 9 '0').take 9).foldl
    (fun n c => n * 10 + (c.toNat - '0'.toNat)) 0

def fraction? : List Char → Option (Nat × List Char)
  | '.' :: rest =>
    let run := rest.takeWhile Char.isDigit
    if run.isEmpty then none else some (nanoseconds run, rest.dropWhile Char.isDigit)
  | text => some (0, text)

def offset? : List Char → Option Int
  | ['Z'] => some 0
  | ['z'] => some 0
  | sign :: rest => do
    let (hours, rest) ← digits? 2 0 rest
    let rest ← mark? ':' rest
    let (minutes, rest) ← digits? 2 0 rest
    let distance : Int := hours * 60 + minutes
    if !rest.isEmpty || 23 < hours || 59 < minutes then none
    else if sign = '+' then some distance
    else if sign = '-' then some (-distance)
    else none
  | [] => none

/-- Reads the date-time format of RFC 3339. Any ASCII character may stand
between date and time. A leap second counts as the last nanosecond before it,
and is taken only where a month ends in UTC. -/
def ofText? (text : String) : Option DateTime := do
  let (year, rest) ← digits? 4 0 text.toList
  let (month, rest) ← digits? 2 0 (← mark? '-' rest)
  let (day, rest) ← digits? 2 0 (← mark? '-' rest)
  let separator ← rest.head?
  let (hour, rest) ← digits? 2 0 rest.tail
  let (minute, rest) ← digits? 2 0 (← mark? ':' rest)
  let (second, rest) ← digits? 2 0 (← mark? ':' rest)
  let (nanosecond, rest) ← fraction? rest
  let offset ← offset? rest
  let date : Date := ⟨year, month, day⟩
  if 127 < separator.toNat || !date.isValid || 23 < hour || 59 < minute then none
  else if second < 60 then some ⟨date, hour, minute, second, nanosecond, offset⟩
  else
    let standIn : DateTime := ⟨date, hour, minute, 59, 999999999, offset⟩
    if second = 60 && standIn.endsMonth then some standIn else none

-- ---------------------------------------------------------------------------
-- Writing
-- ---------------------------------------------------------------------------

def padded (width value : Nat) : String :=
  let written := Nat.toDigits 10 value
  String.ofList (List.replicate (width - written.length) '0' ++ written)

def fractionText (nanosecond : Nat) : String :=
  if nanosecond = 0 then ""
  else
    let written := (padded 9 nanosecond).toList
    "." ++ String.ofList (written.reverse.dropWhile (· == '0')).reverse

def offsetText (offset : Int) : String :=
  if offset = 0 then "Z"
  else
    (if offset < 0 then "-" else "+") ++
      padded 2 (offset.natAbs / 60) ++ ":" ++ padded 2 (offset.natAbs % 60)

def text (t : DateTime) : String :=
  padded 4 t.date.year.natAbs ++ "-" ++ padded 2 t.date.month ++ "-" ++ padded 2 t.date.day ++
    "T" ++ padded 2 t.hour ++ ":" ++ padded 2 t.minute ++ ":" ++ padded 2 t.second ++
    fractionText t.nanosecond ++ offsetText t.offset

end DateTime

-- ---------------------------------------------------------------------------
-- Instants
-- ---------------------------------------------------------------------------

namespace Date

def signed? : List Char → Option (Int × List Char)
  | '+' :: rest => (DateTime.digits? 4 0 rest).map fun (year, rest) => ((year : Int), rest)
  | '-' :: rest => (DateTime.digits? 4 0 rest).map fun (year, rest) => (-(year : Int), rest)
  | rest => (DateTime.digits? 4 0 rest).map fun (year, rest) => ((year : Int), rest)

/-- Reads `year-month-day`, the year having four digits and perhaps a sign. -/
def ofText? (text : String) : Option Date := do
  let (year, rest) ← signed? text.toList
  let (month, rest) ← DateTime.digits? 2 0 (← DateTime.mark? '-' rest)
  let (day, rest) ← DateTime.digits? 2 0 (← DateTime.mark? '-' rest)
  let date : Date := ⟨year, month, day⟩
  if rest.isEmpty && date.isValid then some date else none

/-- Midnight in UTC. -/
def instant (d : Date) : QueryGuard.Instant := d.dayNumber * 86400000000000

end Date

namespace Instant

/-- The instant that a text names: a date-time, or a date standing for its
midnight in UTC. -/
def ofText? (text : String) : Option Instant :=
  match DateTime.ofText? text with
  | some t => some t.instant
  | none => (Date.ofText? text).map Date.instant

/-- The first and the last instant of the calendar's years -9999 to 9999. -/
def first : Instant := (⟨-9999, 1, 1⟩ : Date).instant

def last : Instant := (⟨9999, 12, 31⟩ : Date).instant + 86400000000000 - 1

/-- There is none where the sum leaves the years of the calendar. -/
def later? (t : Instant) (nanoseconds : Int) : Option Instant :=
  let sum : Int := t + nanoseconds
  if first ≤ sum && sum ≤ last then some sum else none

end Instant

end QueryGuard
