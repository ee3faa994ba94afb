import QueryGuard.Text.Blank

/-!
# Spans of time

A span is written as numbers with units, such as `1h 30m`. A year has 365.25
days and a month 30.44. Seconds fit 64 bits.
-/

namespace QueryGuard

structure Span where
  seconds : Nat
  /-- Below a whole second. -/
  nanoseconds : Nat
  deriving DecidableEq

namespace Span

def zero : Span := ⟨0, 0⟩

def ofSeconds (seconds : Nat) : Span := ⟨seconds, 0⟩

def isZero (s : Span) : Bool := s.seconds == 0 && s.nanoseconds == 0

def inNanoseconds (s : Span) : Nat := s.seconds * 1000000000 + s.nanoseconds

/-- Values are kept in 64 bits. -/
def fits (n : Nat) : Option Nat := if n < 1 <<< 64 then some n else none

/-- There is none where the seconds leave 64 bits. -/
def plus? (s : Span) (seconds nanoseconds : Nat) : Option Span := do
  let nanoseconds ← fits (s.nanoseconds + nanoseconds)
  let seconds ← fits (s.seconds + seconds + nanoseconds / 1000000000)
  return ⟨seconds, nanoseconds % 1000000000⟩

-- ---------------------------------------------------------------------------
-- Units
-- ---------------------------------------------------------------------------

inductive Unit where
  /-- So many nanoseconds, for units up to the millisecond. -/
  | nanoseconds (each : Nat)
  | seconds (each : Nat)

/-- Units with all their spellings. -/
def units : List (Unit × List String) := [
  (.nanoseconds 1, ["nanos", "nsec", "ns"]),
  (.nanoseconds 1000, ["usec", "us", "µs"]),
  (.nanoseconds 1000000, ["millis", "msec", "ms"]),
  (.seconds 1, ["seconds", "second", "secs", "sec", "s"]),
  (.seconds 60, ["minutes", "minute", "min", "mins", "m"]),
  (.seconds 3600, ["hours", "hour", "hr", "hrs", "h"]),
  (.seconds 86400, ["days", "day", "d"]),
  (.seconds 604800, ["weeks", "week", "wk", "wks", "w"]),
  (.seconds 2630016, ["months", "month", "M"]),
  (.seconds 31557600, ["years", "year", "yr", "yrs", "y"])]

def unitOf? (name : String) : Option Unit :=
  (units.find? fun entry => entry.2.contains name).map Prod.fst

/-- The digits behind a decimal point over a power of ten. -/
structure Fraction where
  numerator : Nat
  denominator : Nat

/-- A part of a unit: it has to come out even, in seconds for hours and longer
units, in nanoseconds below. A nanosecond has no parts. -/
def partOf? (unit : Unit) (f : Fraction) : Option (Nat × Nat) :=
  let exact (each : Nat) : Option Nat := do
    let product ← fits (f.numerator * each)
    if product % f.denominator = 0 then some (product / f.denominator) else none
  match unit with
  | .nanoseconds each => if each = 1 then none else (exact each).map (0, ·)
  | .seconds each =>
    if each < 3600 then (exact (each * 1000000000)).map (0, ·) else (exact each).map (·, 0)

/-- Adds one number with its unit. -/
def addUnit? (s : Span) (count : Nat) (fraction : Option Fraction) (name : String) :
    Option Span := do
  let unit ← unitOf? name
  let s ← match unit with
    | .nanoseconds each => do s.plus? 0 (← fits (count * each))
    | .seconds each => do s.plus? (← fits (count * each)) 0
  match fraction with
  | none => some s
  | some fraction =>
    let (seconds, nanoseconds) ← partOf? unit fraction
    s.plus? seconds nanoseconds

-- ---------------------------------------------------------------------------
-- Reading
-- ---------------------------------------------------------------------------

/-- What is being read. Blanks may stand before, inside and behind a number. -/
inductive Reading where
  | start
  | number
  | whole (count : Nat)
  | fraction (count : Nat) (fraction : Fraction)
  /-- Letters of the unit in reverse. -/
  | unit (count : Nat) (fraction : Option Fraction) (letters : List Char)

def digit? (c : Char) : Option Nat :=
  if c.isDigit then some (c.toNat - '0'.toNat) else none

def isUnitLetter (c : Char) : Bool := c.isAlpha || c = 'µ'

def closeUnit? (s : Span) (count : Nat) (fraction : Option Fraction) (letters : List Char) :
    Option Span :=
  s.addUnit? count fraction (String.ofList letters.reverse)

def step (state : Reading × Span) (c : Char) : Option (Reading × Span) :=
  let span := state.2
  match state.1 with
  | .start | .number =>
    match digit? c with
    | some d => some (.whole d, span)
    | none => if Text.isBlank c then some state else none
  | .whole count =>
    match digit? c with
    | some d => (fits (count * 10 + d)).map fun count => (.whole count, span)
    | none =>
      if Text.isBlank c then some state
      else if c = '.' then some (.fraction count ⟨0, 1⟩, span)
      else if isUnitLetter c then some (.unit count none [c], span)
      else none
  | .fraction count f =>
    match digit? c with
    | some d => do
      let denominator ← fits (f.denominator * 10)
      let numerator ← fits (f.numerator * 10 + d)
      return (.fraction count ⟨numerator, denominator⟩, span)
    | none =>
      if Text.isBlank c then some state
      else if isUnitLetter c && f.denominator != 1 then some (.unit count (some f) [c], span)
      else none
  | .unit count f letters =>
    match digit? c with
    | some d => (span.closeUnit? count f letters).map fun span => (.whole d, span)
    | none =>
      if Text.isBlank c then (span.closeUnit? count f letters).map fun span => (.number, span)
      else if isUnitLetter c then some (.unit count f (c :: letters), span)
      else none

/-- A bare zero needs no unit; every other number does. -/
def ofText? (text : String) : Option Span :=
  if text = "0" then some zero
  else do
    let (state, span) ← text.toList.foldlM step (.start, zero)
    match state with
    | .number => some span
    | .unit count f letters => span.closeUnit? count f letters
    | _ => none

-- ---------------------------------------------------------------------------
-- Writing
-- ---------------------------------------------------------------------------

/-- The parts of a span from years down to nanoseconds, with their units and
the question whether a unit takes a plural. -/
def parts (s : Span) : List (Nat × String × Bool) :=
  let inYear := s.seconds % 31557600
  let inMonth := inYear % 2630016
  let inDay := inMonth % 86400
  [(s.seconds / 31557600, "year", true), (inYear / 2630016, "month", true),
    (inMonth / 86400, "day", true), (inDay / 3600, "h", false),
    (inDay % 3600 / 60, "m", false), (inDay % 60, "s", false),
    (s.nanoseconds / 1000000, "ms", false), (s.nanoseconds / 1000 % 1000, "us", false),
    (s.nanoseconds % 1000, "ns", false)]

/-- Parts that are zero are left out. -/
def text (s : Span) : String :=
  if s.isZero then "0s"
  else
    " ".intercalate <| (s.parts.filter fun part => part.1 != 0).map fun (count, unit, plural) =>
      toString count ++ unit ++ (if plural && count != 1 then "s" else "")

end Span

end QueryGuard
