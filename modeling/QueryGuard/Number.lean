import QueryGuard.Number.Decimal

/-!
# Numbers of documents

A number is an integer of 64 bits or a double, and stays what it was written
as: `1` and `1.0` differ, though both stand at the same place.
-/

namespace QueryGuard

inductive Number where
  | integer (value : Int)
  | double (value : Double)
  deriving DecidableEq

namespace Number

/-- Sameness within a document: the two zeros are the same double, and no
integer is a double. -/
def same : Number → Number → Bool
  | .integer a, .integer b => a == b
  | .double a, .double b => a.place == b.place
  | _, _ => false

def toDouble : Number → Double
  | .integer value => .ofInt value
  | .double value => value

/-- Place on the number line, integers being rounded to doubles. -/
def place (n : Number) : Int := n.toDouble.place

def text : Number → String
  | .integer value => toString value
  | .double value => value.text

/-- Splits off the leading decimal digits. -/
def digitRun (text : List Char) : List Nat × List Char :=
  ((text.takeWhile Char.isDigit).map fun c => c.toNat - '0'.toNat, text.dropWhile Char.isDigit)

/-- Reads `.` and at least one digit, if the text begins so. -/
def fractionPart : List Char → Option (List Nat × List Char)
  | '.' :: rest =>
    let run := digitRun rest
    if run.1.isEmpty then none else some run
  | text => some ([], text)

/-- Reads a marked exponent, if the text begins so. -/
def exponentPart : List Char → Option (Int × List Char)
  | mark :: rest =>
    if mark = 'e' || mark = 'E' then
      let sign := rest.head?
      let unsigned := if sign = some '+' || sign = some '-' then rest.tail else rest
      let run := digitRun unsigned
      if run.1.isEmpty then none
      else some (Double.boundedExponent (sign == some '-') run.1, run.2)
    else some (0, mark :: rest)
  | [] => some (0, [])

/-- An integer that fits 64 bits, signed or not, stays one; negative zero and
all others become doubles. -/
def ofDigits? (negative : Bool) (whole : List Nat) : Option Number :=
  let magnitude := Double.decimalValue whole
  let fits := if negative then 0 < magnitude && magnitude ≤ 1 <<< 63 else magnitude < 1 <<< 64
  if fits then some (.integer (if negative then -(magnitude : Int) else magnitude))
  else (Double.ofDecimal? negative whole [] 0).map .double

/-- Reads a whole text as a number: no leading zeros, no bare point, nothing
beyond the largest double. -/
def ofText? (text : List Char) : Option Number := do
  let negative := text.head? == some '-'
  let run := digitRun (if negative then text.tail else text)
  if run.1.isEmpty || (run.1.head? == some 0 && run.1.length != 1) then none
  else if run.2.isEmpty then ofDigits? negative run.1
  else do
    let (part, rest) ← fractionPart run.2
    let (exponent, rest) ← exponentPart rest
    if rest.isEmpty then (Double.ofDecimal? negative run.1 part exponent).map .double else none

end Number

end QueryGuard
