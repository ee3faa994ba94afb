import QueryGuard.Number.Double

/-!
# Decimal texts of doubles

Writing: the fewest significant digits that no other double is nearer to, and
of those the digits closest to the value. Reading: the leading digits that fit
64 bits become a double, which a power of ten then scales; each of the three
steps rounds once.
-/

namespace QueryGuard.Double

-- ---------------------------------------------------------------------------
-- Writing
-- ---------------------------------------------------------------------------

/-- The fractions that round to a rank, four times enlarged in the unit of its
last place, with the question whether the two ends belong to them. -/
structure Neighbourhood where
  low : Nat
  value : Nat
  high : Nat
  closed : Bool

def neighbourhood (rank : Nat) : Neighbourhood where
  low := 4 * significand rank -
    -- Just above a power of two the doubles below lie half as far apart.
    (if rank % (1 <<< 52) = 0 && 1 <<< 52 < rank then 1 else 2)
  value := 4 * significand rank
  high := 4 * significand rank + 2
  closed := significand rank % 2 = 0

def decimalLength (n : Nat) : Nat := (Nat.toDigits 10 n).length

/-- The exponent of the leading decimal digit of a positive fraction. -/
def leadingExponent (num den : Nat) : Int :=
  if den ≤ num then decimalLength (num / den) - 1
  else -(decimalLength ((den + num - 1) / num - 1) : Int)

/-- Digits as one natural number, and the exponent of the last of them. -/
structure Digits where
  coefficient : Nat
  exponent : Int

/-- Is the candidate nearer to this double than to the next ones? Quantities
are compared as multiples of `1 / (den * gridDen)`. -/
def Neighbourhood.holds (n : Neighbourhood) (unit den gridNum gridDen candidate : Nat) : Bool :=
  let point := candidate * gridNum * den * 4
  let low := n.low * unit * gridDen
  let high := n.high * unit * gridDen
  if n.closed then low ≤ point && point ≤ high else low < point && point < high

/-- The grid of decimals with the given number of digits: of the two points
around the value those that hold, the nearer one first chosen, an even digit in
a tie. -/
def onGrid (n : Neighbourhood) (unit den : Nat) (leading : Int) (count : Nat) : Option Digits :=
  let exponent : Int := leading - (count - 1 : Nat)
  let gridNum := Nat.pow 10 exponent.toNat
  let gridDen := Nat.pow 10 (-exponent).toNat
  let exact := n.value * unit * gridDen
  let cell := 4 * den * gridNum
  let below := exact / cell
  let above := below + 1
  let twice := 2 * (exact % cell)
  let preferBelow := twice < cell || (twice == cell && below % 2 == 0)
  let first := if preferBelow then below else above
  let second := if preferBelow then above else below
  if n.holds unit den gridNum gridDen first then some ⟨first, exponent⟩
  else if n.holds unit den gridNum gridDen second then some ⟨second, exponent⟩
  else none

/-- Searches the grids from one digit upwards; seventeen digits always do. -/
def shortestFrom (n : Neighbourhood) (unit den : Nat) (leading : Int) :
    Nat → Nat → Digits
  | _, 0 => ⟨0, 0⟩
  | count, fuel + 1 =>
    match onGrid n unit den leading count with
    | some digits => digits
    | none => shortestFrom n unit den leading (count + 1) fuel

/-- The shortest digits of a positive rank. -/
def shortest (rank : Nat) : Digits :=
  let shift := scale rank
  let unit := if 1074 ≤ shift then 1 <<< (shift - 1074) else 1
  let den := if 1074 ≤ shift then 1 else 1 <<< (1074 - shift)
  let parts := fraction rank
  shortestFrom (neighbourhood rank) unit den (leadingExponent parts.1 parts.2) 1 17

/-- How a decimal text is laid out. -/
structure Layout where
  /-- The least leading exponent written without an exponent. -/
  positionalFrom : Int
  /-- Leading exponents from here on are written with an exponent. -/
  positionalBelow : Int
  exponentMark : String
  positiveSign : String

/-- Numbers of documents are positional from `0.00001` to below `1e+16`. -/
def documentLayout : Layout := ⟨-5, 16, "e", "+"⟩

def zeros (n : Nat) : String := String.ofList (List.replicate n '0')

/-- Digits without trailing zeros, and the exponent of the leading one. -/
def leadingForm (d : Digits) : List Char × Int :=
  let written := Nat.toDigits 10 d.coefficient
  let kept := (written.reverse.dropWhile (· == '0')).reverse
  (kept, d.exponent + (written.length - 1 : Nat))

def Layout.magnitude (layout : Layout) (d : Digits) : String :=
  let form := leadingForm d
  let digits := form.1
  let leading := form.2
  if layout.positionalFrom ≤ leading && leading < layout.positionalBelow then
    if leading < 0 then
      "0." ++ zeros (-leading - 1).toNat ++ String.ofList digits
    else
      let whole := leading.toNat + 1
      let integral := String.ofList (digits.take whole) ++ zeros (whole - digits.length)
      let rest := digits.drop whole
      integral ++ "." ++ (if rest.isEmpty then "0" else String.ofList rest)
  else
    let exponent :=
      (if leading < 0 then "-" else layout.positiveSign) ++ toString leading.natAbs
    match digits with
    | [] => "0"
    | first :: [] => String.singleton first ++ layout.exponentMark ++ exponent
    | first :: rest =>
      String.singleton first ++ "." ++ String.ofList rest ++ layout.exponentMark ++ exponent

def text (d : Double) : String :=
  let magnitude := if d.rank = 0 then "0.0" else documentLayout.magnitude (shortest d.rank)
  if d.negative then "-" ++ magnitude else magnitude

-- ---------------------------------------------------------------------------
-- Reading
-- ---------------------------------------------------------------------------

def timesRank (a b : Nat) : Nat :=
  let x := fraction a
  let y := fraction b
  nearestRank (x.1 * y.1) (x.2 * y.2)

def overRank (a b : Nat) : Nat :=
  let x := fraction a
  let y := fraction b
  nearestRank (x.1 * y.2) (x.2 * y.1)

/-- Rank of the double nearest to a power of ten, up to the largest that is
finite. -/
def tenRank (exponent : Nat) : Nat := nearestRank (Nat.pow 10 exponent) 1

def largestTen : Nat := 308

/-- Division by a power of ten. Powers that are no double are divided out in
steps of the largest one that is. -/
def lower (rank exponent : Nat) : Nat :=
  if exponent ≤ largestTen then overRank rank (tenRank exponent)
  else if rank = 0 then 0
  else lower (overRank rank (tenRank largestTen)) (exponent - largestTen)
termination_by exponent
decreasing_by simp only [largestTen] at *; omega

/-- There is no answer when the number is too large for a double. -/
def scaled? (rank : Nat) (exponent : Int) : Option Nat :=
  if exponent < 0 then some (lower rank exponent.natAbs)
  else if exponent.toNat ≤ largestTen then
    let product := timesRank rank (tenRank exponent.toNat)
    if product < rankLimit then some product else none
  else if rank = 0 then some 0
  else none

/-- Leading digits as long as their number fits 64 bits, and how many digits
were left over. -/
def leadingDigits : List Nat → Nat → Nat × Nat
  | [], taken => (taken, 0)
  | digit :: rest, taken =>
    let next := taken * 10 + digit
    if next < 1 <<< 64 then leadingDigits rest next else (taken, rest.length + 1)

def decimalValue (digits : List Nat) : Nat :=
  digits.foldl (fun n digit => n * 10 + digit) 0

/-- The exponent saturates where 32 bits end. -/
def boundedExponent (negative : Bool) (digits : List Nat) : Int :=
  let magnitude := min (decimalValue digits) ((1 <<< 31) - 1)
  if negative then -(magnitude : Int) else magnitude

/-- Reads `whole.part * 10 ^ exponent` with a sign. -/
def ofDecimal? (negative : Bool) (whole part : List Nat) (exponent : Int) : Option Double :=
  let leading := leadingDigits whole 0
  let parts :=
    -- Once a digit is left over no later one counts.
    if leading.2 = 0 then leadingDigits part leading.1 else (leading.1, part.length)
  let dropped : Int := leading.2 - (part.length - parts.2 : Nat)
  (scaled? (nearestRank parts.1 1) (dropped + exponent)).bind (ofRank? negative)

end QueryGuard.Double
