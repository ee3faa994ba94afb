/-!
# Finite doubles

A finite binary64 number is kept as its sign and its rank: zero has rank 0, the
smallest positive double rank 1, and so on upwards, so that comparing doubles
is comparing integers. Rounding is done on exact fractions of naturals.
-/

namespace QueryGuard

/-- The rank that infinity would have: the number of finite magnitudes. -/
def Double.rankLimit : Nat := 2047 <<< 52

structure Double where
  negative : Bool
  rank : Nat
  finite : rank < Double.rankLimit
  deriving DecidableEq

namespace Double

/-- Place of a double on the number line. The two zeros share a place. -/
def place (d : Double) : Int :=
  if d.negative then -(d.rank : Int) else d.rank

def zero : Double := ⟨false, 0, by decide⟩

/-- The magnitude of a rank is `significand * 2 ^ (scale - 1074)`. -/
def significand (rank : Nat) : Nat :=
  if rank < 1 <<< 52 then rank else (1 <<< 52) + rank % (1 <<< 52)

def scale (rank : Nat) : Nat :=
  if rank < 1 <<< 52 then 0 else (rank >>> 52) - 1

/-- The quotient rounded to the nearest natural number, a tie to the even one. -/
def roundQuotient (num den : Nat) : Nat :=
  let floor := num / den
  let twice := 2 * (num % den)
  if twice < den then floor
  else if den < twice then floor + 1
  else floor + floor % 2

/-- Rank of the double nearest to `num / den`, a tie going to the even
significand. The answer may reach `rankLimit`: the quotient is then too large
for a double. -/
def nearestRank (num den : Nat) : Nat :=
  if num = 0 then 0
  else
    -- In units of the smallest double the quotient is `units / den`.
    let units := num <<< 1074
    let guess := units.log2 - den.log2 - 53
    let shift := if units / (den <<< guess) < 1 <<< 53 then guess else guess + 1
    (shift <<< 52) + roundQuotient units (den <<< shift)

def ofRank? (negative : Bool) (rank : Nat) : Option Double :=
  if h : rank < rankLimit then some ⟨negative, rank, h⟩ else none

/-- The largest finite double stands in for everything beyond it; no integer of
64 bits gets there. -/
def ofInt (value : Int) : Double :=
  ⟨value < 0, min (nearestRank value.natAbs 1) (rankLimit - 1),
    Nat.lt_of_le_of_lt (Nat.min_le_right ..) (by decide)⟩

/-- Numerator and denominator of the magnitude of a rank. -/
def fraction (rank : Nat) : Nat × Nat :=
  let shift := scale rank
  if 1074 ≤ shift then (significand rank <<< (shift - 1074), 1)
  else (significand rank, 1 <<< (1074 - shift))

end Double

end QueryGuard
