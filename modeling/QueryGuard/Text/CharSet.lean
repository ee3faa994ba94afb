/-!
# Sets of characters

A set is a list of code point ranges, ascending and apart from each other.
Tables are written as text, with ranges in hexadecimal.
-/

namespace QueryGuard

structure CharSet where
  ranges : List (Nat × Nat)
  deriving DecidableEq

namespace CharSet

def empty : CharSet := ⟨[]⟩

def lastCode : Nat := 0x10FFFF

def all : CharSet := ⟨[(0, lastCode)]⟩

def range (first last : Nat) : CharSet := if first ≤ last then ⟨[(first, last)]⟩ else empty

def single (c : Char) : CharSet := ⟨[(c.toNat, c.toNat)]⟩

/-- Ranges are passed while they end before the code. -/
def covers (code : Nat) : List (Nat × Nat) → Bool
  | [] => false
  | (first, last) :: rest => if last < code then covers code rest else first ≤ code

def contains (s : CharSet) (c : Char) : Bool := covers c.toNat s.ranges

-- ---------------------------------------------------------------------------
-- Operations
-- ---------------------------------------------------------------------------

/-- Joins ranges that touch to one that starts no later than they do. They are
given in ascending order of their starts. -/
def joined (first last : Nat) : List (Nat × Nat) → List (Nat × Nat)
  | [] => [(first, last)]
  | (next, upTo) :: rest =>
    if next ≤ last + 1 then joined first (max last upTo) rest
    else (first, last) :: joined next upTo rest

def ofRanges (ranges : List (Nat × Nat)) : CharSet :=
  match ranges.mergeSort fun a b => a.1 ≤ b.1 with
  | [] => empty
  | (first, last) :: rest => ⟨joined first last rest⟩

def union (a b : CharSet) : CharSet := ofRanges (a.ranges ++ b.ranges)

def unionAll (sets : List CharSet) : CharSet := ofRanges (sets.flatMap ranges)

/-- What the ranges leave out from a code on. -/
def gaps (start : Nat) : List (Nat × Nat) → List (Nat × Nat)
  | [] => if start ≤ lastCode then [(start, lastCode)] else []
  | (first, last) :: rest =>
    (if start < first then [(start, first - 1)] else []) ++ gaps (last + 1) rest

def complement (s : CharSet) : CharSet := ⟨gaps 0 s.ranges⟩

def intersect (a b : CharSet) : CharSet := (a.complement.union b.complement).complement

def difference (a b : CharSet) : CharSet := a.intersect b.complement

def symmetricDifference (a b : CharSet) : CharSet := (a.union b).difference (a.intersect b)

def isAscii (s : CharSet) : Bool := s.ranges.all fun r => r.2 ≤ 0x7F

-- ---------------------------------------------------------------------------
-- Tables
-- ---------------------------------------------------------------------------

def hexValue (c : Char) : Nat :=
  if c.isDigit then c.toNat - '0'.toNat else c.toNat - 'A'.toNat + 10

def hexNumber (digits : List Char) : Nat :=
  digits.foldl (fun n c => n * 16 + hexValue c) 0

/-- One entry of a table: a code, or the two ends of a range around a dash. -/
def entry (word : List Char) : Nat × Nat :=
  let first := hexNumber (word.takeWhile (· != '-'))
  match word.dropWhile (· != '-') with
  | [] => (first, first)
  | _ :: last => (first, hexNumber last)

/-- A table: entries in ascending order, with blanks and line feeds in between. -/
def ofTable (table : String) : CharSet :=
  let words := table.toList.splitOnP fun c => c = ' ' || c = '\n'
  ⟨(words.filter (· != [])).map entry⟩

end CharSet

end QueryGuard
