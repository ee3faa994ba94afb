/-!
# Runs of characters

Case tables pair characters with others at a fixed distance. A run holds every
character, or every second one, from a first to a last code point.
-/

namespace QueryGuard.Text

structure Shift where
  first : Nat
  last : Nat
  step : Nat
  distance : Int

namespace Shift

def covers (s : Shift) (code : Nat) : Bool :=
  s.first ≤ code && code ≤ s.last && (code - s.first) % s.step == 0

def moved (s : Shift) (code : Nat) : Nat := (code + s.distance).toNat

/-- Where the covered codes of a range go. -/
def image (s : Shift) (range : Nat × Nat) : List (Nat × Nat) :=
  let low := max range.1 s.first
  let high := min range.2 s.last
  if high < low then []
  else if s.step = 1 then [(s.moved low, s.moved high)]
  else
    (((List.range (high - low + 1)).map (· + low)).filter s.covers).map fun code =>
      (s.moved code, s.moved code)

def inverse (s : Shift) : Shift :=
  ⟨s.moved s.first, s.moved s.last, s.step, -s.distance⟩

end Shift

end QueryGuard.Text
