import QueryGuard.Pattern

/-!
# Expressions of patterns

A pattern as it is written, with counted repetitions. Before repetitions are
written out, the room that the pattern would take is weighed, and patterns that
are too large or nested too deeply are refused.
-/

namespace QueryGuard.Pattern

inductive Expr where
  | empty
  /-- A change of flags, which matches nothing and cannot be repeated. -/
  | flags
  | literal (c : Char)
  /-- A set of characters and how deeply its brackets nest. -/
  | set (members : CharSet) (depth : Nat)
  | look (condition : Look)
  | repeated (least : Nat) (most : Option Nat) (body : Expr)
  | group (captures : Bool) (body : Expr)
  | concat (items : List Expr)
  | choice (items : List Expr)

namespace Expr

mutual
/-- Can the expression take no character at all? -/
def takesNothing : Expr → Bool
  | .literal _ => false
  | .set .. => false
  | .repeated _ most body => most == some 0 || body.takesNothing
  | .group _ body => body.takesNothing
  | .concat items => allTakeNothing items
  | .choice items => allTakeNothing items
  | _ => true
def allTakeNothing : List Expr → Bool
  | [] => true
  | item :: rest => item.takesNothing && allTakeNothing rest
end

/-- What takes nothing is not worth repeating. -/
def bounds (least : Nat) (most : Option Nat) (body : Expr) : Nat × Option Nat :=
  if body.takesNothing then (min least 1, some ((most.map (min · 1)).getD 1)) else (least, most)

-- ---------------------------------------------------------------------------
-- Limits
-- ---------------------------------------------------------------------------

def depthLimit : Nat := 250

/-- Bytes that a compiled pattern may take. -/
def sizeLimit : Nat := 10 <<< 20

mutual
def depth : Expr → Nat
  | .set _ depth => depth
  | .repeated _ _ body => body.depth + 1
  | .group _ body => body.depth + 1
  | .concat items => depthAll items + 1
  | .choice items => depthAll items + 1
  | _ => 0
def depthAll : List Expr → Nat
  | [] => 0
  | item :: rest => max item.depth (depthAll rest)
end

/-- Bytes of one state, and of each further transition of a state. -/
def stateSize : Nat := 32

def transitionSize : Nat := 8

/-- Sets beyond ASCII take several states for each range, and more when they
reach the last plane. -/
def setSize (s : CharSet) : Nat :=
  if s.isAscii then 2 * stateSize + transitionSize * s.ranges.length
  else 2 * stateSize * s.ranges.length +
    (if s.ranges.any fun r => r.2 == CharSet.lastCode then 900 else 100)

mutual
/-- An estimate of the bytes that an expression takes with its repetitions
written out. -/
def size : Expr → Nat
  | .literal c => stateSize * c.utf8Size
  | .set members _ => setSize members
  | .repeated least most body =>
    let (least, most) := bounds least most body
    let each := body.size
    let step := stateSize + transitionSize
    least * each + (match most with
      | none => (if least = 0 then each else 0) + step
      | some most => (most - least) * (each + step) + stateSize)
  | .group captures body => body.size + (if captures then 2 * stateSize else 0)
  | .concat items => sizeAll items
  | .choice items => sizeAll items + 2 * stateSize + 4 * items.length
  | _ => stateSize
def sizeAll : List Expr → Nat
  | [] => 0
  | item :: rest => item.size + sizeAll rest
end

-- ---------------------------------------------------------------------------
-- Patterns
-- ---------------------------------------------------------------------------

/-- A number of copies, one after the other, before a last part. -/
def copies (body last : Pattern) : Nat → Pattern
  | 0 => last
  | n + 1 => .seq body (copies body last n)

/-- At most so many copies. -/
def optional (body : Pattern) : Nat → Pattern
  | 0 => .empty
  | n + 1 => .alt .empty (.seq body (optional body n))

mutual
def toPattern : Expr → Pattern
  | .empty => .empty
  | .flags => .empty
  | .literal c => .one (.single c) false
  | .set members _ => .one members false
  | .look condition => .look condition
  | .repeated least most body =>
    let (least, most) := bounds least most body
    let pattern := body.toPattern
    copies pattern (match most with
      | none => .star pattern
      | some most => optional pattern (most - least)) least
  | .group _ body => body.toPattern
  | .concat items => sequence items
  | .choice items => choiceOf items
def sequence : List Expr → Pattern
  | [] => .empty
  | item :: rest => .seq item.toPattern (sequence rest)
def choiceOf : List Expr → Pattern
  | [] => .one .empty false
  | item :: rest => .alt item.toPattern (choiceOf rest)
end

/-- The pattern of an expression that keeps within the limits. -/
def toPattern? (e : Expr) : Option Pattern :=
  if e.depth ≤ depthLimit && e.size ≤ sizeLimit then some e.toPattern else none

end Expr

end QueryGuard.Pattern
