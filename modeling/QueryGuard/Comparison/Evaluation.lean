import QueryGuard.Json
import QueryGuard.Pattern.Reader
import QueryGuard.Query.Key
import QueryGuard.Text.LowerCase
import QueryGuard.Time.DateTime

/-!
# Evaluating comparisons

Conditions compare two values. Numbers are compared as doubles, texts without
regard to case, and texts that name instants by time.
-/

namespace QueryGuard

namespace Text

/-- Does a text occur in another one? -/
def occursIn (needle : List Char) : List Char → Bool
  | [] => needle.isEmpty
  | c :: rest => needle.isPrefixOf (c :: rest) || occursIn needle rest

end Text

namespace Comparison

def looseEq : Json → Json → Bool
  | .string a, .string b => Text.lowerCase a == Text.lowerCase b
  | .number a, .number b => a.place == b.place
  | a, b => a.same b

/-- Only two numbers, or two texts that name instants, have an order. -/
def order? : Json → Json → Option Ordering
  | .number a, .number b => some (compare a.place b.place)
  | .string a, .string b =>
    match Instant.ofText? a, Instant.ofText? b with
    | some s, some t => some (compare s t)
    | _, _ => none
  | _, _ => none

/-- A text against a pattern. What is no pattern matches nothing. -/
def matchesPattern (insensitive : Bool) : Json → Json → Bool
  | .string text, .string pattern =>
    match Pattern.ofText? insensitive pattern with
    | some p => p.occursIn text
    | none => false
  | _, _ => false

/-- A value, or every item of an array, among the items of an array. -/
def isAmong : Json → Json → Bool
  | .array items, .array allowed => items.all (·.isIn allowed)
  | value, .array allowed => value.isIn allowed
  | _, _ => false

/-- The left side is compared with its own items; an array is none of its
items, and any other value counts as its only one. -/
def isApart : Json → Bool
  | .array items => items.all fun item => !item.same (.array items)
  | value => !value.same value

/-- Does the left side hold the right one, as an item or a part of the text? -/
def holds : Json → Json → Bool
  | .array items, value => value.isIn items
  | .string text, .string part => Text.occursIn part.toList text.toList
  | _, _ => false

def evaluate (op : Comparison) (lhs rhs : Json) : Bool :=
  match op with
  | .eq => looseEq lhs rhs
  | .ne => !looseEq lhs rhs
  | .gt => (order? lhs rhs).any Ordering.isGT
  | .gte => (order? lhs rhs).any Ordering.isGE
  | .lt => (order? lhs rhs).any Ordering.isLT
  | .lte => (order? lhs rhs).any Ordering.isLE
  | .regex => matchesPattern false lhs rhs
  | .iregex => matchesPattern true lhs rhs
  | .isIn => isAmong lhs rhs
  | .nin => isApart lhs
  | .exists => holds lhs rhs

/-- Evaluates under an operator key; an unknown operator holds for nothing. -/
def evaluateKey (lhs rhs : Json) (key : String) : Bool :=
  match ofKey? key with
  | some op => op.evaluate lhs rhs
  | none => false

end Comparison

end QueryGuard
