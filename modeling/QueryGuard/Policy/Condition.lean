import QueryGuard.Json.Record

/-!
# Conditions

A condition compares two operands. An operand that is an environment reference
stands for the value it refers to.
-/

namespace QueryGuard

structure Condition where
  lhs : Json
  /-- An operator key; one that names no comparison never holds. -/
  operator : String
  rhs : Json

namespace Condition

def toJson (c : Condition) : Json :=
  .object [("lhs", c.lhs), ("operator", .string c.operator), ("rhs", c.rhs)]

/-- Both operands have to be written, be they null. -/
def ofJson? (value : Json) : Option Condition := do
  match ← value.fields? ["lhs", "operator", "rhs"] with
  | [lhs, operator, rhs] => return ⟨← lhs, ← Json.required Json.asString? operator, ← rhs⟩
  | _ => none

end Condition

end QueryGuard
