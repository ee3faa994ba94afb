/-!
# Keys of queries

A key is a field name or an operator key. Policies write operator keys with
`@`, native queries with `$`; both spellings are read everywhere.
-/

namespace QueryGuard

/-- Operators that combine queries. -/
inductive Logical where
  | and
  | or
  deriving DecidableEq

namespace Logical

def all : List Logical := [.and, .or]

/-- The native key. -/
def key : Logical → String
  | .and => "$and"
  | .or => "$or"

def ofKey? (key : String) : Option Logical :=
  if key = "@and" || key = "$and" then some .and
  else if key = "@or" || key = "$or" then some .or
  else none

end Logical

/-- Operators that compare a field, or the left side of a condition, with an
operand. -/
inductive Comparison where
  | eq
  | ne
  | gt
  | gte
  | lt
  | lte
  | regex
  | iregex
  | isIn
  | nin
  | exists
  deriving DecidableEq

namespace Key

def isOperator (key : String) : Bool :=
  match key.toList with
  | '@' :: _ => true
  | '$' :: _ => true
  | _ => false

/-- The native spelling of an operator key; a field name is left alone. -/
def native (key : String) : String :=
  match key.toList with
  | '@' :: rest => String.ofList ('$' :: rest)
  | _ => key

/-- What an operator key spells behind its sigil. -/
def operatorName? (key : String) : Option String :=
  match key.toList with
  | '@' :: rest => some (String.ofList rest)
  | '$' :: rest => some (String.ofList rest)
  | _ => none

end Key

namespace Comparison

def all : List Comparison :=
  [.eq, .ne, .gt, .gte, .lt, .lte, .regex, .iregex, .isIn, .nin, .exists]

def name : Comparison → String
  | .eq => "eq"
  | .ne => "ne"
  | .gt => "gt"
  | .gte => "gte"
  | .lt => "lt"
  | .lte => "lte"
  | .regex => "regex"
  | .iregex => "iregex"
  | .isIn => "in"
  | .nin => "nin"
  | .exists => "exists"

/-- The native key. -/
def key (op : Comparison) : String := "$" ++ op.name

def ofName? (name : String) : Option Comparison :=
  all.find? fun op => op.name == name

/-- Either sigil is read, but one has to be there. -/
def ofKey? (key : String) : Option Comparison :=
  (Key.operatorName? key).bind ofName?

def unknownMessage (key : String) : String := "unknown operator '" ++ key ++ "'"

end Comparison

end QueryGuard
