import QueryGuard.Query.Document

/-!
# Lowering policy queries to native queries

A policy may put a comparison inside a field (`age: @gt: 18`) or apply it to a
whole map of fields (`@gt: age: 18`). Native queries know the first form only
and spell every operator with `$`. Environment references are operands here.
-/

namespace QueryGuard

/-- Why a fragment is no policy query. Keys are given as written. -/
inductive LoweringError where
  | unknownOperator (key : String)
  | arrayUnderField (key : String)
  | operatorWithoutField (key : String)
  | invalidOperand (key : String)
  | query (error : QueryError)
  deriving DecidableEq

def LoweringError.message : LoweringError → String
  | .unknownOperator key => "Unknown operator '" ++ key ++ "'"
  | .arrayUnderField key => "Array value under '" ++ key ++ "' is not a logical operator"
  | .operatorWithoutField key => "Operator '" ++ key ++ "' is not attached to a field"
  | .invalidOperand key => "Operator '" ++ key ++ "' cannot take a logical group as operand"
  | .query error => error.message

namespace Query

-- ---------------------------------------------------------------------------
-- Merging constraints
-- ---------------------------------------------------------------------------

mutual
/-- A constraint joins one that the target already holds under the key, clause
by clause; any other node replaces what is there. -/
def mergeNode (key : String) : Node → Query → Query
  | .constraint ⟨nested⟩, target =>
    match target.get? key with
    | some (.constraint existing) =>
      target.put key (.constraint (mergeClauses nested existing))
    | _ => target.put key (.constraint ⟨nested⟩)
  | node, target => target.insert key node
def mergeClauses : List (String × Node) → Query → Query
  | [], target => target
  | (key, node) :: rest, target => mergeClauses rest (mergeNode key node target)
end

-- ---------------------------------------------------------------------------
-- Operators over field maps
-- ---------------------------------------------------------------------------

mutual
/-- Applies an operator to every operand of a field map. Operator keys inside
are refused; the error names the operator's own key as written. -/
def distribute (op : Comparison) (written : String) :
    List (String × Node) → Query → Except LoweringError Query
  | [], result => .ok result
  | (field, node) :: rest, result =>
    if Key.isOperator field then .error (.invalidOperand written)
    else do
      let nested ← distributeNode op written node
      distribute op written rest (mergeNode field (.constraint nested) result)
def distributeNode (op : Comparison) (written : String) : Node → Except LoweringError Query
  | .literal value => .ok ⟨[(op.key, .literal value)]⟩
  | .constraint ⟨fields⟩ => distribute op written fields empty
  | .group .. => .error (.invalidOperand written)
end

-- ---------------------------------------------------------------------------
-- Lowering
-- ---------------------------------------------------------------------------

def comparisonOf (key : String) : Except LoweringError Comparison :=
  match Comparison.ofKey? key with
  | some op => .ok op
  | none => .error (.unknownOperator key)

/-- An operand under a key: a comparison inside a field, or what a field is
compared with. -/
def lowerLiteral (inField : Bool) (key : String) (value : Json) (result : Query) :
    Except LoweringError Query :=
  if Key.isOperator key then do
    let op ← comparisonOf key
    if inField then return result.put op.key (.literal value)
    else throw (.operatorWithoutField key)
  else
    match value with
    | .array _ => .error (.arrayUnderField key)
    | value => .ok (result.put key (.literal value))

mutual
/-- Lowers clause after clause into a result. `inField` says whether a
field encloses the clauses with no group in between. -/
def lowerClauses (inField : Bool) :
    List (String × Node) → Query → Except LoweringError Query
  | [], result => .ok result
  | (key, node) :: rest, result => do
    let result ← lowerNode inField key node result
    lowerClauses inField rest result
def lowerNode (inField : Bool) (key : String) : Node → Query → Except LoweringError Query
  | .literal value, result => lowerLiteral inField key value result
  | .constraint ⟨inner⟩, result =>
    if Key.isOperator key then do
      let op ← comparisonOf key
      let distributed ← distribute op key inner empty
      return mergeClauses distributed.clauses result
    else do
      let nested ← lowerClauses true inner empty
      return mergeNode key (.constraint nested) result
  | .group op children, result => do
    let lowered ← lowerAll children
    return result.insertGroup op lowered
def lowerAll : List Query → Except LoweringError (List Query)
  | [] => .ok []
  | ⟨clauses⟩ :: rest => do
    let first ← lowerClauses false clauses empty
    let others ← lowerAll rest
    return first :: others
end

/-- Lowers a policy query as a whole. -/
def lower (q : Query) : Except LoweringError Query :=
  lowerClauses false q.clauses empty

end Query

/-- Lowers a policy fragment; null stands for no query at all. -/
def Json.lower? (fragment : Json) : Except LoweringError (Option Query) :=
  if fragment.isNull then .ok none
  else
    match Query.ofJson fragment with
    | .error e => .error (.query e)
    | .ok query => some <$> query.lower

end QueryGuard
