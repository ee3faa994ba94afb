import QueryGuard.Json.Printer
import QueryGuard.Query

/-!
# Query documents

A query is written as a JSON object. Nested objects are constraints, a logical
key holds an array of queries, and everything else is an operand that is taken
as it is.
-/

namespace QueryGuard

inductive QueryError where
  /-- The document is of another kind. -/
  | notAnObject (found : String)
  /-- The key, as written, does not hold an array of objects. -/
  | invalidGroup (key : String)
  /-- One object spells the operator with this native key twice. -/
  | duplicateGroup (key : String)
  deriving DecidableEq

def QueryError.message : QueryError → String
  | .notAnObject found => "Query must be a JSON object, found " ++ found
  | .invalidGroup key => "Logical operator '" ++ key ++ "' requires an array of query objects"
  | .duplicateGroup key => "Logical operator '" ++ key ++ "' appears more than once"

-- ---------------------------------------------------------------------------
-- Writing
-- ---------------------------------------------------------------------------

mutual
def Node.toJson : Node → Json
  | .literal value => value
  | .constraint query => query.toJson
  | .group _ children => .array (Query.toJsonAll children)
def Query.toJson : Query → Json
  | ⟨clauses⟩ => .object (Query.toJsonClauses clauses)
def Query.toJsonAll : List Query → List Json
  | [] => []
  | query :: rest => query.toJson :: Query.toJsonAll rest
def Query.toJsonClauses : List (String × Node) → List (String × Json)
  | [] => []
  | (key, node) :: rest => (key, node.toJson) :: Query.toJsonClauses rest
end

def Node.text (node : Node) : String := node.toJson.text

def Query.text (query : Query) : String := query.toJson.text

-- ---------------------------------------------------------------------------
-- Reading
-- ---------------------------------------------------------------------------

mutual
/-- An object becomes a constraint, anything else an operand. -/
def Node.ofJson : Json → Except QueryError Node
  | .object members => do
    let clauses ← Query.ofMembers members []
    return .constraint ⟨clauses⟩
  | value => .ok (.literal value)
/-- Reads member after member; the second argument holds the clauses so far. -/
def Query.ofMembers : List (String × Json) → Members Node → Except QueryError (Members Node)
  | [], clauses => .ok clauses
  | (key, value) :: rest, clauses =>
    match Logical.ofKey? key with
    | none => do
      let node ← Node.ofJson value
      Query.ofMembers rest (clauses.put key node)
    | some op =>
      if clauses.has op.key then .error (.duplicateGroup op.key)
      else do
        let children ← Query.groupOfJson key value
        Query.ofMembers rest (clauses.put op.key (.group op children))
/-- The children that a logical key holds. -/
def Query.groupOfJson (key : String) : Json → Except QueryError (List Query)
  | .array items => Query.childrenOfItems key items
  | _ => .error (.invalidGroup key)
def Query.childrenOfItems (key : String) : List Json → Except QueryError (List Query)
  | [] => .ok []
  | item :: rest => do
    let child ← Query.childOfJson key item
    let children ← Query.childrenOfItems key rest
    return child :: children
def Query.childOfJson (key : String) : Json → Except QueryError Query
  | .object members => do
    let clauses ← Query.ofMembers members []
    return ⟨clauses⟩
  | _ => .error (.invalidGroup key)
end

def Query.ofJson : Json → Except QueryError Query
  | .object members => do
    let clauses ← Query.ofMembers members []
    return ⟨clauses⟩
  | value => .error (.notAnObject value.kind)

end QueryGuard
