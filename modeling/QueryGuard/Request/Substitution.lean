import QueryGuard.Config
import QueryGuard.Request.Environment

/-!
# Substituting environment references

References stand as operands, or as items of arrays that are operands. All of
them are resolved first, one after the other, and then replaced at once: a
value that has been put in is not looked at again.
-/

namespace QueryGuard

namespace Json

mutual
/-- The references in a value, from left to right; those inside objects are
none. -/
def references : Json → List String
  | .string text => if (Environment.reference? text).isSome then [text] else []
  | .array items => referencesIn items
  | _ => []
def referencesIn : List Json → List String
  | [] => []
  | item :: rest => item.references ++ referencesIn rest
end

mutual
/-- Replaces the texts that have a value. -/
def replace (values : Members Json) : Json → Json
  | .string text => (values.get? text).getD (.string text)
  | .array items => .array (replaceIn values items)
  | value => value
def replaceIn (values : Members Json) : List Json → List Json
  | [] => []
  | item :: rest => item.replace values :: replaceIn values rest
end

end Json

/-- The references in a query, each once, in the order of its operands. -/
def Query.references (q : Query) : List String :=
  (q.literals.flatMap Json.references).eraseDups

namespace Resolution

/-- The value to put in for a reference. -/
def ofReference (mode : UnresolvedMode) (directory : Directory) (app reference : String) :
    Resolution Json := do
  match ← ofText directory app reference, mode with
  | some value, _ => return value
  | none, .null => return .null
  | none, .reject => throw (.unresolvedEnvironment reference)

/-- Resolves references in their order. -/
def ofReferences (mode : UnresolvedMode) (directory : Directory) (app : String) :
    List String → Resolution (Members Json)
  | [] => return []
  | reference :: rest => do
    let value ← ofReference mode directory app reference
    return (reference, value) :: (← ofReferences mode directory app rest)

/-- Puts values in for the references of a query. -/
def substitute (mode : UnresolvedMode) (directory : Directory) (app : String) (q : Query) :
    Resolution Query := do
  let values ← ofReferences mode directory app q.references
  return q.mapLiterals (Json.replace values)

end Resolution

end QueryGuard
