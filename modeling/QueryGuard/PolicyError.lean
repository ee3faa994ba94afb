import QueryGuard.Query.Lowering
import QueryGuard.Query.Merge
import QueryGuard.StorageError

/-!
# Failures of access control

Every failure has a code, a category and an HTTP response. What went wrong on
the server's side is not told to the client.
-/

namespace QueryGuard

inductive PolicyError where
  | lowering (policy : String) (source : LoweringError)
  | environmentResolution (app user message : String)
  | unresolvedEnvironment (reference : String)
  | conflict (conflicts : List Conflict)
  | invalidQuery (source : QueryError)
  | invalidClause (key : String)
  | storage (source : StorageError)
  | configuration (message : String)

namespace PolicyError

inductive Category where
  | authorization
  | policy
  | validation
  | infrastructure
  | configuration
  deriving DecidableEq

def Category.text : Category → String
  | .authorization => "authorization"
  | .policy => "policy"
  | .validation => "validation"
  | .infrastructure => "infrastructure"
  | .configuration => "configuration"

def category : PolicyError → Category
  | .lowering .. => .policy
  | .environmentResolution .. => .authorization
  | .unresolvedEnvironment _ => .authorization
  | .conflict _ => .authorization
  | .invalidQuery _ => .validation
  | .invalidClause _ => .policy
  | .storage _ => .infrastructure
  | .configuration _ => .configuration

def code : PolicyError → String
  | .lowering .. => "policy-translation"
  | .environmentResolution .. => "environment-resolution"
  | .unresolvedEnvironment _ => "unresolved-environment"
  | .conflict _ => "policy-conflict"
  | .invalidQuery _ => "invalid-query"
  | .invalidClause _ => "invalid-clause"
  | .storage _ => "storage"
  | .configuration _ => "configuration"

def message : PolicyError → String
  | .lowering policy source =>
    "Policy '" ++ policy ++ "' could not be translated: " ++ source.message
  | .environmentResolution app user message =>
    "Environment resolution failed for user '" ++ user ++ "' in app '" ++ app ++ "': " ++ message
  | .unresolvedEnvironment reference =>
    "Unresolved environment reference '" ++ reference ++ "'"
  | .conflict conflicts =>
    "Caller query conflicts with access policy on: " ++
      ", ".intercalate (conflicts.map Conflict.field)
  | .invalidQuery source => "Invalid query: " ++ source.message
  | .invalidClause key =>
    "Invalid access-control clause '" ++ key ++
      "': arrays are only allowed under logical operators"
  | .storage source => "Storage error: " ++ source.message
  | .configuration message => "Configuration error: " ++ message

def conflicts? : PolicyError → Option (List Conflict)
  | .conflict conflicts => some conflicts
  | _ => none

def isClientError (e : PolicyError) : Bool :=
  match e.category with
  | .authorization | .policy | .validation => true
  | .infrastructure | .configuration => false

def isServerError (e : PolicyError) : Bool := !e.isClientError

-- ---------------------------------------------------------------------------
-- Responses
-- ---------------------------------------------------------------------------

/-- A refused request is forbidden, whatever the cause. -/
def status : PolicyError → Nat
  | .conflict _ => 403
  | .environmentResolution .. => 403
  | .unresolvedEnvironment _ => 403
  | .lowering .. => 403
  | .invalidClause _ => 403
  | .invalidQuery _ => 400
  | .storage _ => 500
  | .configuration _ => 500

structure Response where
  status : Nat
  contentType : String
  body : Json

def response (e : PolicyError) : Response where
  status := e.status
  contentType := "application/json"
  body := .object [
    ("error", .string e.code),
    ("message", .string
      (if 500 ≤ e.status then "Access control could not be evaluated" else e.message)),
    ("conflicts", .array ((e.conflicts?.getD []).map Conflict.toJson))]

end PolicyError

end QueryGuard
