import QueryGuard.Policy
import QueryGuard.PolicyError

/-!
# Request contexts

What access control knows of a request, and what it gathers for it.
-/

namespace QueryGuard

structure Principal where
  id : String
  /-- What is known about the principal, in the order of the names. -/
  attributes : Members Json
  ascending : attributes.Ascending

namespace Principal

def ofId (id : String) : Principal := ⟨id, [], List.Pairwise.nil⟩

def ofAttributes (id : String) (attributes : Members Json) : Principal :=
  ⟨id, Members.ascending attributes, Members.ascending_ascending attributes⟩

def toJson (p : Principal) : Json :=
  .object <| [("id", .string p.id)] ++
    (if p.attributes.isEmpty then [] else [("attributes", .object p.attributes)])

def ofJson? (value : Json) : Option Principal := do
  match ← value.fields? ["id", "attributes"] with
  | [id, attributes] =>
    return ofAttributes (← Json.required Json.asString? id)
      (← Json.orDefault [] Json.asObject? attributes)
  | _ => none

end Principal

structure RequestContext where
  user : Option Principal
  app : String
  /-- The caller's query. -/
  query : Option Query
  /-- Gathered from the rules that applied. -/
  accessQuery : Option Query
  /-- Gathered from the rules that applied; absent, every field is returned. -/
  accessProjection : Option Projection

def Query.ofJson? (value : Json) : Option Query := (Query.ofJson value).toOption

namespace RequestContext

def ofApp (app : String) : RequestContext := ⟨none, app, none, none, none⟩

def userId? (ctx : RequestContext) : Option String := ctx.user.map Principal.id

/-- Takes the caller's query as it was sent; null is none. -/
def withRawQuery (ctx : RequestContext) (raw : Json) : Except PolicyError RequestContext :=
  if raw.isNull then .ok { ctx with query := none }
  else
    match Query.ofJson raw with
    | .ok query => .ok { ctx with query := some query }
    | .error e => .error (.invalidQuery e)

def toJson (ctx : RequestContext) : Json :=
  .object <|
    Json.member "authUser" Principal.toJson ctx.user ++
    [("authApp", .string ctx.app),
      ("body", .object (Json.member "query" Query.toJson ctx.query))] ++
    Json.member "accessControlQuery" Query.toJson ctx.accessQuery ++
    Json.member "accessControlProjection" Projection.toJson ctx.accessProjection

/-- The body holds the caller's query and nothing else of interest. -/
def bodyOfJson? (value : Json) : Option (Option Query) := do
  match ← value.fields? ["query"] with
  | [query] => Json.optional Query.ofJson? query
  | _ => none

/-- The array form leaves no field out. -/
def isComplete : Json → Bool
  | .array items => items.length == 5
  | _ => true

def ofJson? (value : Json) : Option RequestContext := do
  match ← value.fields?
      ["authUser", "authApp", "body", "accessControlQuery", "accessControlProjection"] with
  | [user, app, body, accessQuery, accessProjection] =>
    if !isComplete value then none
    else return {
      user := ← Json.optional Principal.ofJson? user
      app := ← Json.required Json.asString? app
      query := ← Json.orDefault none bodyOfJson? body
      accessQuery := ← Json.optional Query.ofJson? accessQuery
      accessProjection := ← Json.optional Projection.ofJson? accessProjection }
  | _ => none

/-- Merges the gathered query into the caller's. Without one nothing happens;
an array under a plain clause of it is refused first of all. -/
def merge (ctx : RequestContext) : Except PolicyError (MergeOutcome × RequestContext) :=
  match ctx.accessQuery with
  | none => .ok (.unchanged, ctx)
  | some access =>
    match access.arrayClause? with
    | some key => .error (.invalidClause key)
    | none =>
      let (outcome, query) := Query.mergeInto ctx.query access
      .ok (outcome, { ctx with query := some query })

end RequestContext

end QueryGuard
