import QueryGuard.Policy.Condition
import QueryGuard.Policy.Endpoint
import QueryGuard.Policy.Projection
import QueryGuard.Query.Lowering
import QueryGuard.Text.Blank

/-!
# Policies

A policy of an app lists rule-sets: the endpoints that they are for, bindings
and conditions, a projection, and the access rule as a policy query. For a
request it is reduced to the rules that are for its endpoint.
-/

namespace QueryGuard

/-- Values that a rule names. -/
abbrev Bindings := Members Json

-- ---------------------------------------------------------------------------
-- Matched policies
-- ---------------------------------------------------------------------------

/-- A rule without its endpoints. -/
structure QueryRule where
  query : Json
  env : Bindings
  conditions : List Condition
  projection : Option Projection

namespace QueryRule

/-- Nothing but a query. -/
def ofQuery (query : Json) : QueryRule := ⟨query, [], [], none⟩

def toJson (r : QueryRule) : Json :=
  .object <|
    [("query", r.query), ("env", .object r.env),
      ("conditions", .array (r.conditions.map Condition.toJson))] ++
    Json.member "projection" Projection.toJson r.projection

def ofJson? (value : Json) : Option QueryRule := do
  match ← value.fields? ["query", "env", "conditions", "projection"] with
  | [query, env, conditions, projection] =>
    return ⟨query.getD .null, ← Json.orDefault [] Json.asObject? env,
      ← Json.orDefault [] (Json.listOf? Condition.ofJson?) conditions,
      ← Json.optional Projection.ofJson? projection⟩
  | _ => none

end QueryRule

/-- The rules of one policy that are for a request. -/
structure MatchedPolicy where
  name : String
  env : Bindings
  rules : List QueryRule

namespace MatchedPolicy

def toJson (p : MatchedPolicy) : Json :=
  .object [("name", .string p.name), ("env", .object p.env),
    ("rules", .array (p.rules.map QueryRule.toJson))]

def ofJson? (value : Json) : Option MatchedPolicy := do
  match ← value.fields? ["name", "env", "rules"] with
  | [name, env, rules] =>
    return ⟨← Json.required Json.asString? name, ← Json.orDefault [] Json.asObject? env,
      ← Json.orDefault [] (Json.listOf? QueryRule.ofJson?) rules⟩
  | _ => none

end MatchedPolicy

-- ---------------------------------------------------------------------------
-- Rule-sets
-- ---------------------------------------------------------------------------

structure RuleSet where
  /-- No endpoints stand for every endpoint. -/
  endpoints : List Endpoint
  env : Bindings
  conditions : List Condition
  projection : Option Projection
  query : Json

namespace RuleSet

def blank : RuleSet := ⟨[], [], [], none, .null⟩

def appliesTo (r : RuleSet) (verb path : String) : Bool :=
  r.endpoints.isEmpty || r.endpoints.any fun e => e.covers verb path

def toQueryRule (r : RuleSet) : QueryRule := ⟨r.query, r.env, r.conditions, r.projection⟩

def toJson (r : RuleSet) : Json :=
  .object <|
    [("endpoints", .array (r.endpoints.map Endpoint.toJson)), ("env", .object r.env),
      ("conditions", .array (r.conditions.map Condition.toJson))] ++
    Json.member "projection" Projection.toJson r.projection ++ [("query", r.query)]

def ofJson? (value : Json) : Option RuleSet := do
  match ← value.fields? ["endpoints", "env", "conditions", "projection", "query"] with
  | [endpoints, env, conditions, projection, query] =>
    return ⟨← Json.orDefault [] (Json.listOf? Endpoint.ofJson?) endpoints,
      ← Json.orDefault [] Json.asObject? env,
      ← Json.orDefault [] (Json.listOf? Condition.ofJson?) conditions,
      ← Json.optional Projection.ofJson? projection, query.getD .null⟩
  | _ => none

end RuleSet

-- ---------------------------------------------------------------------------
-- Policies
-- ---------------------------------------------------------------------------

structure Policy where
  id : String
  app : String
  name : String
  description : Option String
  active : Bool
  /-- Lower ones come first. -/
  priority : Int32
  /-- Whom the policy is for; null when that is left to others. -/
  selection : Json
  config : List RuleSet

namespace Policy

def defaultPriority : Int32 := 100

def blank : Policy := ⟨"", "", "", none, true, defaultPriority, .null, []⟩

/-- What the policy says about a request, unless it is inactive or has no rule
for the endpoint. -/
def matchedFor (p : Policy) (verb path : String) : Option MatchedPolicy :=
  if !p.active then none
  else
    match (p.config.filter fun r => r.appliesTo verb path).map RuleSet.toQueryRule with
    | [] => none
    | rules => some ⟨p.name, [], rules⟩

def toJson (p : Policy) : Json :=
  .object <|
    [("id", .string p.id), ("appId", .string p.app), ("name", .string p.name)] ++
    Json.member "description" .string p.description ++
    [("active", .bool p.active), ("priority", .number (.integer p.priority.toInt))] ++
    (if p.selection.isNull then [] else [("selection", p.selection)]) ++
    [("config", .array (p.config.map RuleSet.toJson))]

def ofJson? (value : Json) : Option Policy := do
  match ← value.fields?
      ["id", "appId", "name", "description", "active", "priority", "selection", "config"] with
  | [id, app, name, description, active, priority, selection, config] =>
    return {
      id := ← Json.orDefault "" Json.asString? id
      app := ← Json.required Json.asString? app
      name := ← Json.required Json.asString? name
      description := ← Json.optional Json.asString? description
      active := ← Json.orDefault true Json.asBool? active
      priority := ← Json.orDefault defaultPriority Json.smallInteger? priority
      selection := selection.getD .null
      config := ← Json.orDefault [] (Json.listOf? RuleSet.ofJson?) config }
  | _ => none

end Policy

-- ---------------------------------------------------------------------------
-- Validation
-- ---------------------------------------------------------------------------

inductive ValidationError where
  | missingField (name : String)
  | invalidPriority (priority : Int32)
  | invalidVerb (verb : String)
  | invalidRoute (route : String)
  | unknownOperator (key : String)
  /-- The query of the rule-set at this place cannot be lowered. -/
  | invalidQuery (rule : Nat) (source : LoweringError)
  deriving DecidableEq

def ValidationError.message : ValidationError → String
  | .missingField name => "Missing required field: " ++ name
  | .invalidPriority priority =>
    "Priority must be between 0 and 1000, got " ++ toString priority
  | .invalidVerb verb =>
    "Invalid verb: " ++ verb ++ " (must be GET, POST, PUT, PATCH, DELETE or *)"
  | .invalidRoute route => "Invalid route pattern: " ++ route
  | .unknownOperator key => "Unknown condition operator: " ++ key
  | .invalidQuery rule source =>
    "Rule " ++ toString rule ++ " has an invalid query: " ++ source.message

def Endpoint.validate (e : Endpoint) : Except ValidationError Unit := do
  if !verbs.contains (upper e.verb) then throw (.invalidVerb e.verb)
  if e.route.toList.head? != some '/' || (Route.pattern? e.route).isNone then
    throw (.invalidRoute e.route)

def Condition.validate (c : Condition) : Except ValidationError Unit := do
  if (Comparison.ofKey? c.operator).isNone then throw (.unknownOperator c.operator)

def RuleSet.validate (index : Nat) (r : RuleSet) : Except ValidationError Unit := do
  r.endpoints.forM Endpoint.validate
  r.conditions.forM Condition.validate
  match r.query.lower? with
  | .ok _ => return
  | .error source => throw (.invalidQuery index source)

/-- Validates rule-sets from a place on; the first fault counts. -/
def RuleSet.validateFrom (index : Nat) : List RuleSet → Except ValidationError Unit
  | [] => .ok ()
  | r :: rest => do
    r.validate index
    validateFrom (index + 1) rest

def Policy.validate (p : Policy) : Except ValidationError Unit := do
  if Text.isBlankText p.name then throw (.missingField "name")
  if Text.isBlankText p.app then throw (.missingField "appId")
  if p.priority < 0 || 1000 < p.priority then throw (.invalidPriority p.priority)
  RuleSet.validateFrom 0 p.config

end QueryGuard
