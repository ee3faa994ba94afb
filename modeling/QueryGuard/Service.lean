import QueryGuard.Policy.Cache
import QueryGuard.Request.Enforcement

/-!
# A service with its stores

Administrators store policies and people; requests are enforced against the
policies of their app, which the cache keeps. Changes of the stored policies
reach the cache only when it loads them.
-/

namespace QueryGuard

structure Service where
  config : Config
  policies : PolicyStore
  people : PeopleStore
  cache : PolicyCache

/-- What the cache and the enforcement ask. -/
structure Backing where
  source : PolicySource
  directory : Directory

inductive Operation where
  /-- A policy without an id gets the fresh one. -/
  | upsert (fresh : String) (policy : Policy)
  | get (id : String)
  | list (app : String)
  | delete (id : String)
  | createPerson (person : Person)
  | policies (app : String)
  | matched (app verb path : String)
  | refresh (app : String)
  | invalidate (app : String)
  | invalidateAll
  | enforce (ctx : RequestContext) (verb path : String)

inductive Answer where
  | done
  | policy (found : Option Policy)
  | policies (listed : List Policy)
  | matched (policies : List MatchedPolicy)
  | person (created : Person)
  | enforced (outcome : Outcome Enforcement)
  /-- A store refused. -/
  | refused (e : StorageError)
  | failed (e : PolicyError)

namespace Service

/-- Nothing is stored at first. -/
def start (config : Config) (cache : PolicyCache) : Service :=
  ⟨config, PolicyStore.empty, PeopleStore.empty, cache⟩

/-- The service's own stores. -/
def backing (s : Service) : Backing := ⟨.ofStore s.policies, .ofStore s.people⟩

def answerOf {α : Type} (answer : α → Answer) : Except PolicyError α → Answer
  | .ok value => answer value
  | .error e => .failed e

/-- Enforces the policies that the app of the request has for an endpoint. -/
def enforceEndpoint (s : Service) (b : Backing) (now : Instant) (ctx : RequestContext)
    (verb path : String) : Option (Outcome Enforcement × Service) :=
  (s.cache.matchedPolicies b.source now ctx.app verb path).map fun (result, cache) =>
    let outcome := match result with
      | .error e => ⟨.error e, ctx, 0⟩
      | .ok policies => ctx.enforce s.config b.directory policies
    (outcome, { s with cache := cache })

/-- Carries out an operation. `none` where the cache cannot reckon how long an
entry lives. -/
def step (s : Service) (b : Backing) (now : Instant) : Operation → Option (Answer × Service)
  | .upsert fresh policy => some <|
    match s.policies.upsert fresh policy with
    | .error e => (.refused e, s)
    | .ok (stored, policies) => (.policy (some stored), { s with policies := policies })
  | .get id => some (.policy (s.policies.get? id), s)
  | .list app => some <|
    match b.source app with
    | .error e => (.refused e, s)
    | .ok policies => (.policies policies, s)
  | .delete id => some <|
    match s.policies.delete id with
    | .error e => (.refused e, s)
    | .ok policies => (.done, { s with policies := policies })
  | .createPerson person => some <|
    match s.people.create person with
    | .error e => (.refused e, s)
    | .ok people => (.person person, { s with people := people })
  | .policies app =>
    (s.cache.policiesFor b.source now app).map fun (result, cache) =>
      (answerOf .policies result, { s with cache := cache })
  | .matched app verb path =>
    (s.cache.matchedPolicies b.source now app verb path).map fun (result, cache) =>
      (answerOf .matched result, { s with cache := cache })
  | .refresh app =>
    let (result, cache) := s.cache.refresh b.source now app
    some (answerOf .policies result, { s with cache := cache })
  | .invalidate app => some (.done, { s with cache := s.cache.invalidate app })
  | .invalidateAll => some (.done, { s with cache := s.cache.invalidateAll })
  | .enforce ctx verb path =>
    (s.enforceEndpoint b now ctx verb path).map fun (outcome, s) => (.enforced outcome, s)

/-- Carries out timed operations on the service's own stores. -/
def run (s : Service) : List (Instant × Operation) → Option (List Answer × Service)
  | [] => some ([], s)
  | (now, operation) :: rest => do
    let (answer, s) ← s.step s.backing now operation
    let (answers, s) ← s.run rest
    return (answer :: answers, s)

end Service

end QueryGuard
