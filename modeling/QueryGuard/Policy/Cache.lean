import QueryGuard.Config
import QueryGuard.Policy
import QueryGuard.Policy.Store
import QueryGuard.Time.DateTime

/-!
# Cached policies

The active policies of each app, by priority, as they were when they were
loaded. An entry is served until its time to live is over or it is invalidated.
-/

namespace QueryGuard

structure CachedApp where
  policies : List Policy
  loadedAt : Instant

structure PolicyCache where
  apps : Members CachedApp
  /-- Nanoseconds, of either sign. -/
  ttl : Int
  /-- Otherwise nothing is kept. -/
  enabled : Bool
  hits : Nat
  misses : Nat
  refreshes : Nat

namespace PolicyCache

def ofTtl (nanoseconds : Int) : PolicyCache := ⟨[], nanoseconds, true, 0, 0, 0⟩

def ofConfig (c : CacheConfig) : Except PolicyError PolicyCache := do
  let ttl ← c.ttl?
  return { ofTtl ttl.inNanoseconds with enabled := c.enabled }

-- ---------------------------------------------------------------------------
-- Loading
-- ---------------------------------------------------------------------------

/-- The app's active policies, by priority; equals stay in their order. -/
def selected (app : String) (policies : List Policy) : List Policy :=
  (policies.filter (PolicyStore.isListed app)).mergeSort fun p other => p.priority ≤ other.priority

/-- Loads an app's policies. Nothing changes if that fails. -/
def refresh (c : PolicyCache) (source : PolicySource) (now : Instant) (app : String) :
    Except PolicyError (List Policy) × PolicyCache :=
  match source app with
  | .error e => (.error (.storage e), c)
  | .ok listed =>
    let policies := selected app listed
    (.ok policies,
      { c with
        refreshes := c.refreshes + 1
        apps := if c.enabled then c.apps.put app ⟨policies, now⟩ else c.apps })

/-- The entry of an app, as long as it is served. -/
def entry? (c : PolicyCache) (app : String) : Option CachedApp :=
  if c.enabled then c.apps.get? app else none

/-- Is an entry's time to live over? `none` where it would end beyond the years
of the calendar. -/
def isStale? (c : PolicyCache) (entry : CachedApp) (now : Instant) : Option Bool :=
  (entry.loadedAt.later? c.ttl).map fun last => last < now

/-- The app's policies, loaded if they are not there or stale. `none` where the
time to live of the entry cannot be reckoned. -/
def policiesFor (c : PolicyCache) (source : PolicySource) (now : Instant) (app : String) :
    Option (Except PolicyError (List Policy) × PolicyCache) :=
  let load := { c with misses := c.misses + 1 }.refresh source now app
  match c.entry? app with
  | none => some load
  | some entry =>
    (c.isStale? entry now).map fun stale =>
      if stale then load else (.ok entry.policies, { c with hits := c.hits + 1 })

/-- What the app's policies say about a request. -/
def matchedPolicies (c : PolicyCache) (source : PolicySource) (now : Instant)
    (app verb path : String) : Option (Except PolicyError (List MatchedPolicy) × PolicyCache) :=
  (c.policiesFor source now app).map fun (result, c) =>
    (result.map fun policies => policies.filterMap fun p => p.matchedFor verb path, c)

-- ---------------------------------------------------------------------------
-- Invalidation
-- ---------------------------------------------------------------------------

def invalidate (c : PolicyCache) (app : String) : PolicyCache :=
  { c with apps := Members.remove app c.apps }

def invalidateAll (c : PolicyCache) : PolicyCache := { c with apps := [] }

-- ---------------------------------------------------------------------------
-- Statistics
-- ---------------------------------------------------------------------------

/-- Number of policies in all entries. -/
def policyCount (c : PolicyCache) : Nat :=
  c.apps.foldl (fun count entry => count + entry.2.policies.length) 0

end PolicyCache

end QueryGuard
