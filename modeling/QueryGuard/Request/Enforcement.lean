import QueryGuard.Request.Accumulation

/-!
# Enforcing policies

Matched policies are accumulated and the result is merged into the caller's
query. A request that is refused keeps the caller's query as it was.
-/

namespace QueryGuard

structure Enforcement where
  report : Report
  outcome : MergeOutcome

namespace RequestContext

def enforce (ctx : RequestContext) (config : Config) (directory : Directory)
    (policies : List MatchedPolicy) : Outcome Enforcement :=
  let gathered := ctx.accumulate config directory policies
  let refused (e : PolicyError) (left : RequestContext) : Outcome Enforcement :=
    ⟨.error e, { left with query := ctx.query }, gathered.lookups⟩
  match gathered.result with
  | .error e => ⟨.error e, gathered.context, gathered.lookups⟩
  | .ok report =>
    match gathered.context.merge with
    | .error e => refused e gathered.context
    | .ok (outcome, merged) =>
      if outcome.hasConflicts && config.conflictMode == .reject then
        refused (.conflict outcome.conflicts) merged
      else ⟨.ok ⟨report, outcome⟩, merged, gathered.lookups⟩

end RequestContext

end QueryGuard
