import QueryGuard.Query.Fold
import QueryGuard.Request.Context
import QueryGuard.Request.Substitution

/-!
# Accumulating matched policies

The rules of matched policies are judged one after the other, in one
environment. A rule applies if all its conditions hold and its query can be
lowered; the fragments of the rules that apply are folded into the request's
access-control query, and their projections narrow its projection.
-/

namespace QueryGuard

-- ---------------------------------------------------------------------------
-- Rulings
-- ---------------------------------------------------------------------------

/-- What a rule comes to. -/
inductive Verdict where
  | unmet
  | faulty (source : LoweringError)
  /-- The fragment has values in place of its references. A rule without a
  query applies without one. -/
  | applies (fragment : Option Query)

/-- The verdict on the rule at a place of a policy. -/
structure Ruling where
  policy : String
  index : Nat
  projection : Option Projection
  verdict : Verdict

namespace Verdict

def isApplied : Verdict → Bool
  | .applies _ => true
  | _ => false

def failure? : Verdict → Option LoweringError
  | .faulty source => some source
  | _ => none

/-- The first failure among the verdicts on a policy none of whose rules
applies. -/
def fault? (verdicts : List Verdict) : Option LoweringError :=
  if verdicts.any isApplied then none else verdicts.findSome? failure?

end Verdict

-- ---------------------------------------------------------------------------
-- What rulings say
-- ---------------------------------------------------------------------------

inductive SkipReason where
  | conditionsNotMet
  | loweringFailed (source : LoweringError)
  deriving DecidableEq

/-- Which rules were applied and which were not, by policy and place. -/
structure Report where
  applied : List (String × Nat)
  skipped : List (String × Nat × SkipReason)
  deriving DecidableEq

namespace Report

def isEmpty (r : Report) : Bool := r.applied.isEmpty

end Report

namespace Ruling

def applied? (r : Ruling) : Option (String × Nat) :=
  if r.verdict.isApplied then some (r.policy, r.index) else none

def skipped? (r : Ruling) : Option (String × Nat × SkipReason) :=
  match r.verdict with
  | .unmet => some (r.policy, r.index, .conditionsNotMet)
  | .faulty source => some (r.policy, r.index, .loweringFailed source)
  | .applies _ => none

def report (rulings : List Ruling) : Report :=
  ⟨rulings.filterMap applied?, rulings.filterMap skipped?⟩

/-- Adds what a rule contributes to the request. The first rule that applies
brings the access-control query into being, even if it says nothing. -/
def contribute (r : Ruling) (ctx : RequestContext) : RequestContext :=
  match r.verdict with
  | .applies fragment =>
    let accumulated := ctx.accessQuery.getD Query.empty
    { ctx with
      accessQuery := some (fragment.elim accumulated accumulated.foldAll)
      accessProjection :=
        match r.projection, ctx.accessProjection with
        | none, current => current
        | some own, none => some own
        | some own, some current => some (current.narrow own) }
  | _ => ctx

end Ruling

def RequestContext.gather (ctx : RequestContext) (rulings : List Ruling) : RequestContext :=
  rulings.foldl (fun ctx ruling => ruling.contribute ctx) ctx

-- ---------------------------------------------------------------------------
-- Judging
-- ---------------------------------------------------------------------------

/-- What judging goes by. -/
structure Bench where
  config : Config
  directory : Directory
  app : String

/-- A session and the rulings made in it, in order. -/
structure Proceedings where
  session : Session
  rulings : List Ruling

/-- Judging may fail; the rulings made until then stay. -/
abbrev Judging := ExceptT PolicyError (StateM Proceedings)

namespace Resolution

/-- Layers bindings over the environment. -/
def layer (bindings : Bindings) : Resolution Unit :=
  modify fun session => { session with env := session.env.bind bindings }

/-- Conditions are evaluated up to the first one that does not hold. -/
def allHold (directory : Directory) (app : String) : List Condition → Resolution Bool
  | [] => return true
  | condition :: rest => do
    if ← condition.holds directory app then allHold directory app rest else return false

end Resolution

namespace Bench

/-- Judges a rule: its bindings come first, and empty clauses go before values
are put in. -/
def verdict (b : Bench) (rule : QueryRule) : Resolution Verdict := do
  Resolution.layer rule.env
  if ← Resolution.allHold b.directory b.app rule.conditions then
    match rule.query.lower? with
    | .error source => return .faulty source
    | .ok none => return .applies none
    | .ok (some fragment) =>
      let substituted ←
        Resolution.substitute b.config.unresolved b.directory b.app fragment.pruned
      return .applies (some substituted)
  else return .unmet

/-- Runs a resolution in the session of the proceedings. -/
def resolving {α : Type} (resolution : Resolution α) : Judging α := do
  let proceedings ← get
  let (result, session) := resolution.run.run proceedings.session
  set { proceedings with session := session }
  match result with
  | .ok value => return value
  | .error e => throw e

/-- A rule whose query cannot be lowered ends the run if it is to abort. -/
def rule (b : Bench) (policy : String) (index : Nat) (rule : QueryRule) : Judging Verdict := do
  let verdict ← resolving (b.verdict rule)
  match verdict, b.config.ruleErrors with
  | .faulty source, .abort => throw (.lowering policy source)
  | verdict, _ =>
    modify fun p =>
      { p with rulings := p.rulings ++ [⟨policy, index, rule.projection, verdict⟩] }
    return verdict

/-- Judges the rules of a policy from a place on. -/
def rules (b : Bench) (policy : String) (index : Nat) : List QueryRule → Judging (List Verdict)
  | [] => return []
  | rule :: rest => do
    let verdict ← b.rule policy index rule
    return verdict :: (← b.rules policy (index + 1) rest)

/-- A policy has to contribute something unless its conditions rule that out. -/
def policy (b : Bench) (p : MatchedPolicy) : Judging Unit := do
  resolving (Resolution.layer p.env)
  let verdicts ← b.rules p.name 0 p.rules
  match Verdict.fault? verdicts with
  | some source => throw (.lowering p.name source)
  | none => return

def policies (b : Bench) (ps : List MatchedPolicy) : Judging Unit :=
  ps.forM b.policy

end Bench

-- ---------------------------------------------------------------------------
-- Accumulation
-- ---------------------------------------------------------------------------

/-- A result, the context that it leaves, and how often the directory has been
asked for it. -/
structure Outcome (α : Type) where
  result : Except PolicyError α
  context : RequestContext
  lookups : Nat

/-- Accumulates matched policies, in their order, in a fresh environment. What
applied before a failure has been gathered all the same. -/
def RequestContext.accumulate (ctx : RequestContext) (config : Config) (directory : Directory)
    (policies : List MatchedPolicy) : Outcome Report :=
  let start : Proceedings := ⟨⟨Environment.forUser ctx.userId?, 0⟩, []⟩
  let bench : Bench := ⟨config, directory, ctx.app⟩
  let (result, proceedings) := (bench.policies policies).run.run start
  { result := result.map fun _ => Ruling.report proceedings.rulings
    context := ctx.gather proceedings.rulings
    lookups := proceedings.session.lookups }

end QueryGuard
