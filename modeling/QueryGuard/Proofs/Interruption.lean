import QueryGuard.Proofs.Accounting
import QueryGuard.Proofs.Strictness

/-!
# What a refused request leaves

Judging stops at a rule, or at the end of a policy that contributes nothing
(`Bench.Stopped`). The rules that applied until then have been gathered, and
nothing takes them back; neither does a merge that fails. `enforce_leaves` says
that this is all that a refused request leaves.
-/

namespace QueryGuard

namespace Bench

/-- Judging balks at a rule: a reference of it is not resolved, or it is broken
and broken rules end the run. -/
inductive Balks (b : Bench) (policy : String) (rule : QueryRule) (s : Session) :
    PolicyError → Prop where
  | unresolved {e : PolicyError} {s' : Session} (h : Stops (b.verdict rule) s e s') :
      Balks b policy rule s e
  | broken {source : LoweringError} {s' : Session} (hmode : b.config.ruleErrors = .abort)
      (h : Runs (b.verdict rule) s (.faulty source) s') :
      Balks b policy rule s (.lowering policy source)

/-- Judging policies stops in one of them, at a rule, or once all its rules have
been judged and none applies, but some rule is broken. The policies that were
heard until then are those before it and this one with the rules before that
rule; the rulings are those on their rules. -/
inductive Stopped (b : Bench) (p : Proceedings) (policies : List MatchedPolicy) :
    List MatchedPolicy → List Ruling → PolicyError → Prop where
  | atRule {before after : List MatchedPolicy} {policy : MatchedPolicy} {done rest : List QueryRule}
      {rule : QueryRule} {mid last : Proceedings} {vs : List Verdict} {e : PolicyError}
      (hpolicies : policies = before ++ policy :: after)
      (hrules : policy.rules = done ++ rule :: rest)
      (hbefore : Runs (b.policies before) p () mid)
      (hdone : Runs (b.rules policy.name 0 done)
        { mid with session := mid.session.layered policy.env } vs last)
      (hbalks : b.Balks policy.name rule last.session e) :
      Stopped b p policies (before ++ [{ policy with rules := done }]) last.rulings e
  | atEnd {before after : List MatchedPolicy} {policy : MatchedPolicy}
      {mid last : Proceedings} {vs : List Verdict} {source : LoweringError}
      (hpolicies : policies = before ++ policy :: after)
      (hbefore : Runs (b.policies before) p () mid)
      (hall : Runs (b.rules policy.name 0 policy.rules)
        { mid with session := mid.session.layered policy.env } vs last)
      (hfault : Verdict.fault? vs = some source) :
      Stopped b p policies (before ++ [policy]) last.rulings (.lowering policy.name source)

section
variable {b : Bench} {p p' : Proceedings} {e : PolicyError} {name : String} {index : Nat}
  {rule : QueryRule} {rules : List QueryRule} {policy : MatchedPolicy}
  {policies : List MatchedPolicy} {rulings : List Ruling}

theorem rule_stops : (∃ s', Stops (b.rule name index rule) p e ⟨s', rulings⟩) ↔
    b.Balks name rule p.session e ∧ rulings = p.rulings := by
  simp only [Bench.rule, stops_bind]
  constructor
  · rintro ⟨s', h | ⟨v, next, hv, h⟩⟩
    · obtain ⟨h, hrulings⟩ := resolving_stops.mp h
      exact ⟨.unresolved h, hrulings⟩
    · obtain ⟨hv, hrulings⟩ := resolving_runs.mp hv
      cases v with
      | faulty source =>
        cases hmode : b.config.ruleErrors with
        | abort =>
          simp only [hmode, stops_throw] at h
          obtain ⟨rfl, rfl⟩ := h
          exact ⟨.broken hmode hv, hrulings⟩
        | skip => simp only [hmode, stops_modify_bind, stops_pure] at h
      | _ => simp only [stops_modify_bind, stops_pure] at h
  · rintro ⟨hbalks, rfl⟩
    cases hbalks with
    | unresolved h => exact ⟨_, .inl (resolving_stops.mpr ⟨h, rfl⟩)⟩
    | @broken source s' hmode h =>
      refine ⟨s', .inr ⟨.faulty source, ⟨s', p.rulings⟩, resolving_runs.mpr ⟨h, rfl⟩, ?_⟩⟩
      simp only [hmode, stops_throw, and_self]

theorem rules_stops : (∃ s', Stops (b.rules name index rules) p e ⟨s', rulings⟩) ↔
    ∃ done rule rest vs last, rules = done ++ rule :: rest ∧
      Runs (b.rules name index done) p vs last ∧ b.Balks name rule last.session e ∧
      rulings = last.rulings := by
  induction rules generalizing index p with
  | nil => simp [Bench.rules]
  | cons first others ih =>
    simp only [Bench.rules, stops_bind, stops_pure, and_false, exists_false, or_false]
    constructor
    · rintro ⟨s', hstops | ⟨v, next, hruns, hstops⟩⟩
      · obtain ⟨hbalks, hrulings⟩ := rule_stops.mp ⟨s', hstops⟩
        exact ⟨[], first, others, [], p, rfl, runs_pure.mpr ⟨rfl, rfl⟩, hbalks, hrulings⟩
      · obtain ⟨done, rule, rest, vs, last, rfl, hdone, hbalks⟩ := ih.mp ⟨s', hstops⟩
        exact ⟨first :: done, rule, rest, v :: vs, last, rfl,
          rules_cons_runs.mpr ⟨v, next, hruns, vs, hdone, rfl⟩, hbalks⟩
    · rintro ⟨_ | ⟨head, done⟩, rule, rest, vs, last, hrules, hdone, hbalks, hrulings⟩
      · obtain ⟨rfl, rfl⟩ := List.cons.inj hrules
        obtain ⟨-, rfl⟩ := runs_pure.mp hdone
        obtain ⟨s', hstops⟩ := rule_stops.mpr ⟨hbalks, hrulings⟩
        exact ⟨s', .inl hstops⟩
      · obtain ⟨rfl, rfl⟩ := List.cons.inj hrules
        obtain ⟨v, next, hruns, vs, hothers, rfl⟩ := rules_cons_runs.mp hdone
        obtain ⟨s', hstops⟩ := ih.mpr ⟨done, rule, rest, vs, last, rfl, hothers, hbalks, hrulings⟩
        exact ⟨s', .inr ⟨v, next, hruns, hstops⟩⟩

theorem policy_stops : (∃ s', Stops (b.policy policy) p e ⟨s', rulings⟩) ↔
    (∃ s', Stops (b.rules policy.name 0 policy.rules)
        { p with session := p.session.layered policy.env } e ⟨s', rulings⟩) ∨
      ∃ vs last source, Runs (b.rules policy.name 0 policy.rules)
          { p with session := p.session.layered policy.env } vs last ∧
        Verdict.fault? vs = some source ∧ e = .lowering policy.name source ∧
        rulings = last.rulings := by
  simp only [Bench.policy, resolving_layer_stops_bind]
  simp only [stops_bind, exists_or]
  refine or_congr Iff.rfl ?_
  constructor
  · rintro ⟨s', vs, last, hruns, hstops⟩
    cases hfault : Verdict.fault? vs with
    | none => simp [hfault] at hstops
    | some source =>
      simp only [hfault, stops_throw] at hstops
      obtain ⟨rfl, rfl⟩ := hstops
      exact ⟨vs, _, source, hruns, hfault, rfl, rfl⟩
  · rintro ⟨vs, last, source, hruns, hfault, rfl, rfl⟩
    refine ⟨last.session, vs, last, hruns, ?_⟩
    simp only [hfault, stops_throw, and_self]

theorem policies_cons_stops : Stops (b.policies (policy :: policies)) p e p' ↔
    Stops (b.policy policy) p e p' ∨
      ∃ next, Runs (b.policy policy) p () next ∧ Stops (b.policies policies) next e p' := by
  change Stops (b.policy policy >>= fun _ => b.policies policies) p e p' ↔ _
  rw [stops_bind]
  refine or_congr Iff.rfl ⟨?_, fun h => ⟨(), h⟩⟩
  rintro ⟨_, h⟩
  exact h

theorem policies_stops : (∃ s', Stops (b.policies policies) p e ⟨s', rulings⟩) ↔
    ∃ before policy after mid, policies = before ++ policy :: after ∧
      Runs (b.policies before) p () mid ∧ ∃ s', Stops (b.policy policy) mid e ⟨s', rulings⟩ := by
  induction policies generalizing p with
  | nil => simp [Bench.policies]
  | cons first others ih =>
    simp only [policies_cons_stops]
    constructor
    · rintro ⟨s', hstops | ⟨next, hruns, hstops⟩⟩
      · exact ⟨[], first, others, p, rfl, runs_pure.mpr ⟨rfl, rfl⟩, s', hstops⟩
      · obtain ⟨before, policy, after, mid, rfl, hbefore, hstops⟩ := ih.mp ⟨s', hstops⟩
        exact ⟨first :: before, policy, after, mid, rfl,
          policies_cons_runs.mpr ⟨next, hruns, hbefore⟩, hstops⟩
    · rintro ⟨_ | ⟨head, before⟩, policy, after, mid, hpolicies, hbefore, hstops⟩
      · obtain ⟨rfl, rfl⟩ := List.cons.inj hpolicies
        obtain ⟨-, rfl⟩ := runs_pure.mp hbefore
        obtain ⟨s', hstops⟩ := hstops
        exact ⟨s', .inl hstops⟩
      · obtain ⟨rfl, rfl⟩ := List.cons.inj hpolicies
        obtain ⟨next, hruns, hothers⟩ := policies_cons_runs.mp hbefore
        obtain ⟨s', hstops⟩ := ih.mpr ⟨before, policy, after, mid, rfl, hothers, hstops⟩
        exact ⟨s', .inr ⟨next, hruns, hstops⟩⟩

theorem stopped_iff : (∃ s', Stops (b.policies policies) p e ⟨s', rulings⟩) ↔
    ∃ heard, b.Stopped p policies heard rulings e := by
  simp only [policies_stops, policy_stops, rules_stops]
  constructor
  · rintro ⟨before, policy, after, mid, hpolicies, hbefore,
      ⟨done, rule, rest, vs, last, hrules, hdone, hbalks, rfl⟩ |
      ⟨vs, last, source, hall, hfault, rfl, rfl⟩⟩
    · exact ⟨_, .atRule hpolicies hrules hbefore hdone hbalks⟩
    · exact ⟨_, .atEnd hpolicies hbefore hall hfault⟩
  · rintro ⟨heard, hstopped⟩
    cases hstopped with
    | atRule hpolicies hrules hbefore hdone hbalks =>
      exact ⟨_, _, _, _, hpolicies, hbefore, .inl ⟨_, _, _, _, _, hrules, hdone, hbalks, rfl⟩⟩
    | atEnd hpolicies hbefore hall hfault =>
      exact ⟨_, _, _, _, hpolicies, hbefore, .inr ⟨_, _, _, hall, hfault, rfl, rfl⟩⟩

-- ---------------------------------------------------------------------------
-- Places
-- ---------------------------------------------------------------------------

theorem rules_places {vs : List Verdict} (h : Runs (b.rules name index rules) p vs p') :
    p'.rulings.map Ruling.place =
      p.rulings.map Ruling.place ++ (rules.zipIdx index).map fun entry => (name, entry.2) := by
  obtain ⟨-, -, hrulings⟩ := hear_of_runs h
  rw [hrulings, List.map_append, List.map_map, ← (hear_accounts h).1]
  rfl

theorem policies_places (h : Runs (b.policies policies) p () p') :
    p'.rulings.map Ruling.place =
      p.rulings.map Ruling.place ++ policies.flatMap MatchedPolicy.places := by
  obtain ⟨-, -, hrulings⟩ := trials_of_runs h
  rw [hrulings, List.map_append, List.map_flatMap, ← (trials_accounts h).1]
  simp only [List.map_map]
  rfl

theorem Stopped.places {heard : List MatchedPolicy}
    (h : b.Stopped p policies heard rulings e) :
    rulings.map Ruling.place = p.rulings.map Ruling.place ++ heard.flatMap MatchedPolicy.places := by
  cases h with
  | atRule hpolicies hrules hbefore hdone hbalks =>
    rw [rules_places hdone, policies_places hbefore, List.append_assoc, List.flatMap_append]
    simp [MatchedPolicy.places]
  | atEnd hpolicies hbefore hall hfault =>
    rw [rules_places hall, policies_places hbefore, List.append_assoc, List.flatMap_append]
    simp [MatchedPolicy.places]

end

end Bench

-- ---------------------------------------------------------------------------
-- Requests
-- ---------------------------------------------------------------------------

namespace RequestContext

/-- Why a request is refused, the policies that were heard until then, and the
rulings on their rules: judging has stopped, or the policies have all been judged
and the merge fails, or it reports conflicts that are to be refused. -/
inductive Refused (ctx : RequestContext) (config : Config) (directory : Directory)
    (policies : List MatchedPolicy) : List MatchedPolicy → List Ruling → PolicyError → Prop where
  | judging {heard : List MatchedPolicy} {rulings : List Ruling} {e : PolicyError}
      (h : Bench.Stopped ⟨config, directory, ctx.app⟩ ⟨⟨Environment.forUser ctx.userId?, 0⟩, []⟩
        policies heard rulings e) :
      Refused ctx config directory policies heard rulings e
  | merging {last : Proceedings} {e : PolicyError}
      (hruns : Runs (Bench.policies ⟨config, directory, ctx.app⟩ policies)
        ⟨⟨Environment.forUser ctx.userId?, 0⟩, []⟩ () last)
      (hmerge : (ctx.gather last.rulings).merge = .error e) :
      Refused ctx config directory policies policies last.rulings e
  | conflicting {last : Proceedings} {outcome : MergeOutcome} {merged : RequestContext}
      (hruns : Runs (Bench.policies ⟨config, directory, ctx.app⟩ policies)
        ⟨⟨Environment.forUser ctx.userId?, 0⟩, []⟩ () last)
      (hmerge : (ctx.gather last.rulings).merge = .ok (outcome, merged))
      (hconflicts : outcome.hasConflicts = true) (hmode : config.conflictMode = .reject) :
      Refused ctx config directory policies policies last.rulings (.conflict outcome.conflicts)

section
variable {ctx merged : RequestContext} {config : Config} {directory : Directory}
  {policies heard : List MatchedPolicy} {rulings : List Ruling} {e : PolicyError}

theorem Refused.places (h : ctx.Refused config directory policies heard rulings e) :
    rulings.map Ruling.place = heard.flatMap MatchedPolicy.places := by
  cases h with
  | judging h => exact h.places
  | merging hruns hmerge => exact Bench.policies_places hruns
  | conflicting hruns hmerge hconflicts hmode => exact Bench.policies_places hruns

theorem gather_frame (ctx : RequestContext) (rulings : List Ruling) :
    ctx.gather rulings = { ctx with
      accessQuery := (ctx.gather rulings).accessQuery
      accessProjection := (ctx.gather rulings).accessProjection } := by
  induction rulings generalizing ctx with
  | nil => rfl
  | cons r rest ih =>
    rw [gather_cons, ih]
    unfold Ruling.contribute
    cases r.verdict <;> rfl

theorem gather_of_not_applied (h : ∀ r ∈ rulings, r.verdict.isApplied = false) :
    ctx.gather rulings = ctx := by
  induction rulings with
  | nil => rfl
  | cons r rest ih =>
    obtain ⟨hr, hrest⟩ := List.forall_mem_cons.mp h
    rw [gather_cons, Bench.contribute_of_not_applied hr]
    exact ih hrest

theorem merge_frame {outcome : MergeOutcome} (h : ctx.merge = .ok (outcome, merged))
    (query : Option Query) : { merged with query := query } = { ctx with query := query } := by
  unfold merge at h
  cases haccess : ctx.accessQuery with
  | none =>
    simp only [haccess] at h
    cases h
    rw [haccess]
  | some access =>
    simp only [haccess] at h
    split at h
    · cases h
    · cases h
      rfl

theorem accumulate_refused_iff {left : RequestContext} :
    ((ctx.accumulate config directory policies).result = .error e ∧
        (ctx.accumulate config directory policies).context = left) ↔
      ∃ heard rulings, Bench.Stopped ⟨config, directory, ctx.app⟩
          ⟨⟨Environment.forUser ctx.userId?, 0⟩, []⟩ policies heard rulings e ∧
        left = ctx.gather rulings := by
  rw [exists_comm]
  simp only [exists_and_right, ← Bench.stopped_iff]
  unfold accumulate Stops
  dsimp only
  cases (Bench.policies ⟨config, directory, ctx.app⟩ policies).run.run
      ⟨⟨Environment.forUser ctx.userId?, 0⟩, []⟩ with
  | mk result p =>
    cases result with
    | ok value =>
      constructor
      · rintro ⟨⟨⟩, -⟩
      · rintro ⟨_, ⟨_, ⟨⟩⟩, -⟩
    | error own =>
      constructor
      · rintro ⟨⟨⟩, rfl⟩
        exact ⟨p.rulings, ⟨p.session, rfl⟩, rfl⟩
      · rintro ⟨_, ⟨_, ⟨⟩⟩, rfl⟩
        exact ⟨rfl, rfl⟩

theorem enforce_of_refused (h : ctx.Refused config directory policies heard rulings e) :
    (ctx.enforce config directory policies).result = .error e ∧
      (ctx.enforce config directory policies).context = ctx.gather rulings := by
  have hquery : ∀ rulings, { ctx.gather rulings with query := ctx.query } = ctx.gather rulings := by
    intro rulings
    rw [gather_frame ctx rulings]
  unfold enforce
  cases h with
  | judging h =>
    obtain ⟨hresult, hcontext⟩ := accumulate_refused_iff.mpr ⟨heard, rulings, h, rfl⟩
    simp only [hresult, true_and]
    exact hcontext
  | merging hruns hmerge =>
    simp only [accumulate_of_runs hruns, hmerge, true_and]
    exact hquery _
  | conflicting hruns hmerge hconflicts hmode =>
    simp only [accumulate_of_runs hruns, hmerge, hconflicts, hmode, beq_self_eq_true,
      Bool.and_self, if_true, true_and]
    exact (merge_frame hmerge _).trans (hquery _)

theorem refused_of_enforce (h : (ctx.enforce config directory policies).result = .error e) :
    ∃ heard rulings, ctx.Refused config directory policies heard rulings e := by
  unfold enforce at h
  cases hresult : (ctx.accumulate config directory policies).result with
  | error own =>
    simp only [hresult] at h
    cases h
    obtain ⟨heard, rulings, hstopped, -⟩ := accumulate_refused_iff.mp ⟨hresult, rfl⟩
    exact ⟨heard, rulings, .judging hstopped⟩
  | ok report =>
    obtain ⟨last, hruns, -⟩ := accumulate_eq_ok_iff.mp hresult
    refine ⟨policies, last.rulings, ?_⟩
    simp only [hresult, accumulate_context hruns] at h
    cases hmerge : (ctx.gather last.rulings).merge with
    | error own =>
      simp only [hmerge] at h
      cases h
      exact .merging hruns hmerge
    | ok found =>
      obtain ⟨outcome, merged⟩ := found
      simp only [hmerge] at h
      split at h
      next hrefused =>
        obtain ⟨hconflicts, hmode⟩ := Bool.and_eq_true_iff.mp hrefused
        cases h
        exact .conflicting hruns hmerge hconflicts (beq_iff_eq.mp hmode)
      · cases h

/-- A refused request is left with what the rules that applied before the refusal
contribute, and is as it was in everything else. So it is left as it was if none
of them applied, and only then, unless policies had been accumulated before. -/
theorem enforce_leaves (h : (ctx.enforce config directory policies).result = .error e) :
    let left := (ctx.enforce config directory policies).context
    ∃ heard rulings, ctx.Refused config directory policies heard rulings e ∧
      rulings.map Ruling.place = heard.flatMap MatchedPolicy.places ∧
      left.query = ctx.query ∧ left.user = ctx.user ∧ left.app = ctx.app ∧
      left = ctx.gather rulings ∧
      ((∀ r ∈ rulings, r.verdict.isApplied = false) → left = ctx) ∧
      (ctx.accessQuery = none → left = ctx → ∀ r ∈ rulings, r.verdict.isApplied = false) := by
  intro left
  obtain ⟨heard, rulings, hrefused⟩ := refused_of_enforce h
  have hleft : left = ctx.gather rulings := (enforce_of_refused hrefused).2
  have hframe := hleft.trans (gather_frame ctx rulings)
  refine ⟨heard, rulings, hrefused, hrefused.places, ?_, ?_, ?_, hleft, ?_, ?_⟩
  · rw [hframe]
  · rw [hframe]
  · rw [hframe]
  · intro hnone
    rw [hleft, gather_of_not_applied hnone]
  · intro hfresh hsame
    have hgathered : (ctx.gather rulings).accessQuery = none := by
      rw [← hleft, hsame, hfresh]
    exact (gather_accessQuery_eq_none.mp hgathered).2

end

theorem enforce_leaves_broken :
    let ctx := { RequestContext.ofApp "app" with
      user := some (.ofId "u-1"), query := some (Query.ofField "title" (.string "x")) }
    let directory := Directory.ofStore ⟨[.linked]⟩
    let policies : List MatchedPolicy :=
      [⟨"p", [], [.personal]⟩, ⟨"q", [], [.ofQuery (.object [("tags", .array [.string "a"])])]⟩]
    let left := ctx.enforce .default directory policies
    left.result = .error (.lowering "q" (.arrayUnderField "tags")) ∧
      left.context.query = ctx.query ∧
      left.context.accessQuery = some (Query.ofField "owner" (.string "p-1")) ∧
      ∃ heard rulings, ctx.Refused .default directory policies heard rulings
          (.lowering "q" (.arrayUnderField "tags")) ∧
        rulings.map Ruling.place = heard.flatMap MatchedPolicy.places ∧
        left.context = ctx.gather rulings := by
  intro ctx directory policies left
  have hresult : left.result = .error (.lowering "q" (.arrayUnderField "tags")) := by rfl
  obtain ⟨heard, rulings, hrefused, hplaces, hquery, -, -, hleft, -⟩ := enforce_leaves hresult
  exact ⟨hresult, hquery, by rfl, heard, rulings, hrefused, hplaces, hleft⟩

/-- A conflict leaves what has been accumulated in a request that had nothing. -/
theorem enforce_leaves_accumulated :
    let ctx := { RequestContext.ofApp "app" with
      query := some (Query.ofField "status" (.string "closed")) }
    let policies : List MatchedPolicy :=
      [⟨"p", [], [.ofQuery (.object [("status", .string "active")])]⟩]
    (ctx.enforce .default (.ofStore .empty) policies).result =
        .error (.conflict [⟨"status", .topLevel, .literal (.string "closed"),
          .literal (.string "active"), true⟩]) ∧
      (ctx.enforce .default (.ofStore .empty) policies).context.accessQuery =
        some (Query.ofField "status" (.string "active")) ∧
      (ctx.enforce .default (.ofStore .empty) policies).context ≠ ctx := by
  intro ctx policies
  have hleft : ctx.enforce .default (.ofStore .empty) policies =
      ⟨.error (.conflict [⟨"status", .topLevel, .literal (.string "closed"),
          .literal (.string "active"), true⟩]),
        { ctx with accessQuery := some (Query.ofField "status" (.string "active")) }, 0⟩ := by
    cbv
  rw [hleft]
  refine ⟨rfl, rfl, fun hsame => ?_⟩
  have hquery := congrArg RequestContext.accessQuery hsame
  cases hquery

end RequestContext

end QueryGuard
