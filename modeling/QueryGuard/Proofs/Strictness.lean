import QueryGuard.Proofs.Refusals
import QueryGuard.Proofs.Skipped
import QueryGuard.Request.Enforcement

/-!
# Stricter settings

A stricter configuration refuses more, and that is all. What runs under it runs
under the laxer one in the same way, reference by reference and rule by rule
(`JudgesStricter.policies`), and `enforce_stricter` says so of requests.
-/

namespace QueryGuard

/-- The settings that rules are judged by are the same or stricter. -/
structure Config.JudgesStricter (strict config : Config) : Prop where
  ruleErrors : strict.ruleErrors = config.ruleErrors ∨ strict.ruleErrors = .abort
  unresolved : strict.unresolved = config.unresolved ∨ strict.unresolved = .reject

/-- Every setting is the same or stricter. How policies are cached makes no
difference to a request. -/
structure Config.Stricter (strict config : Config) : Prop
    extends strict.JudgesStricter config where
  conflictMode : strict.conflictMode = config.conflictMode ∨ strict.conflictMode = .reject

-- ---------------------------------------------------------------------------
-- References
-- ---------------------------------------------------------------------------

namespace Resolution

section
variable {strict mode : UnresolvedMode} {directory : Directory} {app reference : String}
  {references : List String} {s s' : Session}

theorem ofReference_stricter {value : Json} (h : strict = mode ∨ strict = .reject)
    (hruns : Runs (ofReference strict directory app reference) s value s') :
    Runs (ofReference mode directory app reference) s value s' := by
  rcases h with rfl | rfl
  · exact hruns
  · obtain ⟨found, next, hfound, hruns⟩ := runs_bind.mp hruns
    cases found with
    | none => cases runs_throw.mp hruns
    | some found => exact runs_bind.mpr ⟨some found, next, hfound, hruns⟩

theorem ofReferences_stricter {values : Members Json} (h : strict = mode ∨ strict = .reject)
    (hruns : Runs (ofReferences strict directory app references) s values s') :
    Runs (ofReferences mode directory app references) s values s' := by
  induction references generalizing s s' values with
  | nil => exact hruns
  | cons reference rest ih =>
    obtain ⟨value, next, hvalue, hruns⟩ := runs_bind.mp hruns
    obtain ⟨others, last, hothers, hruns⟩ := runs_bind.mp hruns
    exact runs_bind.mpr ⟨value, next, ofReference_stricter h hvalue,
      runs_bind.mpr ⟨others, last, ih hothers, hruns⟩⟩

theorem substitute_stricter {q substituted : Query} (h : strict = mode ∨ strict = .reject)
    (hruns : Runs (substitute strict directory app q) s substituted s') :
    Runs (substitute mode directory app q) s substituted s' := by
  obtain ⟨values, next, hvalues, hruns⟩ := runs_bind.mp hruns
  exact runs_bind.mpr ⟨values, next, ofReferences_stricter h hvalues, hruns⟩

end

end Resolution

-- ---------------------------------------------------------------------------
-- Judging
-- ---------------------------------------------------------------------------

namespace Config.JudgesStricter

section
variable {strict config : Config} {directory : Directory} {app : String} {p p' : Proceedings}

theorem verdict {rule : QueryRule} {v : Verdict} {s s' : Session} (h : strict.JudgesStricter config)
    (hruns : Runs (Bench.verdict ⟨strict, directory, app⟩ rule) s v s') :
    Runs (Bench.verdict ⟨config, directory, app⟩ rule) s v s' := by
  cases v with
  | unmet =>
    have hunmet := Bench.verdict_unmet_runs.mp hruns
    exact Bench.verdict_unmet_runs.mpr hunmet
  | faulty source =>
    have hfaulty := Bench.verdict_faulty_runs.mp hruns
    exact Bench.verdict_faulty_runs.mpr hfaulty
  | applies fragment =>
    obtain ⟨next, hmet, hlowered⟩ := Bench.verdict_applies_runs.mp hruns
    refine Bench.verdict_applies_runs.mpr ⟨next, hmet, ?_⟩
    split at hlowered
    · exact hlowered
    · exact hlowered
    · obtain ⟨substituted, hsubstituted, hfragment⟩ := hlowered
      exact ⟨substituted, Resolution.substitute_stricter h.unresolved hsubstituted, hfragment⟩

theorem rule {policy : String} {index : Nat} {rule : QueryRule} {v : Verdict}
    (h : strict.JudgesStricter config)
    (hruns : Runs (Bench.rule ⟨strict, directory, app⟩ policy index rule) p v p') :
    Runs (Bench.rule ⟨config, directory, app⟩ policy index rule) p v p' := by
  obtain ⟨hverdict, hrulings, habort⟩ := Bench.rule_runs.mp hruns
  refine Bench.rule_runs.mpr ⟨h.verdict hverdict, hrulings, fun hmode => habort ?_⟩
  rcases h.ruleErrors with hsame | hstrict
  · exact hsame.trans hmode
  · exact hstrict

theorem rules {policy : String} {index : Nat} {rules : List QueryRule} {vs : List Verdict}
    (h : strict.JudgesStricter config)
    (hruns : Runs (Bench.rules ⟨strict, directory, app⟩ policy index rules) p vs p') :
    Runs (Bench.rules ⟨config, directory, app⟩ policy index rules) p vs p' := by
  induction rules generalizing index p vs with
  | nil => exact hruns
  | cons rule rest ih =>
    obtain ⟨v, next, hrule, others, hrest, hvs⟩ := Bench.rules_cons_runs.mp hruns
    exact Bench.rules_cons_runs.mpr ⟨v, next, h.rule hrule, others, ih hrest, hvs⟩

theorem policy {policy : MatchedPolicy} (h : strict.JudgesStricter config)
    (hruns : Runs (Bench.policy ⟨strict, directory, app⟩ policy) p () p') :
    Runs (Bench.policy ⟨config, directory, app⟩ policy) p () p' := by
  obtain ⟨vs, hrules, hfault⟩ := Bench.policy_runs.mp hruns
  exact Bench.policy_runs.mpr ⟨vs, h.rules hrules, hfault⟩

theorem policies {policies : List MatchedPolicy} (h : strict.JudgesStricter config)
    (hruns : Runs (Bench.policies ⟨strict, directory, app⟩ policies) p () p') :
    Runs (Bench.policies ⟨config, directory, app⟩ policies) p () p' := by
  induction policies generalizing p with
  | nil =>
    obtain ⟨-, rfl⟩ := runs_pure.mp hruns
    exact runs_pure.mpr ⟨rfl, rfl⟩
  | cons first rest ih =>
    obtain ⟨next, hfirst, hrest⟩ := Bench.policies_cons_runs.mp hruns
    exact Bench.policies_cons_runs.mpr ⟨next, h.policy hfirst, ih hrest⟩

end

end Config.JudgesStricter

-- ---------------------------------------------------------------------------
-- Requests
-- ---------------------------------------------------------------------------

namespace RequestContext

section
variable {ctx : RequestContext} {strict config : Config} {directory : Directory}
  {policies : List MatchedPolicy}

theorem accumulate_stricter {report : Report} (h : strict.JudgesStricter config)
    (hok : (ctx.accumulate strict directory policies).result = .ok report) :
    ctx.accumulate config directory policies = ctx.accumulate strict directory policies := by
  obtain ⟨p, hruns, -⟩ := accumulate_eq_ok_iff.mp hok
  rw [accumulate_of_runs hruns, accumulate_of_runs (h.policies hruns)]

/-- Once policies have been accumulated and merged under some configuration, only
conflicts can be in the way under one that judges no stricter. -/
theorem enforce_of_merge {report : Report} {outcome : MergeOutcome} {merged : RequestContext}
    (h : strict.JudgesStricter config)
    (hok : (ctx.accumulate strict directory policies).result = .ok report)
    (hmerge : (ctx.accumulate strict directory policies).context.merge = .ok (outcome, merged)) :
    ctx.enforce config directory policies =
      if outcome.hasConflicts && config.conflictMode == .reject then
        ⟨.error (.conflict outcome.conflicts), { merged with query := ctx.query },
          (ctx.accumulate strict directory policies).lookups⟩
      else ⟨.ok ⟨report, outcome⟩, merged, (ctx.accumulate strict directory policies).lookups⟩ := by
  unfold enforce
  rw [accumulate_stricter h hok]
  simp only [hok, hmerge]

theorem exists_merge_of_enforce
    (h : (∃ e, (ctx.enforce config directory policies).result = .ok e) ∨
      ∃ conflicts, (ctx.enforce config directory policies).result = .error (.conflict conflicts)) :
    ∃ report outcome merged, (ctx.accumulate config directory policies).result = .ok report ∧
      (ctx.accumulate config directory policies).context.merge = .ok (outcome, merged) := by
  unfold enforce at h
  dsimp only at h
  cases haccumulated : (ctx.accumulate config directory policies).result with
  | error e =>
    rw [haccumulated] at h
    rcases h with ⟨_, ⟨⟩⟩ | ⟨conflicts, ⟨⟩⟩
    -- What stops an accumulation is no conflict.
    cases accumulate_refusal haccumulated
  | ok report =>
    rw [haccumulated] at h
    cases hmerge : (ctx.accumulate config directory policies).context.merge with
    | error e =>
      rw [hmerge] at h
      rcases h with ⟨_, ⟨⟩⟩ | ⟨conflicts, ⟨⟩⟩
      obtain ⟨key, ⟨⟩⟩ := merge_refusal hmerge
    | ok found => exact ⟨report, found.1, found.2, rfl, rfl⟩

theorem enforce_modes
    (h : (∃ e, (ctx.enforce { config with conflictMode := .report } directory policies).result =
        .ok e) ∨
      ∃ conflicts, (ctx.enforce { config with conflictMode := .reject } directory policies).result =
        .error (.conflict conflicts)) :
    ∃ report outcome merged lookups,
      ctx.enforce { config with conflictMode := .report } directory policies =
        ⟨.ok ⟨report, outcome⟩, merged, lookups⟩ ∧
      ctx.enforce { config with conflictMode := .reject } directory policies =
        if outcome.hasConflicts then
          ⟨.error (.conflict outcome.conflicts), { merged with query := ctx.query }, lookups⟩
        else ⟨.ok ⟨report, outcome⟩, merged, lookups⟩ := by
  have hmerged : ∃ mode report outcome merged,
      (ctx.accumulate { config with conflictMode := mode } directory policies).result =
        .ok report ∧
      (ctx.accumulate { config with conflictMode := mode } directory policies).context.merge =
        .ok (outcome, merged) := by
    rcases h with hreported | hrefused
    · exact ⟨.report, exists_merge_of_enforce (.inl hreported)⟩
    · exact ⟨.reject, exists_merge_of_enforce (.inr hrefused)⟩
  obtain ⟨mode, report, outcome, merged, hok, hmerge⟩ := hmerged
  have hjudges : ∀ other, Config.JudgesStricter { config with conflictMode := mode }
      { config with conflictMode := other } := fun _ => ⟨.inl rfl, .inl rfl⟩
  have hreporting := enforce_of_merge (hjudges .report) hok hmerge
  have hrefusing := enforce_of_merge (hjudges .reject) hok hmerge
  refine ⟨report, outcome, merged,
    (ctx.accumulate { config with conflictMode := mode } directory policies).lookups, ?_, ?_⟩
  · simpa using hreporting
  · simpa using hrefusing

theorem enforce_of_stricter {e : Enforcement} (h : strict.Stricter config)
    (henforced : (ctx.enforce strict directory policies).result = .ok e) :
    ctx.enforce config directory policies = ctx.enforce strict directory policies := by
  obtain ⟨report, outcome, merged, hok, hmerge⟩ := exists_merge_of_enforce (.inl ⟨e, henforced⟩)
  have hjudges : strict.JudgesStricter strict := ⟨.inl rfl, .inl rfl⟩
  have hstrict := enforce_of_merge hjudges hok hmerge
  have hconfig := enforce_of_merge h.toJudgesStricter hok hmerge
  rw [hstrict] at henforced
  split at henforced
  · cases henforced
  next hpassed =>
  rw [hstrict, hconfig, if_neg hpassed, if_neg]
  intro hrefused
  obtain ⟨hconflicts, hmode⟩ := Bool.and_eq_true_iff.mp hrefused
  have hreject : strict.conflictMode = .reject :=
    h.conflictMode.elim (fun hsame => hsame.trans (beq_iff_eq.mp hmode)) id
  exact hpassed (by simp [hconflicts, hreject])

theorem enforce_refuses_iff {conflicts : List Conflict} :
    (ctx.enforce { config with conflictMode := .reject } directory policies).result =
        .error (.conflict conflicts) ↔
      conflicts ≠ [] ∧ ∃ e,
        (ctx.enforce { config with conflictMode := .report } directory policies).result = .ok e ∧
        e.outcome.conflicts = conflicts := by
  constructor
  · intro hrefused
    obtain ⟨report, outcome, merged, lookups, hreporting, hrefusing⟩ :=
      enforce_modes (.inr ⟨conflicts, hrefused⟩)
    rw [hrefusing] at hrefused
    rw [hreporting]
    split at hrefused
    next hconflicts =>
      cases hrefused
      refine ⟨?_, _, rfl, rfl⟩
      simpa [MergeOutcome.hasConflicts] using hconflicts
    · cases hrefused
  · rintro ⟨hne, e, hreported, rfl⟩
    obtain ⟨report, outcome, merged, lookups, hreporting, hrefusing⟩ :=
      enforce_modes (.inl ⟨e, hreported⟩)
    rw [hreporting] at hreported
    cases hreported
    have hconflicts : outcome.hasConflicts = true := by
      simpa [MergeOutcome.hasConflicts] using hne
    rw [hrefusing, if_pos hconflicts]

theorem enforce_refuses_context {conflicts : List Conflict}
    (hrefused : (ctx.enforce { config with conflictMode := .reject } directory policies).result =
      .error (.conflict conflicts)) :
    (ctx.enforce { config with conflictMode := .reject } directory policies).context =
      { (ctx.enforce { config with conflictMode := .report } directory policies).context with
        query := ctx.query } := by
  obtain ⟨report, outcome, merged, lookups, hreporting, hrefusing⟩ :=
    enforce_modes (.inr ⟨conflicts, hrefused⟩)
  rw [hrefusing] at hrefused ⊢
  rw [hreporting]
  split at hrefused
  next hconflicts => rw [if_pos hconflicts]
  · cases hrefused

/-- A request that is enforced under the stricter configuration is enforced
alike under the other, and between the two conflict modes all the difference is
that conflicts are refused instead of reported. -/
theorem enforce_stricter (ctx : RequestContext) (directory : Directory)
    (policies : List MatchedPolicy) :
    (∀ strict config : Config, strict.Stricter config →
      ∀ e, (ctx.enforce strict directory policies).result = .ok e →
        ctx.enforce config directory policies = ctx.enforce strict directory policies) ∧
    ∀ config : Config,
      let refusing := ctx.enforce { config with conflictMode := .reject } directory policies
      let reporting := ctx.enforce { config with conflictMode := .report } directory policies
      ∀ conflicts, (refusing.result = .error (.conflict conflicts) ↔ conflicts ≠ [] ∧
          ∃ e, reporting.result = .ok e ∧ e.outcome.conflicts = conflicts) ∧
        (refusing.result = .error (.conflict conflicts) →
          refusing.context = { reporting.context with query := ctx.query }) := by
  constructor
  · intro strict config h e henforced
    exact enforce_of_stricter h henforced
  · intro config refusing reporting conflicts
    exact ⟨enforce_refuses_iff, enforce_refuses_context⟩

end

/-- A request for what is one's own is enforced alike under the strictest and the
laxest settings; one for what is somebody else's is refused, or would be reported. -/
theorem enforce_stricter_personal :
    let ctx := { RequestContext.ofApp "app" with user := some (.ofId "u-1") }
    let other := { ctx with query := some (Query.ofField "owner" (.string "p-2")) }
    let strictest : Config := ⟨.reject, .abort, .reject, .default⟩
    let laxest : Config := ⟨.report, .skip, .null, .default⟩
    let directory := Directory.ofStore ⟨[.linked]⟩
    let policies : List MatchedPolicy := [⟨"p", [], [.personal]⟩]
    strictest.Stricter laxest ∧
      (∃ e, (ctx.enforce strictest directory policies).result = .ok e) ∧
      ctx.enforce laxest directory policies = ctx.enforce strictest directory policies ∧
      (∃ e, (other.enforce laxest directory policies).result = .ok e ∧ e.outcome.conflicts ≠ [] ∧
        (other.enforce { laxest with conflictMode := .reject } directory policies).result =
          .error (.conflict e.outcome.conflicts)) ∧
      (other.enforce { laxest with conflictMode := .reject } directory policies).context =
        { (other.enforce { laxest with conflictMode := .report } directory policies).context with
          query := other.query } := by
  intro ctx other strictest laxest directory policies
  have hstricter : strictest.Stricter laxest := ⟨⟨.inr rfl, .inr rfl⟩, .inr rfl⟩
  have henforced : (ctx.enforce strictest directory policies).result =
      .ok ⟨⟨[("p", 0)], []⟩, .passThrough⟩ := by
    rfl
  have hreported : (other.enforce laxest directory policies).result =
      .ok ⟨⟨[("p", 0)], []⟩,
        .merged [⟨"owner", .topLevel, .literal (.string "p-2"), .literal (.string "p-1"), true⟩]⟩ := by
    cbv
  have hsame := (enforce_stricter ctx directory policies).1 strictest laxest hstricter _ henforced
  obtain ⟨hrefused, hleft⟩ := (enforce_stricter other directory policies).2 laxest _
  have hrefused := hrefused.mpr ⟨List.cons_ne_nil _ _, _, hreported, rfl⟩
  exact ⟨hstricter, ⟨_, henforced⟩, hsame, ⟨_, hreported, List.cons_ne_nil _ _, hrefused⟩,
    hleft hrefused⟩

end RequestContext

end QueryGuard
