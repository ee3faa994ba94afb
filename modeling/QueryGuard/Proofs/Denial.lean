import QueryGuard.Proofs.Interruption

/-!
# Denied requests

Whatever makes enforcing policies give up, the client is told that access is denied:
a directory that is out of reach, a reference that leads nowhere and a rule that is
broken are no failures of the server. Conflicts are told where merging has reported
some, and nowhere else (`enforce_denies`).
-/

namespace QueryGuard

theorem Refusal.denies {b : Bench} {policies : List MatchedPolicy} {e : PolicyError}
    (h : Refusal b policies e) : e.status = 403 ∧ e.isClientError = true := by
  cases h <;> exact ⟨rfl, rfl⟩

theorem PolicyError.conflicts?_eq_some_iff {e : PolicyError} {conflicts : List Conflict} :
    e.conflicts? = some conflicts ↔ e = .conflict conflicts := by
  cases e <;> simp [PolicyError.conflicts?]

namespace RequestContext

/-- The policies can be accumulated, merging them reports conflicts, and requests
with conflicts are to be refused. -/
structure Contested (ctx : RequestContext) (config : Config) (directory : Directory)
    (policies : List MatchedPolicy) (conflicts : List Conflict) : Prop where
  refuses : config.conflictMode = .reject
  nonempty : conflicts ≠ []
  merges : ∃ report outcome merged,
    (ctx.accumulate config directory policies).result = .ok report ∧
      (ctx.accumulate config directory policies).context.merge = .ok (outcome, merged) ∧
      outcome.conflicts = conflicts

section
variable {ctx : RequestContext} {config : Config} {directory : Directory}
  {policies heard : List MatchedPolicy} {rulings : List Ruling} {e : PolicyError}
  {conflicts : List Conflict}

theorem enforce_conflict_iff :
    (ctx.enforce config directory policies).result = .error (.conflict conflicts) ↔
      ctx.Contested config directory policies conflicts := by
  have hjudges : config.JudgesStricter config := ⟨.inl rfl, .inl rfl⟩
  constructor
  · intro h
    obtain ⟨report, outcome, merged, hok, hmerge⟩ := exists_merge_of_enforce (.inr ⟨conflicts, h⟩)
    rw [enforce_of_merge hjudges hok hmerge] at h
    split at h
    next hrefused =>
      obtain ⟨hconflicts, hmode⟩ := Bool.and_eq_true_iff.mp hrefused
      cases h
      refine ⟨beq_iff_eq.mp hmode, ?_, report, outcome, merged, hok, hmerge, rfl⟩
      simpa [MergeOutcome.hasConflicts] using hconflicts
    · cases h
  · rintro ⟨hmode, hne, report, outcome, merged, hok, hmerge, rfl⟩
    rw [enforce_of_merge hjudges hok hmerge, if_pos]
    simp [MergeOutcome.hasConflicts, hmode, hne]

theorem Refused.denies (h : ctx.Refused config directory policies heard rulings e) :
    e.status = 403 ∧ e.isClientError = true := by
  cases h with
  | judging h =>
    obtain ⟨hresult, -⟩ := accumulate_refused_iff.mpr ⟨heard, rulings, h, rfl⟩
    exact (accumulate_refusal hresult).denies
  | merging hruns hmerge =>
    obtain ⟨key, rfl⟩ := merge_refusal hmerge
    exact ⟨rfl, rfl⟩
  | conflicting hruns hmerge hconflicts hmode => exact ⟨rfl, rfl⟩

/-- A refused request is forbidden, and the client is at fault. It is told of
conflicts exactly if merging has reported them, and of those. -/
theorem enforce_denies (h : (ctx.enforce config directory policies).result = .error e) :
    e.status = 403 ∧ e.isClientError = true ∧ e.isServerError = false ∧
      ∀ conflicts, e.conflicts? = some conflicts ↔
        ctx.Contested config directory policies conflicts := by
  obtain ⟨heard, rulings, hrefused⟩ := refused_of_enforce h
  obtain ⟨hstatus, hclient⟩ := hrefused.denies
  refine ⟨hstatus, hclient, by rw [PolicyError.isServerError, hclient, Bool.not_true], ?_⟩
  intro conflicts
  rw [PolicyError.conflicts?_eq_some_iff, ← enforce_conflict_iff, h, Except.error.injEq]

end

theorem enforce_denies_outage :
    let ctx := { RequestContext.ofApp "app" with user := some (.ofId "u-1") }
    let directory : Directory := fun _ _ => .error (.connection "down")
    let policies : List MatchedPolicy := [⟨"p", [], [.personal]⟩]
    let e : PolicyError := .environmentResolution "app" "u-1" "Connection error: down"
    (ctx.enforce .default directory policies).result = .error e ∧ e.status = 403 ∧
      e.isServerError = false ∧
      ∀ conflicts, ¬ctx.Contested .default directory policies conflicts := by
  intro ctx directory policies e
  have hresult : (ctx.enforce .default directory policies).result = .error e := by rfl
  obtain ⟨hstatus, -, hserver, hconflicts⟩ := enforce_denies hresult
  refine ⟨hresult, hstatus, hserver, fun conflicts h => ?_⟩
  cases (hconflicts conflicts).mpr h

end RequestContext

end QueryGuard
