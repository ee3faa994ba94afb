import QueryGuard.Proofs.Refolding

/-!
# Fields that are returned

A narrowed projection allows what both of its sides allow (`allows_narrow`), however
their lists overlap and whatever they repeat. A request starts with every field or
with a projection of its own, so in the end a field is returned if it was before and
every rule that applied allows it (`accumulate_returned_iff`); a rule that was
skipped has no say, whatever its projection.
-/

namespace QueryGuard

-- ---------------------------------------------------------------------------
-- Narrowing
-- ---------------------------------------------------------------------------

namespace Projection

section
variable {p other : Projection} {field : String}

theorem mem_unite {fields others : List String} :
    field ∈ unite fields others ↔ field ∈ fields ∨ field ∈ others := by
  constructor
  · intro h
    induction others generalizing fields with
    | nil => exact .inl h
    | cons first rest ih =>
      rw [unite] at h
      rcases ih h with h | h
      · split at h
        · exact .inl h
        · rcases List.mem_append.mp h with h | h
          · exact .inl h
          · exact .inr (List.mem_cons.mpr (.inl (List.mem_singleton.mp h)))
      · exact .inr (List.mem_cons_of_mem _ h)
  · rintro (h | h)
    · exact subset_unite h
    · exact subset_unite_right h

theorem allows_iff : p.allows field = true ↔
    field ∉ p.excluded ∧ ∀ fields, p.included = some fields → field ∈ fields := by
  simp [allows, Option.all_eq_true]

theorem included_narrow : (∀ fields, (p.narrow other).included = some fields → field ∈ fields) ↔
    (∀ fields, p.included = some fields → field ∈ fields) ∧
      ∀ fields, other.included = some fields → field ∈ fields := by
  unfold narrow
  cases p.included <;> cases other.included <;> simp

theorem allows_narrow (p other : Projection) (field : String) :
    (p.narrow other).allows field = (p.allows field && other.allows field) := by
  have hexcluded : field ∉ (p.narrow other).excluded ↔
      field ∉ p.excluded ∧ field ∉ other.excluded := mem_unite.not.trans not_or
  rw [Bool.eq_iff_iff, Bool.and_eq_true, allows_iff, allows_iff, allows_iff, hexcluded,
    included_narrow]
  exact and_and_and_comm

end

/-- Whether the field is returned; all of them are in absence of a projection. -/
def returned (current : Option Projection) (field : String) : Bool :=
  current.all fun p => p.allows field

theorem returned_narrowing (current : Option Projection) (own : Projection) (field : String) :
    returned (narrowing current own) field = (returned current field && own.allows field) := by
  cases current with
  | none => rfl
  | some p => exact allows_narrow p own field

theorem returned_narrowings (projections : List Projection) (current : Option Projection)
    (field : String) : returned (projections.foldl narrowing current) field = true ↔
      returned current field = true ∧ ∀ own ∈ projections, own.allows field = true := by
  induction projections generalizing current with
  | nil => simp
  | cons first rest ih =>
    rw [List.foldl_cons, ih, returned_narrowing, Bool.and_eq_true, List.forall_mem_cons, and_assoc]

end Projection

-- ---------------------------------------------------------------------------
-- Rules that applied
-- ---------------------------------------------------------------------------

theorem Ruling.projection?_eq_some_iff {r : Ruling} {own : Projection} :
    r.projection? = some own ↔ r.verdict.isApplied = true ∧ r.projection = some own := by
  simp [projection?]

namespace Bench

theorem Hears.projection {b : Bench} {hearing : Hearing} (h : b.Hears hearing) :
    hearing.ruling.projection = hearing.rule.projection := by
  cases h with
  | judged => rfl

theorem report_accounts {b : Bench} {s : Session} {policies : List MatchedPolicy} {p : Proceedings}
    (h : Runs (b.policies policies) ⟨s, []⟩ () p) :
    (Ruling.report p.rulings).Accounts policies p.rulings := by
  obtain ⟨-, -, hrulings⟩ := trials_of_runs h
  obtain ⟨hplaces, -⟩ := trials_accounts h
  have hplaces : p.rulings.map Ruling.place = policies.flatMap MatchedPolicy.places := by
    rw [hrulings, ← hplaces, List.nil_append, List.map_flatMap]
    simp only [List.map_map]
    rfl
  exact ⟨hplaces, Ruling.report_applied _, rfl, hplaces ▸ Ruling.report_perm _⟩

end Bench

/-- Every rule of the policies is heard, and the report says which of them applied.
In the end a field is returned just if it was before and the projections of these
rules, where they have one, all allow it. -/
theorem RequestContext.accumulate_returned_iff {ctx : RequestContext} {config : Config}
    {directory : Directory} {policies : List MatchedPolicy} {report : Report}
    (h : (ctx.accumulate config directory policies).result = .ok report) :
    let trials := ctx.trials config directory policies
    let left := (ctx.accumulate config directory policies).context
    trials.map Trial.policy = policies ∧
      (∀ t ∈ trials, t.hearings.map Hearing.rule = t.policy.rules) ∧
      report.Accounts policies (trials.flatMap fun t => t.hearings.map Hearing.ruling) ∧
      ∀ field, Projection.returned left.accessProjection field = true ↔
        Projection.returned ctx.accessProjection field = true ∧
          ∀ t ∈ trials, ∀ hearing ∈ t.hearings, hearing.ruling.verdict.isApplied = true →
            ∀ own, hearing.rule.projection = some own → own.allows field = true := by
  intro trials left
  obtain ⟨p, hruns, rfl⟩ := accumulate_eq_ok_iff.mp h
  obtain ⟨htried, hheard, hrulings⟩ := Bench.trials_of_runs hruns
  have hrulings : p.rulings = trials.flatMap fun t => t.hearings.map Hearing.ruling := hrulings
  refine ⟨htried, hheard, hrulings ▸ Bench.report_accounts hruns, fun field => ?_⟩
  have hleft : left = ctx.gather p.rulings := accumulate_context hruns
  have happlied : (∀ own ∈ p.rulings.filterMap Ruling.projection?, own.allows field = true) ↔
      ∀ t ∈ trials, ∀ hearing ∈ t.hearings, hearing.ruling.verdict.isApplied = true →
        ∀ own, hearing.rule.projection = some own → own.allows field = true := by
    simp only [hrulings, List.mem_filterMap, List.mem_flatMap, List.mem_map,
      Ruling.projection?_eq_some_iff]
    constructor
    · intro hall t ht hearing hm hv own howned
      refine hall own ⟨hearing.ruling, ⟨t, ht, hearing, hm, rfl⟩, hv, ?_⟩
      rw [(Bench.hears_of_mem_trials ht hm).projection, howned]
    · rintro hall own ⟨_, ⟨t, ht, hearing, hm, rfl⟩, hv, howned⟩
      rw [(Bench.hears_of_mem_trials ht hm).projection] at howned
      exact hall t ht hearing hm hv own howned
  rw [hleft, gather_accessProjection, Projection.returned_narrowings, happlied]

/-- A rule that is not met withholds nothing; those that apply leave a field that
both include and that the request does not exclude. -/
theorem RequestContext.accumulate_returned_iff_layered :
    let policies : List MatchedPolicy := [
      ⟨"p", [], [
        { QueryRule.reserved with projection := some (.without ["name"]) },
        { QueryRule.personal with projection := some (.only ["name", "age", "name"]) },
        { QueryRule.ofQuery .null with projection := some ⟨some ["age", "name"], ["age"]⟩ }]⟩]
    let directory := Directory.ofStore ⟨[.linked]⟩
    let ctx := { RequestContext.ofApp "app" with
      user := some (.ofId "u-1"), accessProjection := some (.without ["secret"]) }
    let trials := ctx.trials .default directory policies
    let left := (ctx.accumulate .default directory policies).context
    (ctx.accumulate .default directory policies).result =
        .ok ⟨[("p", 1), ("p", 2)], [("p", 0, .conditionsNotMet)]⟩ ∧
      left.accessProjection = some ⟨some ["name", "age", "name"], ["secret", "age"]⟩ ∧
      ∀ field, Projection.returned left.accessProjection field = true ↔
        Projection.returned ctx.accessProjection field = true ∧
          ∀ t ∈ trials, ∀ hearing ∈ t.hearings, hearing.ruling.verdict.isApplied = true →
            ∀ own, hearing.rule.projection = some own → own.allows field = true := by
  intro policies directory ctx trials left
  have hresult : (ctx.accumulate .default directory policies).result =
      .ok ⟨[("p", 1), ("p", 2)], [("p", 0, .conditionsNotMet)]⟩ := by
    rfl
  obtain ⟨-, -, -, hreturned⟩ := accumulate_returned_iff hresult
  exact ⟨hresult, by rfl, hreturned⟩

end QueryGuard
