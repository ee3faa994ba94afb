import QueryGuard.Proofs.Accounting
import QueryGuard.Proofs.Isolation
import QueryGuard.Proofs.Refusals

/-!
# Admitted policies

A policy is stored only if all its queries can be lowered. What is listed,
cached and matched comes from stored policies, so a request never fails over a
broken rule, and no report has one: `enforceEndpoint_lowers`.
-/

namespace QueryGuard

-- ---------------------------------------------------------------------------
-- Validation
-- ---------------------------------------------------------------------------

/-- The query of the rule can be lowered. -/
def QueryRule.Lowers (rule : QueryRule) : Prop := ∃ lowered, rule.query.lower? = .ok lowered

def MatchedPolicy.Lowers (p : MatchedPolicy) : Prop := ∀ rule ∈ p.rules, rule.Lowers

/-- The policy has passed validation. -/
def Policy.Admitted (p : Policy) : Prop := p.validate = .ok ()

theorem QueryRule.Lowers.ne_error {rule : QueryRule} {source : LoweringError} (h : rule.Lowers) :
    rule.query.lower? ≠ .error source := by
  obtain ⟨lowered, hlowered⟩ := h
  rw [hlowered]
  nofun

namespace RuleSet

variable {index : Nat} {r : RuleSet} {sets : List RuleSet}

theorem lowers_of_validate (h : r.validate index = .ok ()) : r.toQueryRule.Lowers := by
  simp only [validate, bind_ok] at h
  obtain ⟨_, -, _, -, h⟩ := h
  cases hl : r.query.lower? with
  | ok lowered => exact ⟨lowered, hl⟩
  | error source =>
    rw [hl] at h
    cases h

theorem lowers_of_validateFrom (h : validateFrom index sets = .ok ()) :
    ∀ r ∈ sets, r.toQueryRule.Lowers := by
  induction sets generalizing index with
  | nil => nofun
  | cons first rest ih =>
    simp only [validateFrom, bind_ok] at h
    obtain ⟨_, hfirst, hrest⟩ := h
    rintro r (_ | ⟨_, hm⟩)
    · exact lowers_of_validate hfirst
    · exact ih hrest r hm

end RuleSet

namespace Policy

variable {p : Policy} {verb path : String} {matched : MatchedPolicy}

theorem Admitted.config (h : p.Admitted) : RuleSet.validateFrom 0 p.config = .ok () := by
  obtain ⟨-, happ⟩ := unless_ok.mp h
  obtain ⟨-, hpriority⟩ := unless_ok.mp happ
  obtain ⟨-, hsets⟩ := unless_ok.mp hpriority
  exact hsets

theorem Admitted.matchedFor (h : p.Admitted) (hm : p.matchedFor verb path = some matched) :
    matched.Lowers := by
  obtain ⟨-, hm⟩ := Option.ite_none_left_eq_some.mp hm
  split at hm
  · cases hm
  next rules hrules =>
  cases hm
  intro rule hrule
  obtain ⟨r, hr, rfl⟩ := List.mem_map.mp hrule
  exact RuleSet.lowers_of_validateFrom h.config r (List.mem_filter.mp hr).1

theorem validate_identified (p : Policy) (fresh : String) :
    (PolicyStore.identified p fresh).validate = p.validate := by
  unfold PolicyStore.identified
  split <;> rfl

end Policy

-- ---------------------------------------------------------------------------
-- Stores and caches
-- ---------------------------------------------------------------------------

namespace PolicyStore

def Admitted (s : PolicyStore) : Prop := ∀ entry ∈ s.policies, entry.2.Admitted

variable {s : PolicyStore} {p : Policy} {app : String}

theorem Admitted.stored (h : s.Admitted) (hp : p.Admitted) : (s.stored p).Admitted := by
  intro entry hm
  rcases Members.mem_of_mem_put hm with rfl | hm
  · exact hp
  · exact h entry hm

theorem Admitted.without (h : s.Admitted) (id : String) : (s.without id).Admitted :=
  fun entry hm => h entry ((Members.remove_sublist id s.policies).subset hm)

theorem Admitted.listActive (h : s.Admitted) (hm : p ∈ s.listActive app) : p.Admitted := by
  rw [PolicyStore.listActive, List.mem_mergeSort, List.mem_filter] at hm
  obtain ⟨entry, hentry, rfl⟩ := List.mem_map.mp hm.1
  exact h entry hentry

end PolicyStore

/-- The source lists admitted policies only. -/
def PolicySource.Admitted (source : PolicySource) : Prop :=
  ∀ app listed, source app = .ok listed → ∀ p ∈ listed, p.Admitted

theorem PolicyStore.Admitted.source {s : PolicyStore} (h : s.Admitted) :
    (PolicySource.ofStore s).Admitted := by
  rintro app listed ⟨⟩ p hm
  exact h.listActive hm

namespace PolicyCache

def Admitted (c : PolicyCache) : Prop :=
  ∀ entry ∈ c.apps, ∀ p ∈ entry.2.policies, p.Admitted

section
variable {c c' : PolicyCache} {source : PolicySource} {now : Instant} {app verb path : String}
  {listed : List Policy} {result : Except PolicyError (List Policy)}
  {found : Except PolicyError (List MatchedPolicy)}

theorem mem_of_mem_selected {p : Policy} (h : p ∈ selected app listed) : p ∈ listed := by
  rw [selected, List.mem_mergeSort] at h
  exact (List.mem_filter.mp h).1

theorem Admitted.refresh (h : c.Admitted) (hs : source.Admitted) (now : Instant) (app : String) :
    (c.refresh source now app).2.Admitted ∧
      ∀ policies, (c.refresh source now app).1 = .ok policies → ∀ p ∈ policies, p.Admitted := by
  unfold PolicyCache.refresh
  cases hlisted : source app with
  | error e => exact ⟨h, nofun⟩
  | ok listed =>
    have hselected : ∀ p ∈ selected app listed, p.Admitted :=
      fun p hm => hs app listed hlisted p (mem_of_mem_selected hm)
    refine ⟨?_, ?_⟩
    · intro entry hm
      dsimp only at hm
      split at hm
      · rcases Members.mem_of_mem_put hm with rfl | hm
        · exact hselected
        · exact h entry hm
      · exact h entry hm
    · rintro policies ⟨⟩
      exact hselected

theorem Admitted.policiesFor (h : c.Admitted) (hs : source.Admitted)
    (hc : c.policiesFor source now app = some (result, c')) :
    c'.Admitted ∧ ∀ policies, result = .ok policies → ∀ p ∈ policies, p.Admitted := by
  rcases policiesFor_cases hc with hc | ⟨entry, hentry, rfl, rfl⟩
  · have hload := refresh (c := { c with misses := c.misses + 1 }) h hs now app
    rwa [hc] at hload
  · refine ⟨h, ?_⟩
    rintro policies ⟨⟩
    exact h _ (Members.mem_of_get? hentry)

theorem Admitted.matchedPolicies (h : c.Admitted) (hs : source.Admitted)
    (hc : c.matchedPolicies source now app verb path = some (found, c')) :
    c'.Admitted ∧ ∀ policies, found = .ok policies → ∀ p ∈ policies, p.Lowers := by
  obtain ⟨⟨result, c''⟩, hfor, he⟩ := Option.map_eq_some_iff.mp hc
  obtain ⟨rfl, rfl⟩ := Prod.mk.inj he
  obtain ⟨hcache, hadmitted⟩ := h.policiesFor hs hfor
  refine ⟨hcache, fun policies hpolicies p hm => ?_⟩
  cases result with
  | error e => cases hpolicies
  | ok served =>
    cases hpolicies
    obtain ⟨own, hown, hmatched⟩ := List.mem_filterMap.mp hm
    exact (hadmitted served rfl own hown).matchedFor hmatched

theorem matchedPolicies_error {e : PolicyError}
    (hc : c.matchedPolicies source now app verb path = some (.error e, c')) :
    ∃ cause, e = .storage cause := by
  obtain ⟨⟨result, c''⟩, hfor, he⟩ := Option.map_eq_some_iff.mp hc
  cases result with
  | ok policies => cases he
  | error own =>
    cases he
    rcases policiesFor_cases hfor with hload | ⟨entry, -, ⟨⟩, -⟩
    unfold PolicyCache.refresh at hload
    cases hlisted : source app with
    | error cause =>
      rw [hlisted] at hload
      cases hload
      exact ⟨cause, rfl⟩
    | ok listed =>
      rw [hlisted] at hload
      cases hload

theorem Admitted.invalidate (h : c.Admitted) (app : String) : (c.invalidate app).Admitted :=
  fun entry hm => h entry ((Members.remove_sublist app c.apps).subset hm)

end

end PolicyCache

-- ---------------------------------------------------------------------------
-- Enforcing
-- ---------------------------------------------------------------------------

namespace RequestContext

variable {ctx : RequestContext} {config : Config} {directory : Directory}
  {policies : List MatchedPolicy}

theorem accumulate_skipped {report : Report}
    (h : (ctx.accumulate config directory policies).result = .ok report)
    {policy : String} {index : Nat} {source : LoweringError}
    (hm : (policy, index, .loweringFailed source) ∈ report.skipped) :
    ∃ p ∈ policies, ∃ rule ∈ p.rules, rule.query.lower? = .error source := by
  obtain ⟨htried, hheard, rfl⟩ := accumulate_trials h
  obtain ⟨ruling, hruling, hskipped⟩ := List.mem_filterMap.mp hm
  obtain ⟨t, ht, hruling⟩ := List.mem_flatMap.mp hruling
  obtain ⟨hearing, hhearing, rfl⟩ := List.mem_map.mp hruling
  have hfaulty : hearing.ruling.verdict = .faulty source := by
    unfold Ruling.skipped? at hskipped
    cases hv : hearing.ruling.verdict with
    | unmet => simp [hv] at hskipped
    | applies fragment => simp [hv] at hskipped
    | faulty own =>
      rw [hv] at hskipped
      cases hskipped
      rfl
  obtain ⟨n, m, hjust⟩ := Bench.just_of_mem_trials ht hhearing
  refine ⟨t.policy, htried ▸ List.mem_map_of_mem ht, hearing.rule, ?_, ?_⟩
  · rw [← hheard t ht]
    exact List.mem_map_of_mem hhearing
  · exact ((hjust.faulty source).mp hfaulty).2

theorem enforce_lowers (h : ∀ p ∈ policies, p.Lowers) :
    (∀ policy source,
        (ctx.enforce config directory policies).result ≠ .error (.lowering policy source)) ∧
      ∀ e, (ctx.enforce config directory policies).result = .ok e →
        ∀ entry ∈ e.report.skipped, entry.2.2 = .conditionsNotMet := by
  unfold enforce
  dsimp only
  cases haccumulated : (ctx.accumulate config directory policies).result with
  | error e =>
    refine ⟨?_, nofun⟩
    rintro policy source ⟨⟩
    cases accumulate_refusal haccumulated with
    | broken hpolicy hrule hlower => exact (h _ hpolicy _ hrule).ne_error hlower
  | ok report =>
    have hskipped : ∀ entry ∈ report.skipped, entry.2.2 = .conditionsNotMet := by
      rintro ⟨policy, index, reason⟩ hm
      cases reason with
      | conditionsNotMet => rfl
      | loweringFailed source =>
        obtain ⟨p, hp, rule, hrule, hlower⟩ := accumulate_skipped haccumulated hm
        exact absurd hlower (h p hp rule hrule).ne_error
    dsimp only
    split
    next e hmerge =>
      refine ⟨?_, nofun⟩
      rintro policy source ⟨⟩
      obtain ⟨key, ⟨⟩⟩ := merge_refusal hmerge
    · split
      · exact ⟨nofun, nofun⟩
      · refine ⟨nofun, ?_⟩
        rintro e ⟨⟩
        exact hskipped

end RequestContext

-- ---------------------------------------------------------------------------
-- Services
-- ---------------------------------------------------------------------------

/-- A policy with one rule-set, for every endpoint. -/
def Policy.saying (query : Json) : Policy :=
  { Policy.bare "app" "p" with config := [{ RuleSet.blank with query := query }] }

namespace Service

/-- Whatever is stored or cached has passed validation. -/
structure Admitted (s : Service) : Prop where
  policies : s.policies.Admitted
  cache : s.cache.Admitted

section
variable {s s' : Service} {now : Instant} {operation : Operation} {answer : Answer}

theorem admitted_start (config : Config) (ttl : Int) (enabled : Bool) :
    Admitted (start config { PolicyCache.ofTtl ttl with enabled := enabled }) := by
  refine ⟨?_, ?_⟩
  · intro entry hm
    cases hm
  · intro entry hm
    cases hm

theorem Admitted.step (h : s.Admitted) (hstep : s.step s.backing now operation = some (answer, s')) :
    s'.Admitted := by
  have hsource : s.backing.source.Admitted := h.policies.source
  cases operation with
  | upsert fresh p =>
    obtain ⟨_, hs⟩ := step_upsert s s.backing now fresh p
    rw [hs] at hstep
    cases hstep
    split
    next hvalid =>
      refine ⟨h.policies.stored ?_, h.cache⟩
      rw [Policy.Admitted, Policy.validate_identified]
      cases hv : p.validate with
      | ok u => rfl
      | error e => simp [hv, Except.isOk, Except.toBool] at hvalid
    · exact h
  | delete id =>
    obtain ⟨_, hs⟩ := step_delete s s.backing now id
    rw [hs] at hstep
    cases hstep
    exact ⟨h.policies.without id, h.cache⟩
  | createPerson person =>
    cases hc : s.people.create person with
    | error e =>
      rw [step_createPerson_error hc] at hstep
      cases hstep
      exact h
    | ok people =>
      rw [step_createPerson_ok hc] at hstep
      cases hstep
      exact ⟨h.policies, h.cache⟩
  | get id | list name =>
    cases hstep
    exact h
  | policies name =>
    obtain ⟨⟨result, cache⟩, hfor, he⟩ := Option.map_eq_some_iff.mp hstep
    cases he
    exact ⟨h.policies, (h.cache.policiesFor hsource hfor).1⟩
  | matched name verb path =>
    obtain ⟨⟨result, cache⟩, hfor, he⟩ := Option.map_eq_some_iff.mp hstep
    cases he
    exact ⟨h.policies, (h.cache.matchedPolicies hsource hfor).1⟩
  | refresh name =>
    rw [step_refresh] at hstep
    cases hstep
    exact ⟨h.policies, (h.cache.refresh hsource now name).1⟩
  | invalidate name =>
    cases hstep
    exact ⟨h.policies, h.cache.invalidate name⟩
  | invalidateAll =>
    cases hstep
    exact ⟨h.policies, nofun⟩
  | enforce ctx verb path =>
    obtain ⟨⟨outcome, next⟩, henforced, he⟩ := Option.map_eq_some_iff.mp hstep
    cases he
    obtain ⟨⟨result, cache⟩, hfor, he⟩ := Option.map_eq_some_iff.mp henforced
    cases he
    exact ⟨h.policies, (h.cache.matchedPolicies hsource hfor).1⟩

theorem Admitted.run {operations : List (Instant × Operation)} {answers : List Answer}
    (h : s.Admitted) (hrun : s.run operations = some (answers, s')) : s'.Admitted := by
  induction operations generalizing s answers with
  | nil =>
    cases hrun
    exact h
  | cons entry operations ih =>
    obtain ⟨now, operation⟩ := entry
    obtain ⟨answer, next, rest, hstep, hrest, -⟩ := run_cons.mp hrun
    exact ih (h.step hstep) hrest

/-- Whatever was stored, deleted and cached before: no request fails over a
broken rule, under any configuration, and none reports one. -/
theorem enforceEndpoint_lowers {config : Config} {ttl : Int} {enabled : Bool}
    {operations : List (Instant × Operation)} {answers : List Answer}
    (hrun : (start config { PolicyCache.ofTtl ttl with enabled := enabled }).run operations =
      some (answers, s))
    (engine : Config) (directory : Directory) {ctx : RequestContext} {verb path : String}
    {outcome : Outcome Enforcement}
    (henforced : { s with config := engine }.enforceEndpoint ⟨.ofStore s.policies, directory⟩ now
      ctx verb path = some (outcome, s')) :
    (∀ policy source, outcome.result ≠ .error (.lowering policy source)) ∧
      ∀ e, outcome.result = .ok e → ∀ entry ∈ e.report.skipped, entry.2.2 = .conditionsNotMet := by
  have h : s.Admitted := (admitted_start config ttl enabled).run hrun
  obtain ⟨⟨result, cache⟩, hmatched, he⟩ := Option.map_eq_some_iff.mp henforced
  cases he
  have hlowers := (h.cache.matchedPolicies h.policies.source hmatched).2
  cases result with
  | error e =>
    refine ⟨?_, nofun⟩
    rintro policy source ⟨⟩
    obtain ⟨cause, ⟨⟩⟩ := PolicyCache.matchedPolicies_error hmatched
  | ok policies => exact RequestContext.enforce_lowers (hlowers policies rfl)

end

/-- A broken policy is refused, a valid one is stored and cached, and it is deleted
while it is still cached. -/
def withdrawn : List (Instant × Operation) :=
  [(0, .upsert "" (.saying (.object [("tags", .array [.string "a"])]))),
    (0, .upsert "" (.saying (.object [("owner", .null)]))), (0, .policies "app"),
    (2, .delete "p")]

/-- Only the cache has the policy any more. -/
def bereft : Service :=
  ⟨.default, .empty, .empty,
    ⟨[("app", ⟨[.saying (.object [("owner", .null)])], 0⟩)], 10, true, 0, 1, 1⟩⟩

theorem enforceEndpoint_lowers_withdrawn :
    ∃ answers outcome s', (start .default (.ofTtl 10)).run withdrawn = some (answers, bereft) ∧
      { bereft with config := ⟨.reject, .abort, .reject, .default⟩ }.enforceEndpoint
        ⟨.ofStore .empty, .ofStore .empty⟩ 3 (.ofApp "app") "GET" "/" = some (outcome, s') ∧
      (∃ e, outcome.result = .ok e ∧ e.report.applied = [("p", 0)] ∧
        ∀ entry ∈ e.report.skipped, entry.2.2 = .conditionsNotMet) ∧
      ∀ policy source, outcome.result ≠ .error (.lowering policy source) := by
  have hrun : ∃ answers, (start .default (.ofTtl 10)).run withdrawn = some (answers, bereft) := by
    have hrest : (start .default (.ofTtl 10)).run (withdrawn.drop 1) =
        some ([.policy (some (.saying (.object [("owner", .null)]))),
          .policies [.saying (.object [("owner", .null)])], .done], bereft) := by
      cbv
    exact ⟨_, run_cons.mpr ⟨_, start .default (.ofTtl 10), _, rfl, hrest, rfl⟩⟩
  have henforced : ∃ outcome s',
      { bereft with config := ⟨.reject, .abort, .reject, .default⟩ }.enforceEndpoint
        ⟨.ofStore .empty, .ofStore .empty⟩ 3 (.ofApp "app") "GET" "/" = some (outcome, s') ∧
      ∃ e, outcome.result = .ok e ∧ e.report.applied = [("p", 0)] :=
    ⟨_, _, rfl, _, rfl, rfl⟩
  obtain ⟨answers, hrun⟩ := hrun
  obtain ⟨outcome, s', henforced, e, hresult, happlied⟩ := henforced
  obtain ⟨hnever, hskipped⟩ := enforceEndpoint_lowers hrun ⟨.reject, .abort, .reject, .default⟩
    (.ofStore .empty) henforced
  exact ⟨answers, outcome, s', hrun, henforced, ⟨e, hresult, happlied, hskipped e hresult⟩, hnever⟩

end Service

end QueryGuard
