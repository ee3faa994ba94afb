import QueryGuard.Proofs.Inquiry

/-!
# Why judging gives up

`Fails` says that a computation gives up, and for which reason. Accumulating
policies gives up for three reasons only (`Refusal`), and `accumulate_refusal`
says where each of them comes from.
-/

namespace QueryGuard

section
variable {σ α β : Type} {m : ExceptT PolicyError (StateM σ) α}
  {f : α → ExceptT PolicyError (StateM σ) β} {s s' : σ} {e : PolicyError}

/-- The computation gives up, and leaves a state. -/
def Stops (m : ExceptT PolicyError (StateM σ) α) (s : σ) (e : PolicyError) (s' : σ) : Prop :=
  m.run.run s = (.error e, s')

def Fails (m : ExceptT PolicyError (StateM σ) α) (s : σ) (e : PolicyError) : Prop :=
  ∃ s', m.run.run s = (.error e, s')

@[simp] theorem stops_pure {a : α} :
    Stops (pure a : ExceptT PolicyError (StateM σ) α) s e s' ↔ False := by
  constructor
  · intro h
    cases h
  · exact False.elim

@[simp] theorem stops_throw {reason : PolicyError} :
    Stops (throw reason : ExceptT PolicyError (StateM σ) α) s e s' ↔ e = reason ∧ s' = s := by
  constructor
  · intro h
    cases h
    exact ⟨rfl, rfl⟩
  · rintro ⟨rfl, rfl⟩
    rfl

theorem stops_bind :
    Stops (m >>= f) s e s' ↔
      Stops m s e s' ∨ ∃ a next, Runs m s a next ∧ Stops (f a) next e s' := by
  unfold Stops Runs
  rw [run_bind]
  cases m.run.run s with
  | mk result next =>
    cases result with
    | ok a =>
      constructor
      · intro h
        exact .inr ⟨a, next, rfl, h⟩
      · rintro (h | ⟨_, _, h, hf⟩)
        · cases h
        · cases h
          exact hf
    | error reason =>
      constructor
      · intro h
        cases h
        exact .inl rfl
      · rintro (h | ⟨_, _, h, -⟩)
        · cases h
          rfl
        · cases h

@[simp] theorem fails_pure {a : α} :
    Fails (pure a : ExceptT PolicyError (StateM σ) α) s e ↔ False :=
  (exists_congr fun _ => stops_pure).trans (by simp)

@[simp] theorem fails_throw {reason : PolicyError} :
    Fails (throw reason : ExceptT PolicyError (StateM σ) α) s e ↔ e = reason := by
  refine (exists_congr fun _ => stops_throw).trans ?_
  simp

theorem fails_bind :
    Fails (m >>= f) s e ↔ Fails m s e ∨ ∃ a next, Runs m s a next ∧ Fails (f a) next e := by
  refine (exists_congr fun _ => stops_bind).trans ?_
  rw [exists_or]
  refine or_congr Iff.rfl ?_
  rw [exists_comm]
  refine exists_congr fun a => ?_
  rw [exists_comm]
  exact exists_congr fun next => exists_and_left

theorem stops_get_bind {f : σ → ExceptT PolicyError (StateM σ) β} :
    Stops (get >>= f) s e s' ↔ Stops (f s) s e s' := Iff.rfl

theorem stops_set_bind {next : σ} {f : PUnit → ExceptT PolicyError (StateM σ) β} :
    Stops (set next >>= f) s e s' ↔ Stops (f ⟨⟩) next e s' := Iff.rfl

theorem stops_modify_bind {change : σ → σ} {f : PUnit → ExceptT PolicyError (StateM σ) β} :
    Stops (modify change >>= f) s e s' ↔ Stops (f ⟨⟩) (change s) e s' := Iff.rfl

theorem fails_get_bind {f : σ → ExceptT PolicyError (StateM σ) β} :
    Fails (get >>= f) s e ↔ Fails (f s) s e := Iff.rfl

theorem fails_set_bind {next : σ} {f : PUnit → ExceptT PolicyError (StateM σ) β} :
    Fails (set next >>= f) s e ↔ Fails (f ⟨⟩) next e := Iff.rfl

theorem fails_modify_bind {change : σ → σ} {f : PUnit → ExceptT PolicyError (StateM σ) β} :
    Fails (modify change >>= f) s e ↔ Fails (f ⟨⟩) (change s) e := Iff.rfl

end

-- ---------------------------------------------------------------------------
-- Reasons
-- ---------------------------------------------------------------------------

/-- Why accumulating policies gives up: the user's person is not to be had, a
reference leads nowhere, or a rule is broken. -/
inductive Refusal (b : Bench) (policies : List MatchedPolicy) : PolicyError → Prop where
  | unlinked (user message : String) :
      Refusal b policies (.environmentResolution b.app user message)
  | unresolved (reference : String) (h : b.config.unresolved = .reject) :
      Refusal b policies (.unresolvedEnvironment reference)
  | broken {policy : MatchedPolicy} {rule : QueryRule} {source : LoweringError}
      (hpolicy : policy ∈ policies) (hrule : rule ∈ policy.rules)
      (h : rule.query.lower? = .error source) :
      Refusal b policies (.lowering policy.name source)

theorem Refusal.mono {b : Bench} {policies others : List MatchedPolicy} {e : PolicyError}
    (h : Refusal b policies e) (hsub : policies ⊆ others) : Refusal b others e := by
  cases h with
  | unlinked user message => exact .unlinked user message
  | unresolved reference h => exact .unresolved reference h
  | broken hpolicy hrule h => exact .broken (hsub hpolicy) hrule h

-- ---------------------------------------------------------------------------
-- Questions
-- ---------------------------------------------------------------------------

section
variable {directory : Directory} {app expression : String} {s : Session} {e : PolicyError}

theorem Resolution.personId_fails (h : Fails (personId directory app) s e) :
    ∃ user message, e = .environmentResolution app user message := by
  rw [personId, fails_get_bind] at h
  cases hid : s.env.personId? with
  | some known => simp [hid] at h
  | none =>
    cases huser : s.env.userId? with
    | none =>
      simp only [hid, huser, fails_throw] at h
      exact ⟨_, _, h⟩
    | some user =>
      simp only [hid, huser, fails_set_bind] at h
      cases hd : directory app user with
      | error cause =>
        simp only [hd, fails_throw] at h
        exact ⟨_, _, h⟩
      | ok found =>
        cases found with
        | none =>
          simp only [hd, fails_throw] at h
          exact ⟨_, _, h⟩
        | some person => simp only [hd, fails_modify_bind, fails_pure] at h

theorem Resolution.ofText_fails (h : Fails (ofText directory app expression) s e) :
    ∃ user message, e = .environmentResolution app user message := by
  unfold ofText at h
  cases hpath : Environment.reference? expression with
  | none => simp [hpath] at h
  | some path =>
    simp only [hpath, fails_get_bind] at h
    cases hv : s.env.lookup? path with
    | none => simp [hv] at h
    | some value =>
      by_cases hs : Environment.isSentinel value = true
      · simp only [hv, hs, if_true, map_eq_pure_bind, fails_bind, fails_pure, and_false,
          exists_false, or_false] at h
        exact personId_fails h
      · simp [hv, hs] at h

end

namespace Inquiry

section
variable {α : Type} {directory : Directory} {app : String} {s : Session} {e : PolicyError}
  {reason : PolicyError → Prop} {layers : Bindings → Prop}

theorem run_fails {i : Inquiry α} (hi : i.Only reason layers) (h : Fails (i.run directory app) s e) :
    reason e ∨ ∃ user message, e = .environmentResolution app user message := by
  induction i generalizing s with
  | done value => simp [run] at h
  | refuse own =>
    obtain rfl := fails_throw.mp h
    exact .inl hi
  | layer bindings next ih => exact ih hi.2 h
  | ask expression next ih =>
    rcases fails_bind.mp h with h | ⟨found, next, -, h⟩
    · exact .inr (Resolution.ofText_fails h)
    · exact ih found (hi found) h

end

end Inquiry

-- ---------------------------------------------------------------------------
-- Judging
-- ---------------------------------------------------------------------------

namespace Bench

section
variable {b : Bench} {p : Proceedings} {e : PolicyError}

theorem resolving_stops {α : Type} {m : Resolution α} {p' : Proceedings} :
    Stops (resolving m) p e p' ↔ Stops m p.session e p'.session ∧ p'.rulings = p.rulings := by
  obtain ⟨session, rulings⟩ := p'
  have hresult : Stops m p.session e session ↔ (.error e, session) = m.run.run p.session := eq_comm
  rw [resolving, stops_get_bind, hresult]
  cases m.run.run p.session with
  | mk result next =>
    simp only [stops_set_bind]
    cases result with
    | error reason => simp [and_assoc]
    | ok value => simp

theorem resolving_fails {α : Type} {m : Resolution α} :
    Fails (resolving m) p e ↔ Fails m p.session e := by
  constructor
  · rintro ⟨p', h⟩
    exact ⟨p'.session, (resolving_stops.mp h).1⟩
  · rintro ⟨s', h⟩
    exact ⟨⟨s', p.rulings⟩, resolving_stops.mpr ⟨h, rfl⟩⟩

theorem resolving_layer_stops_bind {β : Type} {bindings : Bindings} {f : Unit → Judging β}
    {p' : Proceedings} : Stops (resolving (Resolution.layer bindings) >>= f) p e p' ↔
      Stops (f ()) { p with session := p.session.layered bindings } e p' := Iff.rfl

theorem resolving_layer_fails_bind {β : Type} {bindings : Bindings} {f : Unit → Judging β} :
    Fails (resolving (Resolution.layer bindings) >>= f) p e ↔
      Fails (f ()) { p with session := p.session.layered bindings } e := Iff.rfl

theorem verdict_fails {rule : QueryRule} {s : Session} (policies : List MatchedPolicy)
    (h : Fails (b.verdict rule) s e) : Refusal b policies e := by
  rw [Inquiry.verdict_eq_run] at h
  have honly : (Inquiry.ofRule b.config.unresolved rule).Only (Refusal b policies) fun _ => True :=
    Inquiry.ofRule_only trivial fun hmode reference => .unresolved reference hmode
  rcases Inquiry.run_fails honly h with h | ⟨user, message, rfl⟩
  · exact h
  · exact .unlinked user message

theorem rule_faulty {policy : String} {index : Nat} {rule : QueryRule} {source : LoweringError}
    {p' : Proceedings} (h : Runs (b.rule policy index rule) p (.faulty source) p') :
    rule.query.lower? = .error source :=
  (verdict_faulty_runs.mp (rule_runs.mp h).1).2

theorem rule_fails {policy : MatchedPolicy} {index : Nat} {rule : QueryRule}
    (hrule : rule ∈ policy.rules) (h : Fails (b.rule policy.name index rule) p e) :
    Refusal b [policy] e := by
  rw [Bench.rule, fails_bind] at h
  rcases h with h | ⟨v, next, hv, h⟩
  · exact verdict_fails _ (resolving_fails.mp h)
  · have hv := (resolving_runs.mp hv).1
    cases v with
    | faulty source =>
      have hlower := (verdict_faulty_runs.mp hv).2
      cases hmode : b.config.ruleErrors with
      | abort =>
        simp only [hmode, fails_throw] at h
        rw [h]
        exact .broken List.mem_cons_self hrule hlower
      | skip => simp only [hmode, fails_modify_bind, fails_pure] at h
    | _ => simp only [fails_modify_bind, fails_pure] at h

theorem rules_fails {policy : MatchedPolicy} {index : Nat} {rules : List QueryRule}
    (hrules : rules ⊆ policy.rules) (h : Fails (b.rules policy.name index rules) p e) :
    Refusal b [policy] e := by
  induction rules generalizing index p with
  | nil => simp [Bench.rules] at h
  | cons rule rest ih =>
    obtain ⟨hrule, hrest⟩ := List.cons_subset.mp hrules
    simp only [Bench.rules, fails_bind, fails_pure, and_false, exists_false, or_false] at h
    rcases h with h | ⟨v, next, -, h⟩
    · exact rule_fails hrule h
    · exact ih hrest h

theorem rules_faulty {policy : String} {index : Nat} {rules : List QueryRule}
    {vs : List Verdict} {source : LoweringError} {p' : Proceedings}
    (h : Runs (b.rules policy index rules) p vs p') (hm : .faulty source ∈ vs) :
    ∃ rule ∈ rules, rule.query.lower? = .error source := by
  induction rules generalizing index p vs with
  | nil =>
    obtain ⟨rfl, -⟩ := runs_pure.mp h
    cases hm
  | cons rule rest ih =>
    obtain ⟨v, next, hrule, others, hrest, rfl⟩ := rules_cons_runs.mp h
    rcases List.mem_cons.mp hm with rfl | hm
    · exact ⟨rule, List.mem_cons_self, rule_faulty hrule⟩
    · obtain ⟨other, hother, hlower⟩ := ih hrest hm
      exact ⟨other, List.mem_cons_of_mem _ hother, hlower⟩

theorem mem_of_fault? {vs : List Verdict} {source : LoweringError}
    (h : Verdict.fault? vs = some source) : .faulty source ∈ vs := by
  obtain ⟨-, hfound⟩ := Option.ite_none_left_eq_some.mp h
  obtain ⟨v, hm, hv⟩ := List.exists_of_findSome?_eq_some hfound
  cases v with
  | faulty own =>
    cases hv
    exact hm
  | _ => cases hv

theorem policy_fails {policy : MatchedPolicy} (h : Fails (b.policy policy) p e) :
    Refusal b [policy] e := by
  rw [Bench.policy, resolving_layer_fails_bind, fails_bind] at h
  rcases h with h | ⟨vs, next, hruns, h⟩
  · exact rules_fails (List.Subset.refl _) h
  · cases hfault : Verdict.fault? vs with
    | none => simp [hfault] at h
    | some source =>
      simp only [hfault, fails_throw] at h
      obtain ⟨rule, hrule, hlower⟩ := rules_faulty hruns (mem_of_fault? hfault)
      rw [h]
      exact .broken List.mem_cons_self hrule hlower

theorem policies_fails {policies : List MatchedPolicy} (h : Fails (b.policies policies) p e) :
    Refusal b policies e := by
  induction policies generalizing p with
  | nil => simp [Bench.policies] at h
  | cons policy rest ih =>
    have h : Fails (b.policy policy >>= fun _ => b.policies rest) p e := h
    rcases fails_bind.mp h with h | ⟨_, next, -, h⟩
    · exact (policy_fails h).mono (by simp)
    · exact (ih h).mono (List.subset_cons_self _ _)

end

end Bench

theorem RequestContext.accumulate_refusal {ctx : RequestContext} {config : Config}
    {directory : Directory} {policies : List MatchedPolicy} {e : PolicyError}
    (h : (ctx.accumulate config directory policies).result = .error e) :
    Refusal ⟨config, directory, ctx.app⟩ policies e := by
  unfold accumulate at h
  dsimp only at h
  cases hrun : ((Bench.policies ⟨config, directory, ctx.app⟩ policies).run.run
      ⟨⟨Environment.forUser ctx.userId?, 0⟩, []⟩) with
  | mk result p =>
    rw [hrun] at h
    cases result with
    | ok value => cases h
    | error own =>
      cases h
      exact Bench.policies_fails ⟨p, hrun⟩

theorem RequestContext.merge_refusal {ctx : RequestContext} {e : PolicyError}
    (h : ctx.merge = .error e) : ∃ key, e = .invalidClause key := by
  unfold merge at h
  cases haccess : ctx.accessQuery with
  | none =>
    rw [haccess] at h
    cases h
  | some access =>
    simp only [haccess] at h
    split at h
    next key hkey =>
      cases h
      exact ⟨key, rfl⟩
    · cases h

end QueryGuard
