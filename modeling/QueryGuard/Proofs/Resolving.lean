import QueryGuard.Request.Accumulation

/-!
# Runs of resolutions

`Runs` says that a computation succeeds, with which result and in which state it
ends. For every function that resolves, judges or accumulates there is one lemma
that says when it runs; no proof about judging opens the functions themselves.
-/

namespace QueryGuard

section
variable {σ α β : Type} {m : ExceptT PolicyError (StateM σ) α}
  {f : α → ExceptT PolicyError (StateM σ) β} {s s' : σ} {a : α} {b : β}

/-- The computation succeeds, and takes one state to the other. -/
def Runs (m : ExceptT PolicyError (StateM σ) α) (s : σ) (a : α) (s' : σ) : Prop :=
  m.run.run s = (.ok a, s')

@[simp] theorem runs_pure {own : α} :
    Runs (pure own : ExceptT PolicyError (StateM σ) α) s a s' ↔ a = own ∧ s' = s := by
  change ((Except.ok own, s) : Except PolicyError α × σ) = _ ↔ _
  rw [Prod.mk.injEq, Except.ok.injEq, eq_comm, eq_comm (b := s')]

@[simp] theorem runs_throw {e : PolicyError} :
    Runs (throw e : ExceptT PolicyError (StateM σ) α) s a s' ↔ False := by
  change ((Except.error e, s) : Except PolicyError α × σ) = _ ↔ _
  simp

theorem run_bind (m : ExceptT PolicyError (StateM σ) α)
    (f : α → ExceptT PolicyError (StateM σ) β) (s : σ) :
    (m >>= f).run.run s = match m.run.run s with
      | (.ok a, next) => (f a).run.run next
      | (.error e, next) => (.error e, next) := by
  unfold ExceptT.run StateT.run
  simp only [bind, ExceptT.bind, ExceptT.mk, StateT.bind, ExceptT.bindCont]
  cases m s with
  | mk result next => cases result <;> rfl

theorem runs_bind :
    Runs (m >>= f) s b s' ↔ ∃ a next, Runs m s a next ∧ Runs (f a) next b s' := by
  unfold Runs
  rw [run_bind]
  constructor
  · intro h
    cases hm : m.run.run s with
    | mk result next =>
      rw [hm] at h
      cases result with
      | ok a => exact ⟨a, next, rfl, h⟩
      | error e => cases h
  · rintro ⟨a, next, hm, h⟩
    rw [hm]
    exact h

theorem runs_map {g : α → β} : Runs (g <$> m) s b s' ↔ ∃ a, Runs m s a s' ∧ b = g a := by
  rw [map_eq_pure_bind, runs_bind]
  simp

theorem runs_get_bind {f : σ → ExceptT PolicyError (StateM σ) β} :
    Runs (get >>= f) s b s' ↔ Runs (f s) s b s' := Iff.rfl

theorem runs_set_bind {next : σ} {f : PUnit → ExceptT PolicyError (StateM σ) β} :
    Runs (set next >>= f) s b s' ↔ Runs (f ⟨⟩) next b s' := Iff.rfl

theorem runs_modify_bind {change : σ → σ} {f : PUnit → ExceptT PolicyError (StateM σ) β} :
    Runs (modify change >>= f) s b s' ↔ Runs (f ⟨⟩) (change s) b s' := Iff.rfl

end

-- ---------------------------------------------------------------------------
-- References
-- ---------------------------------------------------------------------------

namespace Resolution

section
variable {directory : Directory} {app expression : String} {s s' : Session} {id : Json}

theorem personId_runs : Runs (personId directory app) s id s' ↔
    s.env.personId? = some id ∧ s' = s ∨
    s.env.personId? = none ∧ ∃ user person, s.env.userId? = some user ∧
      directory app user = .ok (some person) ∧ id = .string person.id ∧
      s' = ⟨s.env.put Environment.personKey (.string person.id), s.lookups + 1⟩ := by
  rw [personId, runs_get_bind]
  cases hid : s.env.personId? with
  | some known => simp [eq_comm]
  | none =>
    cases huser : s.env.userId? with
    | none => simp
    | some user =>
      simp only [runs_set_bind]
      cases hd : directory app user with
      | error e => simp [hd]
      | ok found =>
        cases found with
        | none => simp [hd]
        | some person =>
          simp only [runs_modify_bind, runs_pure]
          simp [hd]

theorem ofText_runs {found : Option Json} : Runs (ofText directory app expression) s found s' ↔
    match (Environment.reference? expression).map s.env.lookup? with
    | none => found = some (.string expression) ∧ s' = s
    | some none => found = none ∧ s' = s
    | some (some value) =>
      if Environment.isSentinel value then
        ∃ id, Runs (personId directory app) s id s' ∧ found = some id
      else found = some value ∧ s' = s := by
  unfold ofText
  cases Environment.reference? expression with
  | none => exact runs_pure
  | some path =>
    simp only [runs_get_bind, Option.map_some]
    cases hv : s.env.lookup? path with
    | none => exact runs_pure
    | some value =>
      by_cases hs : Environment.isSentinel value = true
      · simp only [hs, if_true, runs_map]
      · simp [hs]

/-- What a text is resolved to, and how: it stands for itself, or its path leads
nowhere, to a value, or to the sentinel. -/
inductive Yields (directory : Directory) (app expression : String) (s : Session) :
    Option Json → Session → Prop where
  | literal (path : Environment.reference? expression = none) :
      Yields directory app expression s (some (.string expression)) s
  | missing {path : String} (reference : Environment.reference? expression = some path)
      (looked : s.env.lookup? path = none) : Yields directory app expression s none s
  | value {path : String} {value : Json} (reference : Environment.reference? expression = some path)
      (looked : s.env.lookup? path = some value) (plain : Environment.isSentinel value = false) :
      Yields directory app expression s (some value) s
  | personal {path : String} {value id : Json} {s' : Session}
      (reference : Environment.reference? expression = some path)
      (looked : s.env.lookup? path = some value) (sentinel : Environment.isSentinel value = true)
      (person : Runs (personId directory app) s id s') :
      Yields directory app expression s (some id) s'

theorem ofText_yields {found : Option Json} :
    Runs (ofText directory app expression) s found s' ↔ Yields directory app expression s found s' := by
  rw [ofText_runs]
  constructor
  · intro h
    cases hpath : Environment.reference? expression with
    | none =>
      rw [hpath] at h
      obtain ⟨rfl, rfl⟩ := h
      exact .literal hpath
    | some path =>
      rw [hpath, Option.map_some] at h
      cases hv : s.env.lookup? path with
      | none =>
        rw [hv] at h
        obtain ⟨rfl, rfl⟩ := h
        exact .missing hpath hv
      | some value =>
        simp only [hv] at h
        split at h
        next hs =>
          obtain ⟨id, hid, rfl⟩ := h
          exact .personal hpath hv hs hid
        next hs =>
          obtain ⟨rfl, rfl⟩ := h
          exact .value hpath hv (Bool.of_not_eq_true hs)
  · rintro (hpath | ⟨hpath, hv⟩ | ⟨hpath, hv, hs⟩ | ⟨hpath, hv, hs, hid⟩)
    · simp [hpath]
    · simp [hpath, hv]
    · simp [hpath, hv, hs]
    · simpa [hpath, hv, hs] using hid

theorem ofReference_runs {mode : UnresolvedMode} {value : Json} :
    Runs (ofReference mode directory app expression) s value s' ↔
      ∃ found, Runs (ofText directory app expression) s found s' ∧ value = found.getD .null ∧
        (found = none → mode = .null) := by
  constructor
  · intro h
    obtain ⟨found, next, hfound, h⟩ := runs_bind.mp h
    cases found with
    | some own =>
      obtain ⟨rfl, rfl⟩ := runs_pure.mp h
      exact ⟨_, hfound, rfl, nofun⟩
    | none =>
      cases mode with
      | null =>
        obtain ⟨rfl, rfl⟩ := runs_pure.mp h
        exact ⟨_, hfound, rfl, fun _ => rfl⟩
      | reject => cases runs_throw.mp h
  · rintro ⟨found, hfound, rfl, hmode⟩
    refine runs_bind.mpr ⟨found, s', hfound, ?_⟩
    cases found with
    | some own => exact runs_pure.mpr ⟨rfl, rfl⟩
    | none =>
      obtain rfl := hmode rfl
      exact runs_pure.mpr ⟨rfl, rfl⟩

end

end Resolution

-- ---------------------------------------------------------------------------
-- Judging
-- ---------------------------------------------------------------------------

/-- The session once bindings are layered over its environment. -/
def Session.layered (s : Session) (bindings : Bindings) : Session :=
  { s with env := s.env.bind bindings }

namespace Bench

section
variable {b : Bench} {p p' : Proceedings}

theorem resolving_runs {α : Type} {m : Resolution α} {a : α} :
    Runs (resolving m) p a p' ↔ Runs m p.session a p'.session ∧ p'.rulings = p.rulings := by
  obtain ⟨session, rulings⟩ := p'
  have hresult : Runs m p.session a session ↔ (.ok a, session) = m.run.run p.session := eq_comm
  rw [resolving, runs_get_bind, hresult]
  cases m.run.run p.session with
  | mk result next =>
    simp only [runs_set_bind]
    cases result with
    | error e => simp
    | ok value => simp [and_assoc]

theorem resolving_layer_runs_bind {β : Type} {bindings : Bindings} {f : Unit → Judging β} {a : β} :
    Runs (resolving (Resolution.layer bindings) >>= f) p a p' ↔
      Runs (f ()) { p with session := p.session.layered bindings } a p' := Iff.rfl

theorem layer_runs_bind {β : Type} {bindings : Bindings} {f : Unit → Resolution β}
    {s s' : Session} {a : β} : Runs (Resolution.layer bindings >>= f) s a s' ↔
      Runs (f ()) (s.layered bindings) a s' := Iff.rfl

theorem verdict_applies_runs {rule : QueryRule} {fragment : Option Query} {s s' : Session} :
    Runs (b.verdict rule) s (.applies fragment) s' ↔ ∃ next,
      Runs (Resolution.allHold b.directory b.app rule.conditions) (s.layered rule.env) true next ∧
      match rule.query.lower? with
      | .error _ => False
      | .ok none => fragment = none ∧ s' = next
      | .ok (some lowered) => ∃ substituted, Runs (Resolution.substitute b.config.unresolved
          b.directory b.app lowered.pruned) next substituted s' ∧ fragment = some substituted := by
  rw [verdict, layer_runs_bind, runs_bind, exists_comm]
  refine exists_congr fun next => ?_
  rw [Bool.exists_bool]
  simp only [Bool.false_eq_true, if_false, if_true, runs_pure, reduceCtorEq, false_and, and_false,
    false_or]
  refine and_congr_right fun _ => ?_
  cases rule.query.lower? with
  | error source => simp
  | ok lowered =>
    cases lowered with
    | none => simp
    | some lowered => simp [runs_map]

theorem verdict_unmet_runs {rule : QueryRule} {s s' : Session} :
    Runs (b.verdict rule) s .unmet s' ↔
      Runs (Resolution.allHold b.directory b.app rule.conditions) (s.layered rule.env) false s' := by
  rw [verdict, layer_runs_bind, runs_bind, exists_comm]
  simp only [Bool.exists_bool, Bool.false_eq_true, if_false, if_true, runs_pure, true_and]
  cases rule.query.lower? with
  | error source => simp
  | ok lowered => cases lowered <;> simp [runs_map]

theorem verdict_faulty_runs {rule : QueryRule} {source : LoweringError} {s s' : Session} :
    Runs (b.verdict rule) s (.faulty source) s' ↔
      Runs (Resolution.allHold b.directory b.app rule.conditions) (s.layered rule.env) true s' ∧
        rule.query.lower? = .error source := by
  rw [verdict, layer_runs_bind, runs_bind, exists_comm]
  simp only [Bool.exists_bool, Bool.false_eq_true, if_false, if_true, runs_pure, reduceCtorEq,
    false_and, and_false, false_or]
  cases rule.query.lower? with
  | error own =>
    simp only [runs_pure, Verdict.faulty.injEq, Except.error.injEq]
    constructor
    · rintro ⟨next, hholds, rfl, rfl⟩
      exact ⟨hholds, rfl⟩
    · rintro ⟨hholds, rfl⟩
      exact ⟨s', hholds, rfl, rfl⟩
  | ok lowered => cases lowered <;> simp [runs_map]

theorem rule_runs {policy : String} {index : Nat} {rule : QueryRule} {v : Verdict} :
    Runs (b.rule policy index rule) p v p' ↔ Runs (b.verdict rule) p.session v p'.session ∧
      p'.rulings = p.rulings ++ [⟨policy, index, rule.projection, v⟩] ∧
      (b.config.ruleErrors = .abort → v.failure? = none) := by
  have hrecorded : ∀ v' next, Runs (do
      modify fun p => { p with rulings := p.rulings ++ [⟨policy, index, rule.projection, v'⟩] }
      return v') next v p' ↔ v = v' ∧ p'.session = next.session ∧
        p'.rulings = next.rulings ++ [⟨policy, index, rule.projection, v'⟩] := by
    intro v' next
    obtain ⟨session, rulings⟩ := p'
    rw [runs_modify_bind, runs_pure, Proceedings.mk.injEq]
  rw [Bench.rule, runs_bind]
  calc
    _ ↔ ∃ v' next, Runs (resolving (b.verdict rule)) p v' next ∧ (v = v' ∧
          p'.session = next.session ∧
          p'.rulings = next.rulings ++ [⟨policy, index, rule.projection, v'⟩]) ∧
        (b.config.ruleErrors = .abort → v'.failure? = none) := by
      refine exists_congr fun v' => exists_congr fun next => and_congr_right fun _ => ?_
      cases v' with
      | faulty source =>
        cases b.config.ruleErrors with
        | abort => simp [Verdict.failure?]
        | skip =>
          refine (hrecorded _ _).trans (and_iff_left fun hmode => ?_).symm
          cases hmode
      | _ => exact (hrecorded _ _).trans (and_iff_left fun _ => rfl).symm
    _ ↔ _ := by
      constructor
      · rintro ⟨v', next, hv, ⟨rfl, hsession, hp⟩, habort⟩
        obtain ⟨hv, hrulings⟩ := resolving_runs.mp hv
        exact ⟨hsession ▸ hv, by rw [hp, hrulings], habort⟩
      · rintro ⟨hv, hp, habort⟩
        exact ⟨v, ⟨p'.session, p.rulings⟩, resolving_runs.mpr ⟨hv, rfl⟩, ⟨rfl, rfl, hp⟩, habort⟩

theorem rules_cons_runs {policy : String} {index : Nat} {rule : QueryRule} {rest : List QueryRule}
    {vs : List Verdict} : Runs (b.rules policy index (rule :: rest)) p vs p' ↔
      ∃ v next, Runs (b.rule policy index rule) p v next ∧
        ∃ others, Runs (b.rules policy (index + 1) rest) next others p' ∧ vs = v :: others := by
  rw [rules, runs_bind]
  simp only [runs_bind, runs_pure]
  refine exists_congr fun v => exists_congr fun next => and_congr_right fun _ => ?_
  refine exists_congr fun others => ?_
  simp

theorem policy_runs {policy : MatchedPolicy} {u : Unit} : Runs (b.policy policy) p u p' ↔
    ∃ vs, Runs (b.rules policy.name 0 policy.rules)
        { p with session := p.session.layered policy.env } vs p' ∧
      Verdict.fault? vs = none := by
  rw [Bench.policy, resolving_layer_runs_bind, runs_bind]
  refine exists_congr fun vs => ?_
  cases Verdict.fault? vs <;> simp

theorem policies_cons_runs {policy : MatchedPolicy} {rest : List MatchedPolicy} {u : Unit} :
    Runs (b.policies (policy :: rest)) p u p' ↔
      ∃ next, Runs (b.policy policy) p () next ∧ Runs (b.policies rest) next () p' := by
  change Runs (b.policy policy >>= fun _ => b.policies rest) p () p' ↔ _
  rw [runs_bind]
  constructor
  · rintro ⟨_, h⟩
    exact h
  · intro h
    exact ⟨(), h⟩

end

end Bench

theorem RequestContext.accumulate_eq_ok_iff {ctx : RequestContext} {config : Config}
    {directory : Directory} {policies : List MatchedPolicy} {report : Report} :
    (ctx.accumulate config directory policies).result = .ok report ↔ ∃ p,
      Runs (Bench.policies ⟨config, directory, ctx.app⟩ policies)
        ⟨⟨Environment.forUser ctx.userId?, 0⟩, []⟩ () p ∧ report = Ruling.report p.rulings := by
  unfold accumulate Runs
  dsimp only
  cases ((Bench.policies ⟨config, directory, ctx.app⟩ policies).run.run
      ⟨⟨Environment.forUser ctx.userId?, 0⟩, []⟩) with
  | mk result p =>
    cases result with
    | error e =>
      constructor
      · intro h
        cases h
      · rintro ⟨_, h, -⟩
        cases h
    | ok value =>
      constructor
      · rintro ⟨⟩
        exact ⟨p, rfl, rfl⟩
      · rintro ⟨_, ⟨⟩, rfl⟩
        rfl

theorem RequestContext.accumulate_of_runs {ctx : RequestContext} {config : Config}
    {directory : Directory} {policies : List MatchedPolicy} {p : Proceedings}
    (h : Runs (Bench.policies ⟨config, directory, ctx.app⟩ policies)
      ⟨⟨Environment.forUser ctx.userId?, 0⟩, []⟩ () p) :
    ctx.accumulate config directory policies =
      ⟨.ok (Ruling.report p.rulings), ctx.gather p.rulings, p.session.lookups⟩ := by
  have h : (Bench.policies ⟨config, directory, ctx.app⟩ policies).run.run
      ⟨⟨Environment.forUser ctx.userId?, 0⟩, []⟩ = (.ok (), p) := h
  simp only [accumulate, h]
  rfl

theorem RequestContext.accumulate_context {ctx : RequestContext} {config : Config}
    {directory : Directory} {policies : List MatchedPolicy} {p : Proceedings}
    (h : Runs (Bench.policies ⟨config, directory, ctx.app⟩ policies)
      ⟨⟨Environment.forUser ctx.userId?, 0⟩, []⟩ () p) :
    (ctx.accumulate config directory policies).context = ctx.gather p.rulings := by
  rw [accumulate_of_runs h]

-- ---------------------------------------------------------------------------
-- The directory of an app
-- ---------------------------------------------------------------------------

/-! Only what the directory says about the users of the app is looked at. -/

section
variable {directory other : Directory} {app : String}

namespace Resolution

theorem personId_congr (h : directory app = other app) :
    personId directory app = personId other app := by
  unfold personId
  rw [h]

theorem ofText_congr (h : directory app = other app) (expression : String) :
    ofText directory app expression = ofText other app expression := by
  unfold ofText
  rw [personId_congr h]

theorem ofValue_congr (h : directory app = other app) (value : Json) :
    ofValue directory app value = ofValue other app value := by
  cases value with
  | string expression => exact ofText_congr h expression
  | _ => rfl

theorem holds_congr (h : directory app = other app) (c : Condition) :
    c.holds directory app = c.holds other app := by
  unfold Condition.holds
  rw [ofValue_congr h, ofValue_congr h]

theorem allHold_congr (h : directory app = other app) (conditions : List Condition) :
    allHold directory app conditions = allHold other app conditions := by
  induction conditions with
  | nil => rfl
  | cons condition rest ih => rw [allHold, allHold, holds_congr h, ih]

theorem ofReferences_congr (h : directory app = other app) (mode : UnresolvedMode)
    (references : List String) :
    ofReferences mode directory app references = ofReferences mode other app references := by
  induction references with
  | nil => rfl
  | cons reference rest ih =>
    rw [ofReferences, ofReferences, ih, ofReference, ofReference, ofText_congr h]

end Resolution

namespace Bench

variable {config : Config}

theorem verdict_congr (h : directory app = other app) (rule : QueryRule) :
    verdict ⟨config, directory, app⟩ rule = verdict ⟨config, other, app⟩ rule := by
  unfold verdict Resolution.substitute
  dsimp only
  rw [Resolution.allHold_congr h]
  simp only [Resolution.ofReferences_congr h]

theorem rules_congr (h : directory app = other app) (policy : String) (index : Nat)
    (rules : List QueryRule) : Bench.rules ⟨config, directory, app⟩ policy index rules =
      Bench.rules ⟨config, other, app⟩ policy index rules := by
  induction rules generalizing index with
  | nil => rfl
  | cons rule rest ih => rw [Bench.rules, Bench.rules, ih, Bench.rule, Bench.rule, verdict_congr h]

theorem policies_congr (h : directory app = other app) (policies : List MatchedPolicy) :
    Bench.policies ⟨config, directory, app⟩ policies =
      Bench.policies ⟨config, other, app⟩ policies := by
  have hpolicy : Bench.policy ⟨config, directory, app⟩ = Bench.policy ⟨config, other, app⟩ := by
    funext policy
    unfold Bench.policy
    rw [rules_congr h]
  rw [Bench.policies, hpolicy, Bench.policies]

end Bench

end

theorem RequestContext.accumulate_congr {directory other : Directory} {ctx : RequestContext}
    (h : directory ctx.app = other ctx.app) (config : Config) (policies : List MatchedPolicy) :
    ctx.accumulate config directory policies = ctx.accumulate config other policies := by
  unfold accumulate
  dsimp only
  rw [Bench.policies_congr h]

end QueryGuard
