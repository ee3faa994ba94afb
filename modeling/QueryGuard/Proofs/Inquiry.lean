import QueryGuard.Proofs.Resolving

/-!
# Judging as an inquiry

Judging a rule layers bindings, asks what texts resolve to, and goes by the
answers. An `Inquiry` is such a course of questions, apart from the environment
and the directory that they are put to; `verdict_eq_run` says that a rule is
judged by carrying its inquiry out. What holds of every single question is then
proved of all judging by one induction.
-/

namespace QueryGuard

inductive Inquiry (α : Type) where
  | done (value : α)
  | refuse (e : PolicyError)
  | layer (bindings : Bindings) (next : Inquiry α)
  | ask (expression : String) (next : Option Json → Inquiry α)

namespace Inquiry

section
variable {α β : Type}

def andThen : Inquiry α → (α → Inquiry β) → Inquiry β
  | .done value, f => f value
  | .refuse e, _ => .refuse e
  | .layer bindings next, f => .layer bindings (next.andThen f)
  | .ask expression next, f => .ask expression fun found => (next found).andThen f

/-- Puts the questions to a directory, for the users of an app. -/
def run (directory : Directory) (app : String) : Inquiry α → Resolution α
  | .done value => return value
  | .refuse e => throw e
  | .layer bindings next => do
    Resolution.layer bindings
    next.run directory app
  | .ask expression next => do
    let found ← Resolution.ofText directory app expression
    (next found).run directory app

/-- No question makes a difference to what is kept. -/
def AsksKeep (directory : Directory) (app : String) (keeps : Session → Prop) : Prop :=
  ∀ {expression s found s'}, Runs (Resolution.ofText directory app expression) s found s' →
    keeps s → keeps s'

/-- Whatever the answers, it is refused for such reasons and layers such bindings
only. -/
def Only (reason : PolicyError → Prop) (layers : Bindings → Prop) : Inquiry α → Prop
  | .done _ => True
  | .refuse e => reason e
  | .layer bindings next => layers bindings ∧ next.Only reason layers
  | .ask _ next => ∀ found, (next found).Only reason layers

end

-- ---------------------------------------------------------------------------
-- The inquiry into a rule
-- ---------------------------------------------------------------------------

def ofValue : Json → Inquiry (Option Json)
  | .string expression => .ask expression .done
  | value => .done (some value)

def ofCondition (c : Condition) : Inquiry Bool :=
  (ofValue c.lhs).andThen fun lhs => (ofValue c.rhs).andThen fun rhs =>
    .done (Comparison.evaluateKey (lhs.getD .null) (rhs.getD .null) c.operator)

def ofConditions : List Condition → Inquiry Bool
  | [] => .done true
  | condition :: rest => (ofCondition condition).andThen fun holds =>
    if holds then ofConditions rest else .done false

def ofReference (mode : UnresolvedMode) (reference : String) : Inquiry Json :=
  .ask reference fun found =>
    match found, mode with
    | some value, _ => .done value
    | none, .null => .done .null
    | none, .reject => .refuse (.unresolvedEnvironment reference)

def ofReferences (mode : UnresolvedMode) : List String → Inquiry (Members Json)
  | [] => .done []
  | reference :: rest => (ofReference mode reference).andThen fun value =>
    (ofReferences mode rest).andThen fun values => .done ((reference, value) :: values)

/-- What a rule comes to once its conditions hold. -/
def ofQuery (mode : UnresolvedMode) (query : Json) : Inquiry Verdict :=
  match query.lower? with
  | .error source => .done (.faulty source)
  | .ok none => .done (.applies none)
  | .ok (some fragment) => (ofReferences mode fragment.pruned.references).andThen fun values =>
    .done (.applies (some (fragment.pruned.mapLiterals (Json.replace values))))

def ofRule (mode : UnresolvedMode) (rule : QueryRule) : Inquiry Verdict :=
  .layer rule.env <| (ofConditions rule.conditions).andThen fun met =>
    if met then ofQuery mode rule.query else .done .unmet

/-- The rulings on the rules of a policy, from a place on. -/
def ofRules (config : Config) (policy : String) (index : Nat) :
    List QueryRule → Inquiry (List Ruling)
  | [] => .done []
  | rule :: rest => (ofRule config.unresolved rule).andThen fun verdict =>
    match verdict, config.ruleErrors with
    | .faulty source, .abort => .refuse (.lowering policy source)
    | verdict, _ => (ofRules config policy (index + 1) rest).andThen fun rulings =>
      .done (⟨policy, index, rule.projection, verdict⟩ :: rulings)

def ofPolicy (config : Config) (p : MatchedPolicy) : Inquiry (List Ruling) :=
  .layer p.env <| (ofRules config p.name 0 p.rules).andThen fun rulings =>
    match Verdict.fault? (rulings.map Ruling.verdict) with
    | some source => .refuse (.lowering p.name source)
    | none => .done rulings

def ofPolicies (config : Config) : List MatchedPolicy → Inquiry (List Ruling)
  | [] => .done []
  | p :: rest => (ofPolicy config p).andThen fun rulings =>
    (ofPolicies config rest).andThen fun others => .done (rulings ++ others)

-- ---------------------------------------------------------------------------
-- What an inquiry may do
-- ---------------------------------------------------------------------------

section
variable {α β : Type} {reason : PolicyError → Prop} {layers : Bindings → Prop}
  {mode : UnresolvedMode}

theorem Only.andThen {i : Inquiry α} {f : α → Inquiry β} (hi : i.Only reason layers)
    (hf : ∀ value, (f value).Only reason layers) : (i.andThen f).Only reason layers := by
  induction i with
  | done value => exact hf value
  | refuse own => exact hi
  | layer bindings next ih => exact ⟨hi.1, ih hi.2⟩
  | ask expression next ih => exact fun found => ih found (hi found)

theorem ofValue_only (value : Json) : (ofValue value).Only reason layers := by
  cases value <;> simp [ofValue, Only]

theorem ofConditions_only (conditions : List Condition) :
    (ofConditions conditions).Only reason layers := by
  induction conditions with
  | nil => trivial
  | cons condition rest ih =>
    have hcondition : (ofCondition condition).Only reason layers :=
      (ofValue_only _).andThen fun lhs => (ofValue_only _).andThen fun rhs => trivial
    refine hcondition.andThen fun holds => ?_
    cases holds with
    | true => exact ih
    | false => trivial

theorem ofReferences_only (references : List String)
    (h : mode = .reject → ∀ reference, reason (.unresolvedEnvironment reference)) :
    (ofReferences mode references).Only reason layers := by
  induction references with
  | nil => trivial
  | cons reference rest ih =>
    refine Only.andThen ?_ fun value => ih.andThen fun values => trivial
    intro found
    cases found with
    | some value => trivial
    | none =>
      cases mode with
      | null => trivial
      | reject => exact h rfl reference

theorem ofRule_only {rule : QueryRule} (hlayers : layers rule.env)
    (h : mode = .reject → ∀ reference, reason (.unresolvedEnvironment reference)) :
    (ofRule mode rule).Only reason layers := by
  refine ⟨hlayers, (ofConditions_only _).andThen fun met => ?_⟩
  cases met with
  | false => trivial
  | true =>
    simp only [if_true, ofQuery]
    cases rule.query.lower? with
    | error source => trivial
    | ok lowered =>
      cases lowered with
      | none => trivial
      | some fragment => exact (ofReferences_only _ h).andThen fun _ => trivial

theorem ofRules_only {config : Config} {policy : String} {index : Nat} {rules : List QueryRule}
    (hlayers : ∀ rule ∈ rules, layers rule.env) (h : ∀ e, reason e) :
    (ofRules config policy index rules).Only reason layers := by
  induction rules generalizing index with
  | nil => trivial
  | cons rule rest ih =>
    obtain ⟨hrule, hrest⟩ := List.forall_mem_cons.mp hlayers
    refine (ofRule_only hrule fun _ reference => h _).andThen fun verdict => ?_
    split
    · exact h _
    · exact (ih hrest).andThen fun rulings => trivial

theorem ofPolicies_only {config : Config} {policies : List MatchedPolicy}
    (hlayers : ∀ p ∈ policies, layers p.env ∧ ∀ rule ∈ p.rules, layers rule.env)
    (h : ∀ e, reason e) : (ofPolicies config policies).Only reason layers := by
  induction policies with
  | nil => trivial
  | cons p rest ih =>
    obtain ⟨⟨henv, hrules⟩, hrest⟩ := List.forall_mem_cons.mp hlayers
    have hpolicy : (ofPolicy config p).Only reason layers := by
      refine ⟨henv, (ofRules_only hrules h).andThen fun rulings => ?_⟩
      split
      · exact h _
      · trivial
    exact hpolicy.andThen fun rulings => (ih hrest).andThen fun others => trivial

end

-- ---------------------------------------------------------------------------
-- Judging is carrying the inquiry out
-- ---------------------------------------------------------------------------

section
variable {α β : Type} (directory : Directory) (app : String)

theorem run_andThen (i : Inquiry α) (f : α → Inquiry β) :
    (i.andThen f).run directory app =
      i.run directory app >>= fun value => (f value).run directory app := by
  induction i with
  | done value => simp [andThen, run]
  | refuse e => rfl
  | layer bindings next ih => simp [andThen, run, ih]
  | ask expression next ih => simp [andThen, run, ih]

theorem ofValue_eq_run (value : Json) :
    Resolution.ofValue directory app value = (ofValue value).run directory app := by
  cases value <;> simp [Resolution.ofValue, ofValue, run]

theorem holds_eq_run (c : Condition) :
    c.holds directory app = (ofCondition c).run directory app := by
  simp [Condition.holds, ofCondition, run_andThen, ofValue_eq_run, run]

theorem allHold_eq_run (conditions : List Condition) :
    Resolution.allHold directory app conditions = (ofConditions conditions).run directory app := by
  induction conditions with
  | nil => rfl
  | cons condition rest ih =>
    simp only [Resolution.allHold, ofConditions, run_andThen, holds_eq_run, ih]
    refine congrArg _ (funext fun holds => ?_)
    cases holds <;> rfl

theorem ofReference_eq_run (mode : UnresolvedMode) (reference : String) :
    Resolution.ofReference mode directory app reference =
      (ofReference mode reference).run directory app := by
  unfold Resolution.ofReference ofReference run
  refine congrArg _ (funext fun found => ?_)
  cases found with
  | some value => rfl
  | none => cases mode <;> rfl

theorem ofReferences_eq_run (mode : UnresolvedMode) (references : List String) :
    Resolution.ofReferences mode directory app references =
      (ofReferences mode references).run directory app := by
  induction references with
  | nil => rfl
  | cons reference rest ih =>
    simp [Resolution.ofReferences, ofReferences, run_andThen, ofReference_eq_run, ih, run]

theorem verdict_eq_run (b : Bench) (rule : QueryRule) :
    b.verdict rule = (ofRule b.config.unresolved rule).run b.directory b.app := by
  simp only [Bench.verdict, ofRule, run, run_andThen, allHold_eq_run]
  refine congrArg _ (funext fun _ => congrArg _ (funext fun met => ?_))
  cases met with
  | false => rfl
  | true =>
    simp only [if_true, ofQuery]
    cases rule.query.lower? with
    | error source => rfl
    | ok lowered =>
      cases lowered with
      | none => rfl
      | some fragment =>
        simp [Resolution.substitute, ofReferences_eq_run, run_andThen, run]

end

section
variable {α β : Type} {directory : Directory} {app : String} {s s' : Session}

theorem runs_andThen {i : Inquiry α} {f : α → Inquiry β} {value : β} :
    Runs ((i.andThen f).run directory app) s value s' ↔ ∃ first next,
      Runs (i.run directory app) s first next ∧ Runs ((f first).run directory app) next value s' := by
  rw [run_andThen, runs_bind]

theorem run_keeps {keeps : Session → Prop} {layers : Bindings → Prop}
    (hasks : AsksKeep directory app keeps)
    (hlayers : ∀ bindings, layers bindings → ∀ s, keeps s → keeps (s.layered bindings))
    {i : Inquiry α} (hi : i.Only (fun _ => True) layers) {value : α}
    (h : Runs (i.run directory app) s value s') (hs : keeps s) : keeps s' := by
  induction i generalizing s with
  | done own => exact (runs_pure.mp h).2 ▸ hs
  | refuse e => cases runs_throw.mp h
  | layer bindings next ih => exact ih hi.2 h (hlayers bindings hi.1 s hs)
  | ask expression next ih =>
    obtain ⟨found, mid, hfound, h⟩ := runs_bind.mp h
    exact ih found (hi found) h (hasks hfound hs)

theorem allHold_keeps {keeps : Session → Prop} (hasks : AsksKeep directory app keeps)
    {conditions : List Condition} {met : Bool}
    (h : Runs (Resolution.allHold directory app conditions) s met s') (hs : keeps s) : keeps s' := by
  have honly : (ofConditions conditions).Only (fun _ => True) fun _ => False :=
    ofConditions_only conditions
  rw [allHold_eq_run] at h
  exact run_keeps hasks (fun _ hnone => hnone.elim) honly h hs

theorem verdict_keeps {b : Bench} {keeps : Session → Prop}
    (hasks : AsksKeep b.directory b.app keeps) {rule : QueryRule} {v : Verdict}
    (hlayer : ∀ {s}, keeps s → keeps (s.layered rule.env)) (h : Runs (b.verdict rule) s v s')
    (hs : keeps s) : keeps s' := by
  have honly : (ofRule b.config.unresolved rule).Only (fun _ => True) (· = rule.env) :=
    ofRule_only rfl fun _ _ => trivial
  rw [verdict_eq_run] at h
  refine run_keeps hasks ?_ honly h hs
  rintro _ rfl s hs
  exact hlayer hs

theorem rules_inquiry {b : Bench} {policy : String} {index : Nat} {rules : List QueryRule}
    {p p' : Proceedings} {vs : List Verdict} (h : Runs (b.rules policy index rules) p vs p') :
    ∃ rulings, Runs ((ofRules b.config policy index rules).run b.directory b.app) p.session rulings
        p'.session ∧
      p'.rulings = p.rulings ++ rulings ∧ vs = rulings.map Ruling.verdict := by
  induction rules generalizing index p vs with
  | nil =>
    obtain ⟨rfl, rfl⟩ := runs_pure.mp h
    exact ⟨[], runs_pure.mpr ⟨rfl, rfl⟩, by simp, rfl⟩
  | cons rule rest ih =>
    obtain ⟨v, next, hrule, others, hrest, rfl⟩ := Bench.rules_cons_runs.mp h
    obtain ⟨hverdict, hruling, habort⟩ := Bench.rule_runs.mp hrule
    obtain ⟨rulings, hrulings, hlast, rfl⟩ := ih hrest
    rw [verdict_eq_run] at hverdict
    refine ⟨⟨policy, index, rule.projection, v⟩ :: rulings, ?_, ?_, rfl⟩
    · refine runs_andThen.mpr ⟨v, next.session, hverdict, ?_⟩
      have hdone : Runs (((ofRules b.config policy (index + 1) rest).andThen fun rulings =>
          .done (⟨policy, index, rule.projection, v⟩ :: rulings)).run b.directory b.app)
          next.session (⟨policy, index, rule.projection, v⟩ :: rulings) p'.session :=
        runs_andThen.mpr ⟨rulings, p'.session, hrulings, runs_pure.mpr ⟨rfl, rfl⟩⟩
      split
      next source hmode => cases habort hmode
      · exact hdone
    · rw [hlast, hruling, List.append_assoc]
      rfl

/-- Whoever judges policies to the end carries out the inquiry into them. -/
theorem policies_inquiry {b : Bench} {policies : List MatchedPolicy} {p p' : Proceedings}
    (h : Runs (b.policies policies) p () p') :
    ∃ rulings, Runs ((ofPolicies b.config policies).run b.directory b.app) p.session rulings
        p'.session ∧
      p'.rulings = p.rulings ++ rulings := by
  induction policies generalizing p with
  | nil =>
    obtain ⟨-, rfl⟩ := runs_pure.mp h
    exact ⟨[], runs_pure.mpr ⟨rfl, rfl⟩, by simp⟩
  | cons policy rest ih =>
    obtain ⟨next, hpolicy, hrest⟩ := Bench.policies_cons_runs.mp h
    obtain ⟨vs, hrules, hfault⟩ := Bench.policy_runs.mp hpolicy
    obtain ⟨rulings, hrulings, hmade, rfl⟩ := rules_inquiry hrules
    obtain ⟨others, hothers, hlast⟩ := ih hrest
    refine ⟨rulings ++ others, ?_, ?_⟩
    · refine runs_andThen.mpr ⟨rulings, next.session, ?_, ?_⟩
      · refine runs_andThen.mpr ⟨rulings, next.session, hrulings, ?_⟩
        rw [hfault]
        exact runs_pure.mpr ⟨rfl, rfl⟩
      · exact runs_andThen.mpr ⟨others, p'.session, hothers, runs_pure.mpr ⟨rfl, rfl⟩⟩
    · rw [hlast, hmade, List.append_assoc]

end

end Inquiry

end QueryGuard
