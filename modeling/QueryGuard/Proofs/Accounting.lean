import QueryGuard.Proofs.Skipped

/-!
# What a report accounts for

Every rule of every policy is heard once, in order, and its verdict is what its
conditions and its query come to in the environment at that point
(`Hearing.Just`). `accumulate_accounts` says that a report lists these hearings
and no others, and that the accumulated query is what the fragments of the rules
that applied fold to.
-/

namespace QueryGuard

-- ---------------------------------------------------------------------------
-- Conditions
-- ---------------------------------------------------------------------------

namespace Bench

/-- All conditions hold, each in the session that those before it leave. -/
inductive Meets (b : Bench) : Session → List Condition → Session → Prop where
  | nil (s : Session) : Meets b s [] s
  | cons {s mid s' : Session} {condition : Condition} {rest : List Condition}
      (h : Runs (condition.holds b.directory b.app) s true mid) (hrest : Meets b mid rest s') :
      Meets b s (condition :: rest) s'

/-- Some condition is false, in the session that those before it leave. -/
def Misses (b : Bench) (s : Session) (conditions : List Condition) (s' : Session) : Prop :=
  ∃ earlier condition later mid, conditions = earlier ++ condition :: later ∧
    b.Meets s earlier mid ∧ Runs (condition.holds b.directory b.app) mid false s'

section
variable {b : Bench} {s s' : Session} {condition : Condition} {rest conditions : List Condition}

theorem allHold_cons_runs {met : Bool} :
    Runs (Resolution.allHold b.directory b.app (condition :: rest)) s met s' ↔
      ∃ mid, (Runs (condition.holds b.directory b.app) s true mid ∧
          Runs (Resolution.allHold b.directory b.app rest) mid met s') ∨
        (Runs (condition.holds b.directory b.app) s false mid ∧ met = false ∧ s' = mid) := by
  rw [Resolution.allHold, runs_bind, exists_comm]
  refine exists_congr fun mid => ?_
  simp [or_comm]

theorem allHold_true_runs :
    Runs (Resolution.allHold b.directory b.app conditions) s true s' ↔ b.Meets s conditions s' := by
  induction conditions generalizing s with
  | nil =>
    constructor
    · intro h
      obtain ⟨-, rfl⟩ := runs_pure.mp h
      exact .nil s'
    · rintro ⟨⟩
      exact runs_pure.mpr ⟨rfl, rfl⟩
  | cons condition rest ih =>
    rw [allHold_cons_runs]
    constructor
    · rintro ⟨mid, ⟨h, hrest⟩ | ⟨-, hfalse, -⟩⟩
      · exact .cons h (ih.mp hrest)
      · cases hfalse
    · rintro (_ | ⟨h, hrest⟩)
      exact ⟨_, .inl ⟨h, ih.mpr hrest⟩⟩

theorem misses_cons : b.Misses s (condition :: rest) s' ↔
    ∃ mid, (Runs (condition.holds b.directory b.app) s true mid ∧ b.Misses mid rest s') ∨
      (Runs (condition.holds b.directory b.app) s false mid ∧ s' = mid) := by
  constructor
  · rintro ⟨earlier, own, later, mid, he, hmet, hown⟩
    cases hmet with
    | nil =>
      cases he
      exact ⟨s', .inr ⟨hown, rfl⟩⟩
    | cons h hrest =>
      cases he
      exact ⟨_, .inl ⟨h, _, own, later, mid, rfl, hrest, hown⟩⟩
  · rintro ⟨mid, ⟨h, earlier, own, later, next, rfl, hmet, hown⟩ | ⟨h, rfl⟩⟩
    · exact ⟨condition :: earlier, own, later, next, rfl, .cons h hmet, hown⟩
    · exact ⟨[], condition, rest, s, rfl, .nil s, h⟩

theorem allHold_false_runs :
    Runs (Resolution.allHold b.directory b.app conditions) s false s' ↔
      b.Misses s conditions s' := by
  induction conditions generalizing s with
  | nil =>
    constructor
    · intro h
      cases (runs_pure.mp h).1
    · rintro ⟨earlier, own, later, mid, he, -⟩
      simp at he
  | cons condition rest ih => simp [allHold_cons_runs, misses_cons, ih]

end

end Bench

-- ---------------------------------------------------------------------------
-- Hearings
-- ---------------------------------------------------------------------------

namespace Ruling

def place (r : Ruling) : String × Nat := (r.policy, r.index)

/-- What a rule that applied has to say. -/
def fragment? (r : Ruling) : Option Query :=
  match r.verdict with
  | .applies fragment => fragment
  | _ => none

end Ruling

/-- The places of the rules, in order. -/
def MatchedPolicy.places (p : MatchedPolicy) : List (String × Nat) :=
  p.rules.zipIdx.map fun entry => (p.name, entry.2)

namespace Hearing

/-- What the verdict on a rule is in the session in which its conditions are
evaluated, and what session it leaves. -/
structure JustIn (b : Bench) (hearing : Hearing) (s s' : Session) : Prop where
  unmet : hearing.ruling.verdict = .unmet ↔ ∃ last, b.Misses s hearing.rule.conditions last
  faulty (source : LoweringError) : hearing.ruling.verdict = .faulty source ↔
    (∃ last, b.Meets s hearing.rule.conditions last) ∧
      hearing.rule.query.lower? = .error source
  /-- Empty clauses go first, and then values are put in. -/
  applies (fragment : Option Query) : hearing.ruling.verdict = .applies fragment ↔
    ∃ mid, b.Meets s hearing.rule.conditions mid ∧
      match hearing.rule.query.lower? with
      | .error _ => False
      | .ok none => fragment = none
      | .ok (some lowered) => ∃ substituted last, Runs (Resolution.substitute b.config.unresolved
          b.directory b.app lowered.pruned) mid substituted last ∧ fragment = some substituted
  leaves : b.Misses s hearing.rule.conditions s' ∨
    ∃ mid, b.Meets s hearing.rule.conditions mid ∧
      match hearing.rule.query.lower? with
      | .ok (some lowered) => ∃ substituted, Runs (Resolution.substitute b.config.unresolved
          b.directory b.app lowered.pruned) mid substituted s'
      | _ => s' = mid
  asked : hearing.asked = decide (s.lookups < s'.lookups)

/-- The verdict is just in the environment before, with the rule's bindings. How
often the directory was asked until then is left open. -/
def Just (b : Bench) (hearing : Hearing) : Prop :=
  ∃ n m, hearing.JustIn b ⟨hearing.before.bind hearing.rule.env, n⟩ ⟨hearing.after, m⟩

/-- Each hearing starts from what the one before it leaves. -/
def Threaded (env : Environment) : List Hearing → Environment → Prop
  | [], last => last = env
  | hearing :: rest, last => hearing.before = env ∧ Threaded hearing.after rest last

end Hearing

namespace Trial

/-- Each trial starts from what the one before it leaves, with the bindings of
its policy. -/
def Threaded (env : Environment) : List Trial → Prop
  | [] => True
  | t :: rest => ∃ last,
      Hearing.Threaded (env.bind t.policy.env) t.hearings last ∧ Threaded last rest

/-- Whether a rule is broken counts only next to a rule that applies. -/
def Contributes (t : Trial) : Prop :=
  ∀ hearing ∈ t.hearings, ∀ source, hearing.ruling.verdict = .faulty source →
    ∃ other ∈ t.hearings, other.ruling.verdict.isApplied = true

/-- The trials of policies: every rule is heard, in order and justly. -/
structure Held (b : Bench) (env : Environment) (policies : List MatchedPolicy)
    (trials : List Trial) : Prop where
  tried : trials.map Trial.policy = policies
  heard : ∀ t ∈ trials, t.hearings.map Hearing.rule = t.policy.rules
  threaded : Threaded env trials
  just : ∀ t ∈ trials, ∀ hearing ∈ t.hearings, hearing.Just b
  contributes : ∀ t ∈ trials, t.Contributes

end Trial

/-- A report lists every rule once, in order, and each where it belongs. -/
structure Report.Accounts (report : Report) (policies : List MatchedPolicy)
    (rulings : List Ruling) : Prop where
  places : rulings.map Ruling.place = policies.flatMap MatchedPolicy.places
  applied : report.applied = (rulings.filter fun r => r.verdict.isApplied).map Ruling.place
  skipped : report.skipped = rulings.filterMap Ruling.skipped?
  once : (report.applied ++ report.skipped.map fun entry => (entry.1, entry.2.1)).Perm
    (policies.flatMap MatchedPolicy.places)

theorem Hearing.Threaded.keeps {keeps : Environment → Prop} {hearings : List Hearing}
    {env last : Environment} (h : Threaded env hearings last)
    (hstep : ∀ hearing ∈ hearings, keeps hearing.before → keeps hearing.after) (hs : keeps env) :
    (∀ hearing ∈ hearings, keeps hearing.before) ∧ keeps last := by
  induction hearings generalizing env with
  | nil =>
    cases h
    exact ⟨nofun, hs⟩
  | cons hearing rest ih =>
    obtain ⟨rfl, hrest⟩ := h
    obtain ⟨hfirst, hothers⟩ := List.forall_mem_cons.mp hstep
    obtain ⟨hbefore, hlast⟩ := ih hrest hothers (hfirst hs)
    exact ⟨List.forall_mem_cons.mpr ⟨hs, hbefore⟩, hlast⟩

theorem Trial.Threaded.keeps {keeps : Environment → Prop} {trials : List Trial} {env : Environment}
    (h : Threaded env trials)
    (hlayer : ∀ t ∈ trials, ∀ env, keeps env → keeps (env.bind t.policy.env))
    (hstep : ∀ t ∈ trials, ∀ hearing ∈ t.hearings, keeps hearing.before → keeps hearing.after)
    (hs : keeps env) : ∀ t ∈ trials, ∀ hearing ∈ t.hearings, keeps hearing.before := by
  induction trials generalizing env with
  | nil => exact nofun
  | cons t rest ih =>
    obtain ⟨last, hhearings, hrest⟩ := h
    obtain ⟨hown, hlayers⟩ := List.forall_mem_cons.mp hlayer
    obtain ⟨hfirst, hothers⟩ := List.forall_mem_cons.mp hstep
    obtain ⟨hbefore, hlast⟩ := hhearings.keeps hfirst (hown env hs)
    exact List.forall_mem_cons.mpr ⟨hbefore, ih hrest hlayers hothers hlast⟩

namespace Bench

/-- What comes of a rule when it is judged: the ruling, and the environments around. -/
inductive Hears (b : Bench) : Hearing → Prop where
  | judged {rule : QueryRule} {policy : String} {index : Nat} {s next : Session} {v : Verdict}
      (h : Runs (b.verdict rule) s v next) :
      Hears b ⟨rule, ⟨policy, index, rule.projection, v⟩, s.env, next.env,
        s.lookups < next.lookups⟩

section
variable {b : Bench} {policy : String} {index : Nat} {rules : List QueryRule}
  {p p' : Proceedings}

theorem just_of_runs {hearing : Hearing} {n m : Nat}
    (h : Runs (b.verdict hearing.rule) ⟨hearing.before, n⟩ hearing.ruling.verdict
      ⟨hearing.after, m⟩) (hasked : hearing.asked = decide (n < m)) : hearing.Just b := by
  -- Judging has one result, so that the ruling tells which of the three ways it went.
  have hverdict : ∀ v, hearing.ruling.verdict = v ↔
      ∃ last, Runs (b.verdict hearing.rule) ⟨hearing.before, n⟩ v last := by
    intro v
    constructor
    · rintro rfl
      exact ⟨_, h⟩
    · rintro ⟨last, hv⟩
      have he := h.symm.trans hv
      cases he
      rfl
  refine ⟨n, m, ⟨?_, fun source => ?_, fun fragment => ?_, ?_, hasked⟩⟩
  · simp only [hverdict, verdict_unmet_runs, allHold_false_runs]
    rfl
  · simp only [hverdict, verdict_faulty_runs, allHold_true_runs, exists_and_right]
    rfl
  · simp only [hverdict, verdict_applies_runs, allHold_true_runs]
    rw [exists_comm]
    refine exists_congr fun mid => ?_
    rw [exists_and_left]
    refine and_congr Iff.rfl ?_
    cases hearing.rule.query.lower? with
    | error source => simp
    | ok lowered =>
      cases lowered with
      | none => simp
      | some lowered => exact exists_comm
  · cases hv : hearing.ruling.verdict with
    | unmet =>
      rw [hv, verdict_unmet_runs, allHold_false_runs] at h
      exact .inl h
    | faulty source =>
      rw [hv, verdict_faulty_runs, allHold_true_runs] at h
      refine .inr ⟨_, h.1, ?_⟩
      rw [h.2]
    | applies fragment =>
      rw [hv, verdict_applies_runs] at h
      obtain ⟨mid, hmet, hlowered⟩ := h
      refine .inr ⟨mid, allHold_true_runs.mp hmet, ?_⟩
      cases hl : hearing.rule.query.lower? with
      | error source =>
        rw [hl] at hlowered
        cases hlowered
      | ok lowered =>
        rw [hl] at hlowered
        cases lowered with
        | none => exact hlowered.2
        | some lowered =>
          obtain ⟨substituted, hsubstituted, -⟩ := hlowered
          exact ⟨substituted, hsubstituted⟩

theorem hears_of_mem_hear {s : Session} {hearing : Hearing}
    (hm : hearing ∈ (b.hear policy index s rules).1) : b.Hears hearing := by
  induction rules generalizing index s with
  | nil => cases hm
  | cons rule rest ih =>
    cases hv : (b.verdict rule).run.run s with
    | mk result next =>
      cases result with
      | error e => simp [hear, hv] at hm
      | ok v =>
        rw [hear_cons hv] at hm
        rcases List.mem_cons.mp hm with rfl | hm
        · exact .judged hv
        · exact ih hm

theorem hears_of_mem_trials {s : Session} {policies : List MatchedPolicy} {t : Trial}
    {hearing : Hearing} (ht : t ∈ b.trials s policies) (hm : hearing ∈ t.hearings) :
    b.Hears hearing := by
  induction policies generalizing s with
  | nil => cases ht
  | cons policy rest ih =>
    rcases List.mem_cons.mp ht with rfl | ht
    · exact hears_of_mem_hear hm
    · exact ih ht

theorem runs_of_mem_trials {s : Session} {policies : List MatchedPolicy} {t : Trial}
    {hearing : Hearing} (ht : t ∈ b.trials s policies) (hm : hearing ∈ t.hearings) : ∃ n m,
      Runs (b.verdict hearing.rule) ⟨hearing.before, n⟩ hearing.ruling.verdict
        ⟨hearing.after, m⟩ := by
  cases hears_of_mem_trials ht hm with
  | judged h => exact ⟨_, _, h⟩

theorem just_of_mem_trials {s : Session} {policies : List MatchedPolicy} {t : Trial}
    {hearing : Hearing} (ht : t ∈ b.trials s policies) (hm : hearing ∈ t.hearings) :
    hearing.Just b := by
  cases hears_of_mem_trials ht hm with
  | judged h => exact just_of_runs h rfl

theorem hear_accounts {vs : List Verdict} (h : Runs (b.rules policy index rules) p vs p') :
    (b.hear policy index p.session rules).1.map (fun hearing => hearing.ruling.place) =
        (rules.zipIdx index).map (fun entry => (policy, entry.2)) ∧
      Hearing.Threaded p.session.env (b.hear policy index p.session rules).1 p'.session.env ∧
      vs = (b.hear policy index p.session rules).1.map fun hearing => hearing.ruling.verdict := by
  induction rules generalizing index p vs with
  | nil =>
    obtain ⟨rfl, rfl⟩ := runs_pure.mp h
    exact ⟨rfl, rfl, rfl⟩
  | cons rule rest ih =>
    obtain ⟨v, next, hrule, others, hrest, rfl⟩ := rules_cons_runs.mp h
    obtain ⟨hplaces, hthreaded, hverdicts⟩ := ih hrest
    rw [hear_cons (rule_runs.mp hrule).1]
    refine ⟨congrArg ((policy, index) :: ·) hplaces, ⟨rfl, hthreaded⟩, ?_⟩
    rw [hverdicts]
    rfl

theorem contributes_of_fault? {t : Trial}
    (h : Verdict.fault? (t.hearings.map fun hearing => hearing.ruling.verdict) = none) :
    t.Contributes := by
  intro hearing hm source hfaulty
  by_contra hnone
  have hnone : (t.hearings.map fun hearing => hearing.ruling.verdict).any Verdict.isApplied
      = false := by
    simpa using hnone
  simp only [Verdict.fault?, hnone, Bool.false_eq_true, if_false, List.findSome?_eq_none_iff] at h
  have hfailed := h _ (List.mem_map_of_mem hm)
  simp [hfaulty, Verdict.failure?] at hfailed

theorem trials_accounts {policies : List MatchedPolicy} (h : Runs (b.policies policies) p () p') :
    (b.trials p.session policies).flatMap
        (fun t => t.hearings.map fun hearing => hearing.ruling.place) =
        policies.flatMap MatchedPolicy.places ∧
      Trial.Threaded p.session.env (b.trials p.session policies) ∧
      ∀ t ∈ b.trials p.session policies, t.Contributes := by
  induction policies generalizing p with
  | nil => exact ⟨rfl, trivial, nofun⟩
  | cons policy rest ih =>
    obtain ⟨next, hpolicy, hrest⟩ := policies_cons_runs.mp h
    obtain ⟨vs, hrules, hfault⟩ := policy_runs.mp hpolicy
    obtain ⟨hplaces, hthreaded, rfl⟩ := hear_accounts hrules
    obtain ⟨hothers, hchained, hcontributes⟩ := ih hrest
    simp only [trials, ← (hear_of_runs hrules).1]
    refine ⟨?_, ⟨_, hthreaded, hchained⟩, ?_⟩
    · rw [List.flatMap_cons, List.flatMap_cons, hothers, hplaces]
      rfl
    · rintro t (_ | ⟨_, hm⟩)
      · exact contributes_of_fault? hfault
      · exact hcontributes t hm

end

end Bench

-- ---------------------------------------------------------------------------
-- Reports and queries
-- ---------------------------------------------------------------------------

namespace Ruling

theorem skipped?_place (r : Ruling) :
    r.skipped?.map (fun entry => (entry.1, entry.2.1)) =
      if r.verdict.isApplied then none else some r.place := by
  unfold skipped?
  cases r.verdict <;> rfl

theorem report_applied (rulings : List Ruling) :
    (report rulings).applied = (rulings.filter fun r => r.verdict.isApplied).map place := by
  induction rulings with
  | nil => rfl
  | cons r rest ih =>
    simp only [report, List.filterMap_cons, applied?, List.filter_cons] at ih ⊢
    cases r.verdict.isApplied with
    | true => simp [ih, place]
    | false => simp [ih]

theorem report_perm (rulings : List Ruling) :
    ((report rulings).applied ++
      (report rulings).skipped.map fun entry => (entry.1, entry.2.1)).Perm
      (rulings.map place) := by
  have hskipped : (report rulings).skipped.map (fun entry => (entry.1, entry.2.1)) =
      (rulings.filter fun r => !r.verdict.isApplied).map place := by
    rw [report, List.map_filterMap]
    induction rulings with
    | nil => rfl
    | cons r rest ih =>
      rw [List.filterMap_cons, skipped?_place, List.filter_cons]
      cases r.verdict.isApplied with
      | true => simpa using ih
      | false => simpa using ih
  rw [report_applied, hskipped, ← List.map_append]
  exact (List.filter_append_perm _ rulings).map place

end Ruling

namespace RequestContext

theorem gather_cons (ctx : RequestContext) (r : Ruling) (rest : List Ruling) :
    ctx.gather (r :: rest) = (r.contribute ctx).gather rest := rfl

theorem gather_accessQuery (ctx : RequestContext) (rulings : List Ruling) :
    (ctx.gather rulings).accessQuery.getD Query.empty =
      (rulings.filterMap Ruling.fragment?).foldl Query.foldAll
        (ctx.accessQuery.getD Query.empty) := by
  induction rulings generalizing ctx with
  | nil => rfl
  | cons r rest ih =>
    rw [gather_cons, ih, List.filterMap_cons]
    cases hv : r.verdict with
    | applies fragment =>
      cases fragment <;> simp [Ruling.contribute, Ruling.fragment?, hv]
    | _ => simp [Ruling.contribute, Ruling.fragment?, hv]

theorem gather_accessQuery_eq_none {ctx : RequestContext} {rulings : List Ruling} :
    (ctx.gather rulings).accessQuery = none ↔
      ctx.accessQuery = none ∧ ∀ r ∈ rulings, r.verdict.isApplied = false := by
  induction rulings generalizing ctx with
  | nil => simp [gather]
  | cons r rest ih =>
    rw [gather_cons, ih]
    cases hv : r.verdict with
    | applies fragment => simp [Ruling.contribute, hv, Verdict.isApplied]
    | _ => simp [Ruling.contribute, hv, Verdict.isApplied]

/-- The report accounts for every rule that was heard, and the access-control
query for every rule that applied. -/
theorem accumulate_accounts {ctx : RequestContext} {config : Config} {directory : Directory}
    {policies : List MatchedPolicy} {report : Report}
    (h : (ctx.accumulate config directory policies).result = .ok report) :
    let trials := ctx.trials config directory policies
    let rulings := trials.flatMap fun t => t.hearings.map Hearing.ruling
    let left := (ctx.accumulate config directory policies).context
    Trial.Held ⟨config, directory, ctx.app⟩ (Environment.forUser ctx.userId?) policies trials ∧
      report.Accounts policies rulings ∧
      left.accessQuery.getD Query.empty = (rulings.filterMap Ruling.fragment?).foldl Query.foldAll
        (ctx.accessQuery.getD Query.empty) ∧
      (left.accessQuery = none ↔ ctx.accessQuery = none ∧ report.applied = []) := by
  intro trials rulings left
  obtain ⟨p, hruns, rfl⟩ := accumulate_eq_ok_iff.mp h
  obtain ⟨htried, hheard, hrulings⟩ := Bench.trials_of_runs hruns
  obtain ⟨hplaces, hthreaded, hcontributes⟩ := Bench.trials_accounts hruns
  have hrulings : p.rulings = rulings := hrulings
  have hleft : left = ctx.gather rulings := by
    rw [← hrulings]
    exact accumulate_context hruns
  have hplaces : rulings.map Ruling.place = policies.flatMap MatchedPolicy.places := by
    rw [← hplaces, List.map_flatMap]
    simp only [List.map_map]
    rfl
  rw [hrulings]
  refine ⟨⟨htried, hheard, hthreaded, fun t ht hearing hm => Bench.just_of_mem_trials ht hm,
    hcontributes⟩, ⟨hplaces, Ruling.report_applied rulings, rfl, ?_⟩, ?_, ?_⟩
  · rw [← hplaces]
    exact Ruling.report_perm rulings
  · rw [hleft]
    exact gather_accessQuery ctx rulings
  · rw [hleft, gather_accessQuery_eq_none, Ruling.report_applied]
    simp [List.filter_eq_nil_iff]

end RequestContext

/-- A rule that is unmet, one that is broken, and one that applies. -/
def MatchedPolicy.mixed : MatchedPolicy :=
  ⟨"p", [], [.reserved, .ofQuery (.object [("tags", .array [.string "a"])]), .personal]⟩

theorem RequestContext.accumulate_accounts_mixed :
    let ctx := { RequestContext.ofApp "app" with user := some (.ofId "u-1") }
    let directory := Directory.ofStore ⟨[.linked]⟩
    let trials := ctx.trials .default directory [.mixed]
    (ctx.accumulate .default directory [.mixed]).result =
        .ok ⟨[("p", 2)],
          [("p", 0, .conditionsNotMet), ("p", 1, .loweringFailed (.arrayUnderField "tags"))]⟩ ∧
      Trial.Held ⟨.default, directory, "app"⟩ (Environment.forUser (some "u-1")) [.mixed] trials ∧
      (ctx.accumulate .default directory [.mixed]).context.accessQuery.getD Query.empty =
        ((trials.flatMap fun t => t.hearings.map Hearing.ruling).filterMap
          Ruling.fragment?).foldl Query.foldAll Query.empty := by
  intro ctx directory trials
  have hresult : (ctx.accumulate .default directory [.mixed]).result =
      .ok ⟨[("p", 2)],
        [("p", 0, .conditionsNotMet), ("p", 1, .loweringFailed (.arrayUnderField "tags"))]⟩ := by
    rfl
  obtain ⟨hheld, -, hquery, -⟩ := RequestContext.accumulate_accounts hresult
  exact ⟨hresult, hheld, hquery⟩

end QueryGuard
