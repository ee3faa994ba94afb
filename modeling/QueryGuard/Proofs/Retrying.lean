import QueryGuard.Proofs.Refolding
import QueryGuard.Proofs.Substituting

/-!
# Accumulating again

Documents name nothing twice in one object, so neither do the values of an
environment, nor what is put in for references, nor the fragments of rules. Such
fragments are folded again without a trace, and rulings depend on the user and
the app of a context alone. So accumulating once more changes nothing, also after
a failure (`accumulate_again`).
-/

namespace QueryGuard

-- ---------------------------------------------------------------------------
-- Values
-- ---------------------------------------------------------------------------

namespace Environment

/-- No object among the values repeats a name. -/
def Distinct (env : Environment) : Prop :=
  ∀ name value, env.get? name = some value → value.Distinct

section
variable {env : Environment} {name : String} {value : Json}

theorem distinct_forUser (user? : Option String) : (forUser user?).Distinct := by
  intro name value h
  cases user? with
  | none => cases h
  | some user =>
    rw [forUser, get?_put] at h
    split at h
    · cases h
      trivial
    · cases h

theorem Distinct.put (h : env.Distinct) (hv : value.Distinct) : (env.put name value).Distinct := by
  intro other own hget
  rw [get?_put] at hget
  split at hget
  · cases hget
    exact hv
  · exact h other own hget

theorem Distinct.bind {bindings : Bindings} (h : env.Distinct)
    (hb : ∀ binding ∈ bindings, binding.2.Distinct) : (env.bind bindings).Distinct := by
  induction bindings generalizing env with
  | nil => exact h
  | cons binding rest ih =>
    obtain ⟨hbinding, hrest⟩ := List.forall_mem_cons.mp hb
    have hone : (env.bindOne binding.1 binding.2).Distinct := by
      unfold bindOne
      split
      · exact h
      · exact h.put hbinding
    exact ih hone hrest

theorem distinct_walk? {segments : List String} {found : Json} (hv : value.Distinct)
    (h : walk? value segments = some found) : found.Distinct := by
  induction segments generalizing value with
  | nil =>
    cases h
    exact hv
  | cons segment rest ih =>
    obtain ⟨child, hchild, h⟩ := Option.bind_eq_some_iff.mp h
    refine ih ?_ h
    cases value with
    | object members =>
      exact (Json.distinct_object.mp hv).2 _ (Members.mem_of_get? hchild)
    | array items =>
      obtain ⟨i, -, hi⟩ := Option.bind_eq_some_iff.mp hchild
      exact Json.distinctItems_iff.mp hv child (List.mem_of_getElem? hi)
    | _ => cases hchild

theorem Distinct.lookup? {path : String} (h : env.Distinct) (hget : env.lookup? path = some value) :
    value.Distinct := by
  obtain ⟨name, segments, -, hlookup⟩ := exists_lookup?_eq path
  rw [hlookup] at hget
  obtain ⟨start, hstart, hwalk⟩ := Option.bind_eq_some_iff.mp hget
  exact distinct_walk? (h name start hstart) hwalk

end

end Environment

namespace Resolution

section
variable {mode : UnresolvedMode} {directory : Directory} {app : String} {s s' : Session}

theorem ofText_distinct {expression : String} {found : Option Json}
    (h : Runs (ofText directory app expression) s found s') (hs : s.env.Distinct) :
    s'.env.Distinct ∧ ∀ value, found = some value → value.Distinct := by
  cases ofText_yields.mp h with
  | literal => exact ⟨hs, by rintro _ ⟨⟩; trivial⟩
  | missing => exact ⟨hs, nofun⟩
  | value _ hv => exact ⟨hs, by rintro _ ⟨⟩; exact hs.lookup? hv⟩
  | personal _ _ _ hid =>
    rcases personId_runs.mp hid with ⟨hknown, rfl⟩ | ⟨-, -, person, -, -, rfl, rfl⟩
    · refine ⟨hs, ?_⟩
      rintro _ ⟨⟩
      exact hs _ _ (Option.filter_eq_some_iff.mp hknown).1
    · exact ⟨hs.put trivial, by rintro _ ⟨⟩; trivial⟩

theorem ofReferences_distinct {references : List String} {values : Members Json}
    (h : Runs (ofReferences mode directory app references) s values s') (hs : s.env.Distinct) :
    ∀ entry ∈ values, entry.2.Distinct := by
  induction references generalizing s values with
  | nil =>
    obtain ⟨rfl, -⟩ := runs_pure.mp h
    exact nofun
  | cons reference rest ih =>
    obtain ⟨value, mid, hvalue, h⟩ := runs_bind.mp h
    obtain ⟨others, last, hothers, h⟩ := runs_bind.mp h
    obtain ⟨rfl, rfl⟩ := runs_pure.mp h
    obtain ⟨found, hfound, rfl, -⟩ := ofReference_runs.mp hvalue
    obtain ⟨hmid, hdistinct⟩ := ofText_distinct hfound hs
    have hown : (found.getD .null).Distinct := by
      cases found with
      | none => trivial
      | some own => exact hdistinct own rfl
    exact List.forall_mem_cons.mpr ⟨hown, ih hothers hmid⟩

end

end Resolution

-- ---------------------------------------------------------------------------
-- Fragments
-- ---------------------------------------------------------------------------

theorem Json.distinct_replace {values : Members Json} (hvalues : ∀ entry ∈ values, entry.2.Distinct)
    {value : Json} (h : value.Distinct) : (value.replace values).Distinct := by
  induction value using Json.induct with
  | string text =>
    rw [replace]
    cases hget : values.get? text with
    | none => trivial
    | some found => exact hvalues _ (Members.mem_of_get? hget)
  | array items ih =>
    rw [replace, replaceIn_eq]
    refine distinctItems_iff.mpr fun result hr => ?_
    obtain ⟨item, hi, rfl⟩ := List.mem_map.mp hr
    exact ih item hi (distinctItems_iff.mp h item hi)
  | _ => exact h

namespace Query

theorem distinct_iff_literals :
    (∀ q : Query, q.Keyed → (q.Distinct ↔ ∀ value ∈ q.literals, value.Distinct)) ∧
      ∀ node : Node, ∀ key, node.Keyed key →
        (node.Distinct ↔ ∀ value ∈ node.literals, value.Distinct) := by
  refine induct (fun own key hk => ?_) (fun q ih key hk => ?_) (fun op children ih key hk => ?_)
    fun clauses ih hk => ?_
  · simp [Node.Distinct, Node.literals]
  · rw [Node.Distinct, Node.literals, ih hk.2]
  · have hchildren := (keyed_group.mp hk).2
    simp only [distinct_group, mem_literals_group]
    constructor
    · rintro h value ⟨child, hc, hv⟩
      exact (ih child hc (hchildren child hc)).mp (h child hc) value hv
    · intro h child hc
      exact (ih child hc (hchildren child hc)).mpr fun value hv => h value ⟨child, hc, hv⟩
  · obtain ⟨hd, hkeys⟩ := keyed_iff.mp hk
    simp only [distinct_iff, mem_literals, and_iff_right hd]
    constructor
    · rintro h value ⟨clause, hc, hv⟩
      exact (ih clause hc clause.1 (hkeys clause hc)).mp (h clause hc) value hv
    · intro h clause hc
      exact (ih clause hc clause.1 (hkeys clause hc)).mpr fun value hv => h value ⟨clause, hc, hv⟩

theorem WellFormed.replace {q : Query} {values : Members Json} (hq : q.WellFormed)
    (hvalues : ∀ entry ∈ values, entry.2.Distinct) :
    (q.mapLiterals (Json.replace values)).WellFormed := by
  have hk := (keyed_mapLiterals (Json.replace values)).1 q hq.keyed
  refine ⟨hk, (distinct_iff_literals.1 _ hk).mpr fun value hv => ?_⟩
  obtain ⟨own, ho, rfl⟩ := ((mem_mapLiterals _ _).1 q).mp hv
  exact Json.distinct_replace hvalues ((distinct_iff_literals.1 q hq.keyed).mp hq.distinct own ho)

end Query

theorem Json.lower?_wellFormed {fragment : Json} {lowered : Query} (hd : fragment.Distinct)
    (h : fragment.lower? = .ok (some lowered)) : lowered.WellFormed := by
  have hk := (Json.lower?_objectless h).1
  obtain ⟨q, hread, hlower⟩ := Json.lower?_eq_some_iff.mp h
  have hq := Query.ofJson_wellFormed hd hread
  refine ⟨hk, (Query.distinct_iff_literals.1 _ hk).mpr fun value hv => ?_⟩
  exact (Query.distinct_iff_literals.1 q hq.keyed).mp hq.distinct value
    ((Query.lower_literals hq.keyed hlower).2 hv)

-- ---------------------------------------------------------------------------
-- Judging
-- ---------------------------------------------------------------------------

/-- No object in the rule's document repeats a name, where that makes a difference. -/
structure QueryRule.Distinct (rule : QueryRule) : Prop where
  query : rule.query.Distinct
  env : ∀ binding ∈ rule.env, binding.2.Distinct

theorem MatchedPolicy.distinct_toJson {p : MatchedPolicy} (h : p.toJson.Distinct) :
    (∀ binding ∈ p.env, binding.2.Distinct) ∧ ∀ rule ∈ p.rules, rule.Distinct := by
  have hmembers := (Json.distinct_object.mp h).2
  have henv := hmembers ("env", .object p.env) (by simp)
  have hrules := hmembers ("rules", .array (p.rules.map QueryRule.toJson)) (by simp)
  refine ⟨(Json.distinct_object.mp henv).2, fun rule hr => ?_⟩
  have hrule := Json.distinctItems_iff.mp hrules _ (List.mem_map_of_mem hr)
  have hmembers := (Json.distinct_object.mp hrule).2
  exact ⟨hmembers ("query", rule.query) (by simp),
    (Json.distinct_object.mp (hmembers ("env", .object rule.env) (by simp))).2⟩

namespace Bench

/-- No object repeats a name, in the environment or in what rules that applied have
to say. -/
structure Sound (p : Proceedings) : Prop where
  env : p.session.env.Distinct
  fragments : ∀ r ∈ p.rulings, ∀ fragment, r.fragment? = some fragment → fragment.WellFormed

section
variable {b : Bench} {p p' : Proceedings}

theorem verdict_wellFormed {rule : QueryRule} {s s' : Session} {v : Verdict}
    (hrule : rule.Distinct) (h : Runs (b.verdict rule) s v s') (hs : s.env.Distinct) :
    s'.env.Distinct ∧ ∀ fragment, v = .applies (some fragment) → fragment.WellFormed := by
  have hasks : Inquiry.AsksKeep b.directory b.app fun s => s.env.Distinct :=
    fun h hs => (Resolution.ofText_distinct h hs).1
  constructor
  · exact Inquiry.verdict_keeps hasks (fun hs => hs.bind hrule.env) h hs
  · rintro fragment rfl
    obtain ⟨mid, hholds, happlies⟩ := verdict_applies_runs.mp h
    have hmid : mid.env.Distinct := Inquiry.allHold_keeps hasks hholds (hs.bind hrule.env)
    cases hlower : rule.query.lower? with
    | error source => simp [hlower] at happlies
    | ok lowered =>
      cases lowered with
      | none => simp [hlower] at happlies
      | some lowered =>
        simp only [hlower, Option.some.injEq] at happlies
        obtain ⟨substituted, hsubstituted, rfl⟩ := happlies
        obtain ⟨values, next, hvalues, h⟩ := runs_bind.mp hsubstituted
        obtain ⟨rfl, -⟩ := runs_pure.mp h
        have hlowered : lowered.pruned.WellFormed :=
          (Json.lower?_wellFormed hrule.query hlower).of_sublist List.filter_sublist
        exact hlowered.replace (Resolution.ofReferences_distinct hvalues hmid)

theorem rules_sound {policy : String} {index : Nat} {rules : List QueryRule} {vs : List Verdict}
    (hrules : ∀ rule ∈ rules, rule.Distinct) (h : Runs (b.rules policy index rules) p vs p')
    (hp : Sound p) : Sound p' := by
  induction rules generalizing index p vs with
  | nil => exact (runs_pure.mp h).2 ▸ hp
  | cons rule rest ih =>
    obtain ⟨hrule, hrest⟩ := List.forall_mem_cons.mp hrules
    obtain ⟨v, next, hruns, others, hothers, rfl⟩ := rules_cons_runs.mp h
    obtain ⟨hv, hrulings, -⟩ := rule_runs.mp hruns
    obtain ⟨henv, hfragment⟩ := verdict_wellFormed hrule hv hp.env
    refine ih hrest hothers ⟨henv, fun r hr fragment hf => ?_⟩
    rw [hrulings] at hr
    rcases List.mem_append.mp hr with hr | hr
    · exact hp.fragments r hr fragment hf
    · obtain rfl := List.mem_singleton.mp hr
      refine hfragment fragment ?_
      unfold Ruling.fragment? at hf
      cases v with
      | applies own => exact congrArg Verdict.applies hf
      | _ => cases hf

theorem policies_sound {policies : List MatchedPolicy} (hd : ∀ p ∈ policies, p.toJson.Distinct)
    (h : Runs (b.policies policies) p () p') (hp : Sound p) : Sound p' := by
  induction policies generalizing p with
  | nil => exact (runs_pure.mp h).2 ▸ hp
  | cons policy rest ih =>
    obtain ⟨hpolicy, hrest⟩ := List.forall_mem_cons.mp hd
    obtain ⟨henv, hrules⟩ := MatchedPolicy.distinct_toJson hpolicy
    obtain ⟨next, hfirst, hothers⟩ := policies_cons_runs.mp h
    obtain ⟨vs, hruns, -⟩ := policy_runs.mp hfirst
    exact ih hrest hothers (rules_sound hrules hruns ⟨hp.env.bind henv, hp.fragments⟩)

theorem Stopped.sound {policies heard : List MatchedPolicy} {rulings : List Ruling}
    {e : PolicyError} (hd : ∀ p ∈ policies, p.toJson.Distinct)
    (h : b.Stopped p policies heard rulings e) (hp : Sound p) :
    ∀ r ∈ rulings, ∀ fragment, r.fragment? = some fragment → fragment.WellFormed := by
  have hat : ∀ (before after : List MatchedPolicy) (policy : MatchedPolicy) (done : List QueryRule)
      (mid last : Proceedings) (vs : List Verdict), policies = before ++ policy :: after →
      done ⊆ policy.rules → Runs (b.policies before) p () mid →
      Runs (b.rules policy.name 0 done)
        { mid with session := mid.session.layered policy.env } vs last → Sound last := by
    intro before after policy done mid last vs he hsub hbefore hdone
    have hmem : ∀ own ∈ before ++ [policy], own ∈ policies := by
      intro own ho
      rw [he]
      simp only [List.mem_append, List.mem_cons, List.not_mem_nil, or_false] at ho ⊢
      exact ho.imp_right .inl
    obtain ⟨henv, hrules⟩ := MatchedPolicy.distinct_toJson (hd policy (hmem policy (by simp)))
    have hmid := policies_sound (fun own ho => hd own (hmem own (by simp [ho]))) hbefore hp
    exact rules_sound (fun rule hr => hrules rule (hsub hr)) hdone
      ⟨hmid.env.bind henv, hmid.fragments⟩
  cases h with
  | @atRule before after policy done rest rule mid last vs e hpolicies hrules hbefore hdone hbalks =>
    refine (hat before after policy done mid last vs hpolicies ?_ hbefore hdone).fragments
    rw [hrules]
    exact List.subset_append_left ..
  | @atEnd before after policy mid last vs source hpolicies hbefore hall hfault =>
    exact (hat before after policy policy.rules mid last vs hpolicies (List.Subset.refl _) hbefore
      hall).fragments

end

end Bench

/-- Accumulating once more what has been accumulated changes nothing, whether
judging came to its end or stopped: the same is reported, or the same failure, and
the context stays as it was left. -/
theorem RequestContext.accumulate_again (ctx : RequestContext) (config : Config)
    (directory : Directory) {policies : List MatchedPolicy}
    (hd : ∀ p ∈ policies, p.toJson.Distinct) :
    let first := ctx.accumulate config directory policies
    first.context.accumulate config directory policies = first := by
  intro first
  have hstart : Bench.Sound ⟨⟨Environment.forUser ctx.userId?, 0⟩, []⟩ :=
    ⟨Environment.distinct_forUser _, nofun⟩
  cases hrun : (Bench.policies ⟨config, directory, ctx.app⟩ policies).run.run
      ⟨⟨Environment.forUser ctx.userId?, 0⟩, []⟩ with
  | mk result last =>
    -- Rulings depend on the user and the app alone.
    have hsame : ∀ other : RequestContext, other.user = ctx.user → other.app = ctx.app →
        other.accumulate config directory policies =
          ⟨result.map fun _ => Ruling.report last.rulings, other.gather last.rulings,
            last.session.lookups⟩ := by
      intro other huser happ
      have huserId : other.userId? = ctx.userId? := congrArg (Option.map Principal.id) huser
      unfold accumulate
      simp only [huserId, happ, hrun]
    have hsound : ∀ r ∈ last.rulings, ∀ fragment, r.fragment? = some fragment →
        fragment.WellFormed := by
      cases result with
      | ok _ => exact (Bench.policies_sound hd hrun hstart).fragments
      | error e =>
        obtain ⟨heard, hstopped⟩ := Bench.stopped_iff.mp ⟨last.session, hrun⟩
        exact hstopped.sound hd hstart
    have hfirst : first = _ := hsame ctx rfl rfl
    have hframe := gather_frame ctx last.rulings
    rw [hfirst, hsame (ctx.gather last.rulings) (by rw [hframe]) (by rw [hframe]),
      gather_again hsound]

/-- A status that is overwritten, a region that is kept, and alternatives that
stand twice; then a policy is broken. -/
theorem RequestContext.accumulate_again_broken :
    let policies : List MatchedPolicy := [
      ⟨"p", [], [
        .ofQuery (.object [("status", .string "x"), ("region", .string "eu")]),
        .ofQuery (.object [("$or", .array [.object [("a", .null)], .object [("a", .null)]])]),
        .ofQuery (.object [("status", .string "y")])]⟩,
      ⟨"q", [], [.ofQuery (.object [("tags", .array [.string "a"])])]⟩]
    let first := (RequestContext.ofApp "app").accumulate .default (.ofStore .empty) policies
    (∀ p ∈ policies, p.toJson.Distinct) ∧
      first.result = .error (.lowering "q" (.arrayUnderField "tags")) ∧
      first.context.accessQuery = some (((Query.ofField "status" (.string "y")).put "region"
        (.literal (.string "eu"))).insertGroup .or
          [Query.ofField "a" .null, Query.ofField "a" .null]) ∧
      first.context.accumulate .default (.ofStore .empty) policies = first := by
  intro policies first
  have hd : ∀ p ∈ policies, p.toJson.Distinct := by
    simp [policies, MatchedPolicy.toJson, QueryRule.toJson, QueryRule.ofQuery, Json.member,
      Json.distinct_object, Json.Distinct, Json.DistinctItems, Json.DistinctMembers,
      Members.Distinct, Members.names]
  exact ⟨hd, by rfl, by rfl, accumulate_again _ _ _ hd⟩

end QueryGuard
