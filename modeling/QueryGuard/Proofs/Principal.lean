import QueryGuard.Proofs.Derivation
import QueryGuard.Proofs.Documents

/-!
# The id of the user

The environment starts with the id of the user, and keeps it where no policy binds
that name. A reference to it is given the id as it is, unless the id is the text
that serves as the sentinel: such a user is given the id of the person instead
(`accumulate_principal_iff`).
-/

namespace QueryGuard

namespace Resolution

open Environment

section
variable {directory : Directory} {app expression user : String} {base : Environment}
  {s s' : Session} {found : Option Json}

theorem ofText_keeps_user (h : Runs (ofText directory app expression) s found s') :
    s'.env.get? userKey = s.env.get? userKey :=
  (ofText_keeping (.refl s.env) h).values userKey (by decide)

theorem ofText_user (hkeeping : Keeping directory app base.userId? s.env base)
    (huser : base.get? userKey = some (.string user))
    (h : Runs (ofText directory app "env.authUserId") s found s') :
    found.getD .null = .string user ↔ (user = personKey →
      base.personId? = none ∧ directory.Links app (some user) (.string user)) := by
  have hpath : reference? "env.authUserId" = some userKey := by rfl
  have hlookup : s.env.lookup? userKey = some (.string user) := by
    rw [lookup?_name (by rfl), hkeeping.values userKey (by decide), huser]
  have hbase : base.userId? = some user := by simp [userId?, huser, Json.asString?]
  cases ofText_yields.mp h with
  | literal hown => cases hpath.symm.trans hown
  | missing hown hv =>
    cases hpath.symm.trans hown
    cases hlookup.symm.trans hv
  | value hown hv hs =>
    cases hpath.symm.trans hown
    cases hlookup.symm.trans hv
    refine iff_of_true rfl ?_
    rintro rfl
    simp [isSentinel] at hs
  | @personal _ _ id _ hown hv hs hid =>
    cases hpath.symm.trans hown
    cases hlookup.symm.trans hv
    obtain rfl : user = personKey := by simpa [isSentinel] using hs
    rw [Option.getD_some, forall_prop_of_true rfl, ← hbase]
    cases hknown : base.personId? with
    | none =>
      have hlinked := personId_linked hkeeping hknown hid
      constructor
      · rintro rfl
        exact ⟨rfl, hlinked⟩
      · rintro ⟨-, hown⟩
        exact hlinked.unique hown
    | some known =>
      -- An id that is known is not the sentinel.
      obtain rfl := personId_bound hkeeping hknown hid
      refine iff_of_false ?_ (by simp)
      rintro rfl
      have hfilter := (Option.filter_eq_some_iff.mp hknown).2
      simp [isSentinel] at hfilter

end

end Resolution

-- ---------------------------------------------------------------------------
-- Where rules are judged
-- ---------------------------------------------------------------------------

theorem Bench.bound_keeps (keeps : Environment → Prop) {b : Bench} {policies : List MatchedPolicy}
    {p p' : Proceedings} (h : Runs (b.policies policies) p () p')
    (hasks : Inquiry.AsksKeep b.directory b.app fun s => keeps s.env)
    (hlayers : ∀ policy ∈ policies, (∀ env, keeps env → keeps (env.bind policy.env)) ∧
      ∀ rule ∈ policy.rules, ∀ env, keeps env → keeps (env.bind rule.env))
    (hs : keeps p.session.env) :
    ∀ t ∈ b.trials p.session policies, ∀ hearing ∈ t.hearings, keeps hearing.bound := by
  obtain ⟨htried, hheard, -⟩ := trials_of_runs h
  obtain ⟨-, hthreaded, -⟩ := trials_accounts h
  have hpolicy : ∀ t ∈ b.trials p.session policies, t.policy ∈ policies :=
    fun t ht => htried ▸ List.mem_map_of_mem ht
  have hrule : ∀ t ∈ b.trials p.session policies, ∀ hearing ∈ t.hearings, ∀ env,
      keeps env → keeps (env.bind hearing.rule.env) := by
    intro t ht hearing hm
    exact (hlayers _ (hpolicy t ht)).2 _ (hheard t ht ▸ List.mem_map_of_mem hm)
  have hbefore := hthreaded.keeps (fun t ht => (hlayers _ (hpolicy t ht)).1) ?_ hs
  · exact fun t ht hearing hm => hrule t ht hearing hm _ (hbefore t ht hearing hm)
  · intro t ht hearing hm hs
    obtain ⟨n, m, hruns⟩ := runs_of_mem_trials ht hm
    exact Inquiry.verdict_keeps hasks (fun hs => hrule t ht hearing hm _ hs) hruns hs

theorem Hearing.user_iff {b : Bench} {hearing : Hearing} {fragment : Query} {user : String}
    {n m : Nat} (h : Runs (b.verdict hearing.rule) ⟨hearing.before, n⟩ (.applies (some fragment))
      ⟨hearing.after, m⟩)
    (huser : hearing.bound.get? Environment.userKey = some (.string user)) :
    ∃ lowered image, hearing.rule.query.lower? = .ok (some lowered) ∧
      lowered.pruned.Replaced image fragment ∧
      (lowered.pruned.Mentions "env.authUserId" →
        (image "env.authUserId" = .string user ↔ (user = Environment.personKey →
          hearing.bound.personId? = none ∧
            b.directory.Links b.app (some user) (.string user)))) := by
  obtain ⟨next, hholds, happlies⟩ := Bench.verdict_applies_runs.mp h
  have hasks : Inquiry.AsksKeep b.directory b.app fun s =>
      Keeping b.directory b.app hearing.bound.userId? s.env hearing.bound :=
    fun h hs => Resolution.ofText_keeping hs h
  have hkeeping := Inquiry.allHold_keeps hasks hholds (.refl hearing.bound)
  cases hlower : hearing.rule.query.lower? with
  | error source => simp [hlower] at happlies
  | ok lowered =>
    cases lowered with
    | none => simp [hlower] at happlies
    | some lowered =>
      simp only [hlower, Option.some.injEq] at happlies
      obtain ⟨substituted, hsubstituted, rfl⟩ := happlies
      obtain ⟨image, hresolves, hreplaced⟩ := Resolution.substitute_runs.mp hsubstituted
      refine ⟨lowered, image, rfl, hreplaced, fun hmentions => ?_⟩
      have hreference := Query.mem_references_iff.mpr ⟨hmentions, by decide⟩
      obtain ⟨before, after, he⟩ := List.append_of_mem hreference
      rw [he] at hresolves
      obtain ⟨mid, last, found, hbefore, hown, hvalue, -⟩ := hresolves.split
      rw [hvalue]
      exact Resolution.ofText_user (hbefore.keeping hkeeping) huser hown

/-- Neither the policy nor any of its rules binds the user. -/
def MatchedPolicy.LeavesUser (p : MatchedPolicy) : Prop :=
  Environment.userKey ∉ Members.names p.env ∧
    ∀ rule ∈ p.rules, Environment.userKey ∉ Members.names rule.env

/-- Lets users see what they own. -/
def MatchedPolicy.owning : MatchedPolicy :=
  ⟨"p", [], [.ofQuery (.object [("owner", .string "env.authUserId")])]⟩

namespace RequestContext

/-- Where policies do not bind the user, each reference to the user is given the
user's id as it is, unless the id is the text of the sentinel: then that is so only
if the person has not been bound and is linked under the same text. -/
theorem accumulate_principal_iff {ctx : RequestContext} {config : Config} {directory : Directory}
    {policies : List MatchedPolicy} {report : Report} {user : String}
    (huser : ctx.userId? = some user)
    (hunbound : ∀ p ∈ policies, p.LeavesUser)
    (h : (ctx.accumulate config directory policies).result = .ok report) :
    ∀ t ∈ ctx.trials config directory policies, ∀ hearing ∈ t.hearings, ∀ fragment,
      hearing.ruling.verdict = .applies (some fragment) →
        ∃ lowered image, hearing.rule.query.lower? = .ok (some lowered) ∧
          lowered.pruned.Replaced image fragment ∧
          (lowered.pruned.Mentions "env.authUserId" →
            (image "env.authUserId" = .string user ↔ (user = Environment.personKey →
              hearing.bound.personId? = none ∧
                directory.Links ctx.app (some user) (.string user)))) := by
  intro t ht hearing hm fragment hv
  obtain ⟨p, hpolicies, -⟩ := accumulate_eq_ok_iff.mp h
  obtain ⟨n, m, hruns⟩ := Bench.runs_of_mem_trials ht hm
  rw [hv] at hruns
  refine Hearing.user_iff hruns (Bench.bound_keeps
    (fun env => env.get? Environment.userKey = some (.string user)) hpolicies ?_ ?_ ?_ t ht hearing
    hm)
  · exact fun h hs => (Resolution.ofText_keeps_user h).trans hs
  · intro policy hp
    obtain ⟨henv, hrules⟩ := hunbound policy hp
    refine ⟨fun env hs => (Environment.get?_bind_of_not_mem henv env).trans hs, ?_⟩
    intro rule hr env hs
    exact (Environment.get?_bind_of_not_mem (hrules rule hr) env).trans hs
  · rw [huser]
    rfl

theorem leavesUser_owning : MatchedPolicy.owning.LeavesUser := by
  simp [MatchedPolicy.LeavesUser, MatchedPolicy.owning, QueryRule.ofQuery, Members.names]

theorem accumulate_principal_owning :
    let ctx := { RequestContext.ofApp "app" with user := some (.ofId "u-1") }
    let directory := Directory.ofStore ⟨[.linked]⟩
    (ctx.accumulate .default directory [.owning]).result = .ok ⟨[("p", 0)], []⟩ ∧
      ∃ t ∈ ctx.trials .default directory [.owning], ∃ hearing ∈ t.hearings, ∃ fragment image,
        hearing.ruling.verdict = .applies (some fragment) ∧
        (Query.ofField "owner" (.string "env.authUserId")).Replaced image fragment ∧
        image "env.authUserId" = .string "u-1" := by
  intro ctx directory
  have hresult : (ctx.accumulate .default directory [.owning]).result = .ok ⟨[("p", 0)], []⟩ := by
    rfl
  have htrials : ctx.trials .default directory [.owning] =
      [⟨.owning, [⟨.ofQuery (.object [("owner", .string "env.authUserId")]),
        ⟨"p", 0, none, .applies (some (Query.ofField "owner" (.string "u-1")))⟩,
        ⟨[("authUserId", .string "u-1")]⟩, ⟨[("authUserId", .string "u-1")]⟩, false⟩]⟩] := by
    rfl
  have hunbound : ∀ p ∈ [MatchedPolicy.owning], p.LeavesUser :=
    List.forall_mem_singleton.mpr leavesUser_owning
  have hiff := accumulate_principal_iff rfl hunbound hresult
  rw [htrials] at hiff ⊢
  obtain ⟨lowered, image, hlower, hreplaced, huser⟩ :=
    hiff _ List.mem_cons_self _ List.mem_cons_self _ rfl
  obtain rfl : Query.ofField "owner" (.string "env.authUserId") = lowered :=
    Option.some.inj (Except.ok.inj hlower)
  refine ⟨hresult, _, List.mem_cons_self, _, List.mem_cons_self, _, image, rfl, hreplaced, ?_⟩
  refine (huser (.clause List.mem_cons_self (.literal .text))).mpr fun he => ?_
  exact absurd he (by decide)

/-- A user whose id is the text of the sentinel is given the person's id instead. -/
theorem accumulate_principal_sentinel :
    let ctx := { RequestContext.ofApp "app" with user := some (.ofId "personId") }
    let directory := Directory.ofStore ⟨[{ Person.linked with auth := "personId" }]⟩
    MatchedPolicy.owning.LeavesUser ∧
      (ctx.accumulate .default directory [.owning]).result = .ok ⟨[("p", 0)], []⟩ ∧
      (ctx.accumulate .default directory [.owning]).context.accessQuery =
        some (Query.ofField "owner" (.string "p-1")) :=
  ⟨leavesUser_owning, by rfl, by rfl⟩

end RequestContext

end QueryGuard
