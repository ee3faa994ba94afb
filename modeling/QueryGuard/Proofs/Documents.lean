import QueryGuard.Proofs.Accounting
import QueryGuard.Proofs.Folding
import QueryGuard.Proofs.Inquiry
import QueryGuard.Proofs.Substituting

/-!
# Accumulated queries as documents

An accumulated query is keyed, but an object may have been put in for a reference,
and documents have no such operands. `accumulate_reads_back_iff` says when the
query is read back from the document that it is written as, in terms of the
clauses that last and of the references in them.
-/

namespace QueryGuard

namespace Bench

variable {b : Bench} {s s' : Session}

theorem Meets.undisturbed {conditions : List Condition} (h : b.Meets s conditions s') :
    s.Undisturbed s' := by
  have hasks : Inquiry.AsksKeep b.directory b.app s.Undisturbed :=
    fun h hs => hs.trans (Resolution.ofText_denotes h).2
  exact Inquiry.allHold_keeps hasks (allHold_true_runs.mpr h) (.refl s)

end Bench

namespace Hearing

/-- The environment in which a rule is judged. -/
def bound (hearing : Hearing) : Environment := hearing.before.bind hearing.rule.env

theorem Just.bears {b : Bench} {hearing : Hearing} {fragment : Query} (h : hearing.Just b)
    (hv : hearing.ruling.verdict = .applies (some fragment)) :
    fragment.Keyed ∧ ∃ lowered, hearing.rule.query.lower? = .ok (some lowered) ∧
      ∀ key, fragment.Bears key ↔ ∃ node, lowered.pruned.get? key = some node ∧
        ∃ text members, .string text ∈ node.literals ∧ hearing.bound.Denotes text members := by
  obtain ⟨n, m, hjust⟩ := h
  obtain ⟨mid, hmeets, hfragment⟩ := (hjust.applies _).mp hv
  cases hlower : hearing.rule.query.lower? with
  | error source => simp [hlower] at hfragment
  | ok lowered =>
    cases lowered with
    | none => simp [hlower] at hfragment
    | some lowered =>
      simp only [hlower, Option.some.injEq] at hfragment
      obtain ⟨substituted, last, hsubstituted, rfl⟩ := hfragment
      obtain ⟨values, next, hvalues, h⟩ := runs_bind.mp hsubstituted
      obtain ⟨rfl, -⟩ := runs_pure.mp h
      obtain ⟨hkeyed, hobjectless⟩ := Json.lower?_objectless hlower
      refine ⟨(Query.keyed_mapLiterals _).1 _ hkeyed.pruned, lowered, rfl, fun key => ?_⟩
      unfold Query.Bears
      rw [Query.get?_mapLiterals]
      cases hnode : lowered.pruned.get? key with
      | none => simp
      | some node =>
        have hm := Query.mem_of_get? hnode
        have hnodeless := Query.objectless_iff.mp hobjectless.pruned _ hm
        simp only [Option.map_some, Option.some.injEq, exists_eq_left',
          Query.objectless_replace hnodeless, Resolution.ofReferences_denotes hvalues]
        refine exists_congr fun text => exists_congr fun members => and_congr_right fun ht => ?_
        rw [hmeets.undisturbed text members]
        refine and_iff_right_of_imp fun hdenotes => ?_
        obtain ⟨path, value, hpath, -⟩ := hdenotes
        exact Query.mem_references (Query.mem_literals.mpr ⟨_, hm, ht⟩) (by simp [hpath])

end Hearing

-- ---------------------------------------------------------------------------
-- Accumulated queries
-- ---------------------------------------------------------------------------

namespace RequestContext

/-- An accumulated query is keyed. It is read back from its document exactly if no
clause that lasts has an object among its operands, and otherwise nothing that is
the same is read; a clause has one where it refers to one. -/
theorem accumulate_reads_back_iff {ctx : RequestContext} {config : Config} {directory : Directory}
    {policies : List MatchedPolicy} {report : Report} {q : Query}
    (hok : (ctx.accumulate config directory policies).result = .ok report)
    (hfresh : ctx.accessQuery = none)
    (hq : (ctx.accumulate config directory policies).context.accessQuery = some q) :
    let trials := ctx.trials config directory policies
    let rulings := trials.flatMap fun t => t.hearings.map Hearing.ruling
    let fragments := rulings.filterMap Ruling.fragment?
    q.Keyed ∧
      (Query.ofJson q.toJson = .ok q ↔
        ∀ key node, Query.Lasts fragments key node → node.Objectless) ∧
      (Query.ofJson q.toJson ≠ .ok q →
        ∀ read, Query.ofJson q.toJson = .ok read → read.same q = false) ∧
      ∀ t ∈ trials, ∀ hearing ∈ t.hearings, ∀ fragment,
        hearing.ruling.verdict = .applies (some fragment) →
          ∃ lowered, hearing.rule.query.lower? = .ok (some lowered) ∧
            ∀ key, fragment.Bears key ↔ ∃ node, lowered.pruned.get? key = some node ∧
              ∃ text members, .string text ∈ node.literals ∧ hearing.bound.Denotes text members := by
  intro trials rulings fragments
  obtain ⟨p, hruns, -⟩ := accumulate_eq_ok_iff.mp hok
  obtain ⟨-, -, hrulings⟩ := Bench.trials_of_runs hruns
  have hrulings : p.rulings = rulings := hrulings
  have hfolded : fragments.foldl Query.foldAll Query.empty = q := by
    rw [accumulate_context hruns, hrulings] at hq
    simpa [hq, hfresh] using (gather_accessQuery ctx rulings).symm
  have hjust : ∀ t ∈ trials, ∀ hearing ∈ t.hearings, hearing.Just ⟨config, directory, ctx.app⟩ :=
    fun t ht hearing hm => Bench.just_of_mem_trials ht hm
  have hkeyed : ∀ fragment ∈ fragments, fragment.Keyed := by
    intro fragment hf
    obtain ⟨ruling, hr, hfragment⟩ := List.mem_filterMap.mp hf
    obtain ⟨t, ht, hr⟩ := List.mem_flatMap.mp hr
    obtain ⟨hearing, hm, rfl⟩ := List.mem_map.mp hr
    unfold Ruling.fragment? at hfragment
    split at hfragment
    next own hv => exact ((hjust t ht hearing hm).bears (hfragment ▸ hv)).1
    · cases hfragment
  have hkeyed' : q.Keyed := hfolded ▸ (Query.folding_bears hkeyed Query.keyed_empty).1
  have hiff : Query.ofJson q.toJson = .ok q ↔ q.Objectless := by
    rw [Query.ofJson_toJson_iff, and_iff_right hkeyed']
  refine ⟨hkeyed', ?_, ?_, ?_⟩
  · rw [hiff, ← hfolded]
    exact Query.objectless_iff_lasts hkeyed
  · intro hlost read hread
    exact Query.ofJson_not_same hkeyed' (hiff.not.mp hlost) hread
  · intro t ht hearing hm fragment hv
    exact ((hjust t ht hearing hm).bears hv).2

end RequestContext

/-- Binds a team, and has rules for the team as a whole and for its id. -/
def MatchedPolicy.teamwork : MatchedPolicy :=
  ⟨"p", [("team", .object [("id", .string "t-1")])],
    [.ofQuery (.object [("team", .string "env.team")]),
      .ofQuery (.object [("team", .string "env.team.id")])]⟩

theorem RequestContext.accumulate_reads_back_teamwork :
    let ctx := RequestContext.ofApp "app"
    let trials := ctx.trials .default (.ofStore .empty) [.teamwork]
    let fragments := (trials.flatMap fun t => t.hearings.map Hearing.ruling).filterMap
      Ruling.fragment?
    (ctx.accumulate .default (.ofStore .empty) [.teamwork]).result = .ok ⟨[("p", 0), ("p", 1)], []⟩ ∧
      (ctx.accumulate .default (.ofStore .empty) [.teamwork]).context.accessQuery =
        some (Query.ofField "team" (.string "t-1")) ∧
      ¬(∀ fragment ∈ fragments, fragment.Objectless) ∧
      ∀ key node, Query.Lasts fragments key node → node.Objectless := by
  intro ctx trials fragments
  have hresult : (ctx.accumulate .default (.ofStore .empty) [.teamwork]).result =
      .ok ⟨[("p", 0), ("p", 1)], []⟩ := by
    rfl
  have hquery : (ctx.accumulate .default (.ofStore .empty) [.teamwork]).context.accessQuery =
      some (Query.ofField "team" (.string "t-1")) := by
    rfl
  have hfragments : fragments = [Query.ofField "team" (.object [("id", .string "t-1")]),
      Query.ofField "team" (.string "t-1")] := by
    rfl
  obtain ⟨-, hiff, -⟩ := accumulate_reads_back_iff hresult rfl hquery
  refine ⟨hresult, hquery, ?_, hiff.mp (by rfl)⟩
  rw [hfragments]
  intro hall
  have hteam := hall _ List.mem_cons_self (.object [("id", .string "t-1")]) List.mem_cons_self
  cases hteam

/-- A team that is put in as an operand is read back as a constraint. -/
theorem RequestContext.accumulate_not_read_back :
    let ctx := RequestContext.ofApp "app"
    let left := ctx.accumulate .default (.ofStore .empty)
      [⟨"p", [("team", .object [("id", .string "t-1")])],
        [.ofQuery (.object [("team", .string "env.team")])]⟩]
    ∃ q read, left.result = .ok ⟨[("p", 0)], []⟩ ∧ left.context.accessQuery = some q ∧
      Query.ofJson q.toJson = .ok read ∧ read.same q = false := by
  refine ⟨Query.ofField "team" (.object [("id", .string "t-1")]),
    Query.ofClauses [("team", .constraint (Query.ofField "id" (.string "t-1")))], ?_, ?_, ?_, ?_⟩
  · rfl
  · rfl
  · rfl
  · cbv

end QueryGuard
