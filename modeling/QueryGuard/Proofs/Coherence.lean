import QueryGuard.Proofs.Expiry
import QueryGuard.Proofs.Isolation

/-!
# What the cache serves

The calls of a run are told with the policies that were stored when they were
made. From these `lastLoad?` finds the latest load of an app since its latest
invalidation, and `run_coherent` says that a look-up answers with what the app
listed then: not with what it lists now, unless nothing was loaded or the time
to live is over.
-/

namespace QueryGuard

-- ---------------------------------------------------------------------------
-- Listing
-- ---------------------------------------------------------------------------

namespace PolicyStore

theorem listActive_isListed {s : PolicyStore} {app : String} {p : Policy}
    (h : p ∈ s.listActive app) : isListed app p = true :=
  (List.mem_filter.mp (List.mem_mergeSort.mp h)).2

theorem listActive_ascending (s : PolicyStore) (app : String) :
    (s.listActive app).Pairwise fun p q => p.priority ≤ q.priority := by
  refine (List.pairwise_mergeSort ordered_trans ordered_total _).imp fun {p q} h => ?_
  rw [Int32.le_iff_toInt_le]
  rcases ordered_iff.mp h with h | ⟨h, -⟩
  · exact Int.le_of_lt h
  · exact Int.le_of_eq h

end PolicyStore

namespace PolicyCache

section
variable {c c' : PolicyCache} {store : PolicyStore} {now : Instant} {app : String}

theorem selected_listActive (store : PolicyStore) (app : String) :
    selected app (store.listActive app) = store.listActive app := by
  rw [selected, List.filter_eq_self.mpr fun p hm => PolicyStore.listActive_isListed hm]
  refine List.mergeSort_of_pairwise ?_
  exact (PolicyStore.listActive_ascending store app).imp fun h => by simpa using h

/-- The cache with what an app lists. -/
def loaded (c : PolicyCache) (store : PolicyStore) (now : Instant) (app : String) : PolicyCache :=
  { c with
    refreshes := c.refreshes + 1
    apps := if c.enabled then c.apps.put app ⟨store.listActive app, now⟩ else c.apps }

theorem refresh_ofStore (c : PolicyCache) (store : PolicyStore) (now : Instant) (app : String) :
    c.refresh (.ofStore store) now app = (.ok (store.listActive app), c.loaded store now app) := by
  simp only [refresh, PolicySource.ofStore, selected_listActive]
  rfl

theorem entry?_loaded (henabled : c.enabled = true) (store : PolicyStore) (now : Instant)
    (name app : String) : entry? (c.loaded store now name) app =
      if name = app then some ⟨store.listActive app, now⟩ else c.entry? app := by
  simp only [loaded, entry?, henabled, if_true, Members.get?_put]
  by_cases h : name = app
  · rw [if_pos h.symm, if_pos h, h]
  · rw [if_neg (Ne.symm h), if_neg h]

theorem policiesFor_ofStore : c.policiesFor (.ofStore store) now app =
    match c.entry? app with
    | none => some (.ok (store.listActive app),
        { c with misses := c.misses + 1 }.loaded store now app)
    | some entry => (entry.loadedAt.later? c.ttl).map fun last =>
        if last < now then
          (.ok (store.listActive app), { c with misses := c.misses + 1 }.loaded store now app)
        else (.ok entry.policies, { c with hits := c.hits + 1 }) := by
  unfold policiesFor isStale?
  rw [refresh_ofStore]
  cases c.entry? app with
  | none => rfl
  | some entry => simp only [Option.map_map, Function.comp_def, decide_eq_true_eq]

/-- Is the entry's time to live over? Not if its end cannot be reckoned. -/
def isOver (ttl : Int) (now : Instant) (entry : CachedApp) : Bool :=
  (entry.loadedAt.later? ttl).any (· < now)

theorem entry?_policiesFor (henabled : c.enabled = true) {name : String}
    {result : Except PolicyError (List Policy)}
    (h : c.policiesFor (.ofStore store) now name = some (result, c')) :
    c'.entry? app = if name = app then
      (Option.filter (fun entry => !isOver c.ttl now entry) <| c.entry? app).or
        (some ⟨store.listActive app, now⟩)
      else c.entry? app := by
  rw [policiesFor_ofStore] at h
  have hload := entry?_loaded (c := { c with misses := c.misses + 1 }) henabled store now name app
  cases hentry : c.entry? name with
  | none =>
    simp only [hentry, Option.some.injEq, Prod.mk.injEq] at h
    obtain ⟨-, rfl⟩ := h
    rw [hload]
    split
    next hname => rw [← hname, hentry]; rfl
    next => rfl
  | some entry =>
    simp only [hentry, Option.map_eq_some_iff] at h
    obtain ⟨last, hlast, h⟩ := h
    have hover : isOver c.ttl now entry = decide (last < now) := by rw [isOver, hlast]; rfl
    split at h
    next hlt =>
      obtain ⟨-, rfl⟩ := Prod.mk.inj h
      rw [hload]
      split
      next hname => simp [← hname, hentry, Option.filter_some, hover, hlt]
      next => rfl
    next hlt =>
      obtain ⟨-, rfl⟩ := Prod.mk.inj h
      -- What is served stays where it is.
      change c.entry? app = _
      split
      next hname => simp [← hname, hentry, Option.filter_some, hover, hlt]
      next => rfl

theorem entry?_invalidate (hd : Members.Distinct c.apps) (name app : String) :
    entry? (c.invalidate name) app = if name = app then none else c.entry? app := by
  unfold entry? invalidate
  dsimp only
  by_cases hname : name = app
  · rw [if_pos hname, ← hname, Members.get?_remove_self hd, ite_self]
  · rw [if_neg hname, Members.get?_remove_of_ne (Ne.symm hname)]

end

-- ---------------------------------------------------------------------------
-- Loads
-- ---------------------------------------------------------------------------

/-- A call, and the policies that were stored when it was made. -/
structure Moment where
  store : PolicyStore
  now : Instant
  call : Call

def Moment.event (m : Moment) : Event := ⟨m.now, .ofStore m.store, m.call⟩

/-- When an app was loaded, and from which policies. -/
structure Load where
  store : PolicyStore
  time : Instant

def Load.entry (app : String) (load : Load) : CachedApp := ⟨load.store.listActive app, load.time⟩

/-- The latest load of an app since its latest invalidation. Calls stand with the
latest first. A look-up loads where it finds nothing, or nothing but an entry
whose time to live is over. -/
def lastLoad? (ttl : Int) (app : String) : List Moment → Option Load
  | [] => none
  | m :: past =>
    let earlier := lastLoad? ttl app past
    match m.call with
    | .policiesFor name | .matchedPolicies name _ _ =>
      if name = app then
        (earlier.filter fun load => !isOver ttl m.now (load.entry app)).or (some ⟨m.store, m.now⟩)
      else earlier
    | .refresh name => if name = app then some ⟨m.store, m.now⟩ else earlier
    | .invalidate name => if name = app then none else earlier
    | .invalidateAll => none

/-- The entries are what the apps listed when they were last loaded. -/
structure Coherent (c : PolicyCache) (past : List Moment) : Prop where
  distinct : Members.Distinct c.apps
  entry : c.enabled = true → ∀ app,
    c.entry? app = (lastLoad? c.ttl app past).map (Load.entry app)

section
variable {c c' : PolicyCache} {m : Moment} {past : List Moment} {e : Event} {app : String}

theorem Coherent.looked_up (h : c.Coherent past) (henabled : c.enabled = true) {name : String}
    {result : Except PolicyError (List Policy)}
    (hc : c.policiesFor (.ofStore m.store) m.now name = some (result, c')) :
    c'.entry? app = (if name = app then
      ((lastLoad? c.ttl app past).filter fun load => !isOver c.ttl m.now (load.entry app)).or
        (some ⟨m.store, m.now⟩)
      else lastLoad? c.ttl app past).map (Load.entry app) := by
  rw [entry?_policiesFor henabled hc, h.entry henabled app]
  split
  next =>
    rw [Option.map_or, Option.filter_map]
    rfl
  next => rfl

theorem Coherent.call? (h : c.Coherent past) (hcall : c.call? m.event = some c') :
    c'.Coherent (m :: past) := by
  obtain ⟨httl, henabled, hdistinct, -⟩ := call?_descends hcall
  refine ⟨hdistinct h.distinct, fun hon app => ?_⟩
  rw [henabled] at hon
  have hentry := h.entry hon app
  rw [httl, lastLoad?]
  unfold PolicyCache.call? at hcall
  cases hm : m.call with
  | policiesFor name =>
    simp only [Moment.event, hm, Option.map_eq_some_iff] at hcall
    obtain ⟨⟨result, own⟩, hfor, rfl⟩ := hcall
    exact h.looked_up hon hfor
  | matchedPolicies name verb path =>
    simp only [Moment.event, hm, matchedPolicies, Option.map_map, Option.map_eq_some_iff] at hcall
    obtain ⟨⟨result, own⟩, hfor, rfl⟩ := hcall
    exact h.looked_up hon hfor
  | refresh name =>
    simp only [Moment.event, hm, refresh_ofStore, Option.some.injEq] at hcall
    subst hcall
    rw [entry?_loaded hon, hentry]
    by_cases hname : name = app <;> simp [hname, Load.entry]
  | invalidate name =>
    simp only [Moment.event, hm, Option.some.injEq] at hcall
    subst hcall
    rw [entry?_invalidate h.distinct, hentry]
    by_cases hname : name = app <;> simp [hname]
  | invalidateAll =>
    simp only [Moment.event, hm, Option.some.injEq] at hcall
    subst hcall
    exact ite_self none

theorem Coherent.entry?_eq (h : c.Coherent past) (app : String) : c.entry? app =
    (if c.enabled then lastLoad? c.ttl app past else none).map (Load.entry app) := by
  split
  next henabled => exact h.entry henabled app
  next henabled => exact if_neg henabled

/-- What a look-up of an app serves: what it listed when it was loaded, and what
it lists now if there is no load or its time to live is over. `none` where that
cannot be reckoned. -/
def served? (ttl : Int) (store : PolicyStore) (now : Instant) (app : String) :
    Option Load → Option (List Policy)
  | none => some (store.listActive app)
  | some load => (load.time.later? ttl).map fun last =>
      (if last < now then store else load.store).listActive app

theorem served?_listed {ttl : Int} {store : PolicyStore} {now : Instant} {kept : Option Load}
    {listed : List Policy} (h : served? ttl store now app kept = some listed) :
    ∃ met : PolicyStore, met.listActive app = listed := by
  cases kept with
  | none => exact ⟨store, Option.some.inj h⟩
  | some load =>
    obtain ⟨last, -, h⟩ := Option.map_eq_some_iff.mp h
    exact ⟨_, h⟩

theorem Coherent.policiesFor (h : c.Coherent past) (store : PolicyStore) (now : Instant)
    (app : String) : (c.policiesFor (.ofStore store) now app).map Prod.fst =
      (served? c.ttl store now app (if c.enabled then lastLoad? c.ttl app past else none)).map
        Except.ok := by
  rw [policiesFor_ofStore, h.entry?_eq app]
  cases (if c.enabled then lastLoad? c.ttl app past else none) with
  | none => rfl
  | some load =>
    simp only [Option.map_some, served?, Option.map_map, Load.entry]
    congr 1
    funext last
    simp only [Function.comp_apply]
    split <;> rfl

/-- Does the call bear on the entry of the app? -/
def Call.bears (app : String) : Call → Bool
  | .policiesFor name | .matchedPolicies name _ _ | .refresh name | .invalidate name => name == app
  | .invalidateAll => true

theorem call?_beside (hd : Members.Distinct c.apps) (hcall : c.call? e = some c')
    (hbeside : e.call.bears app = false) : c'.apps.get? app = c.apps.get? app := by
  have hsame : SameFor app c c := ⟨hd, hd, rfl, rfl, rfl⟩
  unfold PolicyCache.call? at hcall
  cases he : e.call with
  | policiesFor name =>
    simp only [he, Call.bears, beq_eq_false_iff_ne] at hcall hbeside
    obtain ⟨⟨result, own⟩, hfor, rfl⟩ := Option.map_eq_some_iff.mp hcall
    exact (hsame.policiesFor_left hbeside hfor).same
  | matchedPolicies name verb path =>
    simp only [he, Call.bears, beq_eq_false_iff_ne] at hcall hbeside
    obtain ⟨⟨result, own⟩, hfor, rfl⟩ := Option.map_eq_some_iff.mp hcall
    exact (hsame.matchedPolicies_left hbeside hfor).same
  | refresh name =>
    simp only [he, Call.bears, beq_eq_false_iff_ne, Option.some.injEq] at hcall hbeside
    exact hcall ▸ (hsame.refresh_left hbeside e.source e.now).same
  | invalidate name =>
    simp only [he, Call.bears, beq_eq_false_iff_ne, Option.some.injEq] at hcall hbeside
    exact hcall ▸ (hsame.invalidate_left hbeside).same
  | invalidateAll => simp [he, Call.bears] at hbeside

end

end PolicyCache

-- ---------------------------------------------------------------------------
-- Runs
-- ---------------------------------------------------------------------------

/-- The call that an operation makes of the cache. -/
def Operation.call? : Operation → Option PolicyCache.Call
  | .policies app => some (.policiesFor app)
  | .matched app verb path => some (.matchedPolicies app verb path)
  | .refresh app => some (.refresh app)
  | .invalidate app => some (.invalidate app)
  | .invalidateAll => some .invalidateAll
  | .enforce ctx verb path => some (.matchedPolicies ctx.app verb path)
  | .upsert _ _ | .get _ | .list _ | .delete _ | .createPerson _ => none

namespace Service

open PolicyCache

/-- The calls of a run, the latest first, before those of the past. -/
def history (s : Service) : List (Instant × Operation) → List Moment → List Moment
  | [], past => past
  | (now, operation) :: rest, past =>
    match s.step s.backing now operation with
    | none => past
    | some (_, next) =>
      next.history rest ((operation.call?.map (Moment.mk s.policies now)).toList ++ past)

section
variable {s s' : Service} {now : Instant} {operation : Operation} {answer : Answer}
  {past : List Moment} {app : String}

theorem step_cache (s : Service) (now : Instant) (operation : Operation) :
    (s.step s.backing now operation).map (fun result => result.2.cache) =
      match operation.call? with
      | none => some s.cache
      | some call => s.cache.call? ⟨now, .ofStore s.policies, call⟩ := by
  cases operation with
  | upsert fresh p =>
    obtain ⟨answer, hs⟩ := step_upsert s s.backing now fresh p
    rw [hs]
    simp only [Operation.call?, Option.map_some]
    split <;> rfl
  | delete id =>
    obtain ⟨answer, hs⟩ := step_delete s s.backing now id
    rw [hs]
    rfl
  | createPerson p =>
    cases hc : s.people.create p with
    | error e =>
      rw [step_createPerson_error hc]
      rfl
    | ok people =>
      rw [step_createPerson_ok hc]
      rfl
  | policies name => simp only [step, Option.map_map]; rfl
  | matched name verb path => simp only [step, Option.map_map]; rfl
  | enforce ctx verb path => simp only [step, enforceEndpoint, Option.map_map]; rfl
  | _ => rfl

theorem step_eq_none_iff (h : s.cache.Coherent past) : s.step s.backing now operation = none ↔
    ∃ app load, operation.call?.bind Call.reads? = some app ∧
      (if s.cache.enabled then lastLoad? s.cache.ttl app past else none) = some load ∧
      load.time.later? s.cache.ttl = none := by
  rw [← Option.map_eq_none_iff (f := fun result => result.2.cache), step_cache]
  cases operation.call? with
  | none => simp
  | some call =>
    simp only [call?_eq_none_iff, Option.bind_some]
    refine exists_congr fun app => ?_
    rw [h.entry?_eq app]
    simp only [Option.map_eq_some_iff]
    constructor
    · rintro ⟨-, hreads, ⟨load, hload, rfl⟩, hlater⟩
      exact ⟨load, hreads, hload, hlater⟩
    · rintro ⟨load, hreads, hload, hlater⟩
      exact ⟨_, hreads, ⟨load, hload, rfl⟩, hlater⟩

theorem step_coherent (h : s.cache.Coherent past)
    (hstep : s.step s.backing now operation = some (answer, s')) :
    s'.cache.Coherent ((operation.call?.map (Moment.mk s.policies now)).toList ++ past) ∧
      s'.cache.ttl = s.cache.ttl ∧ s'.cache.enabled = s.cache.enabled := by
  have hcache := step_cache s now operation
  rw [hstep, Option.map_some] at hcache
  cases hc : operation.call? with
  | none =>
    simp only [hc, Option.some.injEq] at hcache
    rw [hcache]
    exact ⟨h, rfl, rfl⟩
  | some call =>
    simp only [hc] at hcache
    obtain ⟨httl, henabled, -, -⟩ := call?_descends hcache.symm
    exact ⟨h.call? (m := ⟨s.policies, now, call⟩) hcache.symm, httl, henabled⟩

theorem history_coherent {operations : List (Instant × Operation)} {answers : List Answer}
    (h : s.cache.Coherent past) (hrun : s.run operations = some (answers, s')) :
    s'.cache.Coherent (s.history operations past) ∧
      s'.cache.ttl = s.cache.ttl ∧ s'.cache.enabled = s.cache.enabled := by
  induction operations generalizing s past answers with
  | nil =>
    cases hrun
    exact ⟨h, rfl, rfl⟩
  | cons entry operations ih =>
    obtain ⟨now, operation⟩ := entry
    obtain ⟨answer, next, rest, hstep, hrest, rfl⟩ := run_cons.mp hrun
    obtain ⟨hnext, httl, henabled⟩ := step_coherent h hstep
    obtain ⟨hlast, httl', henabled'⟩ := ih hnext hrest
    simp only [history, hstep]
    exact ⟨hlast, httl'.trans httl, henabled'.trans henabled⟩

theorem step_beside (h : s.cache.Coherent past)
    (hstep : s.step s.backing now operation = some (answer, s'))
    (hbeside : operation.call?.any (Call.bears app) = false) :
    s'.cache.apps.get? app = s.cache.apps.get? app := by
  have hcache := step_cache s now operation
  rw [hstep, Option.map_some] at hcache
  cases hc : operation.call? with
  | none =>
    simp only [hc, Option.some.injEq] at hcache
    rw [hcache]
  | some call =>
    simp only [hc] at hcache
    exact call?_beside h.distinct hcache.symm (by simpa [hc] using hbeside)

theorem step_policies (h : s.cache.Coherent past) (now : Instant) (app : String) :
    (s.step s.backing now (.policies app)).map Prod.fst =
      (served? s.cache.ttl s.policies now app
        (if s.cache.enabled then lastLoad? s.cache.ttl app past else none)).map .policies := by
  have hfor := congrArg (Option.map (answerOf .policies)) (h.policiesFor s.policies now app)
  rw [Option.map_map, Option.map_map] at hfor
  rw [step, Option.map_map]
  exact hfor

theorem step_refresh_own (s : Service) (now : Instant) (app : String) :
    s.step s.backing now (.refresh app) = some (.policies (s.policies.listActive app),
      { s with cache := s.cache.loaded s.policies now app }) := by
  rw [step_refresh, backing, refresh_ofStore]
  rfl

theorem step_listed (h : s.cache.Coherent past) {listed : List Policy}
    (hstep : s.step s.backing now operation = some (.policies listed, s')) :
    ∃ app, operation.reads app = true ∧ ∃ met : PolicyStore, met.listActive app = listed := by
  cases operation with
  | list name =>
    cases hstep
    exact ⟨name, beq_self_eq_true name, s.policies, rfl⟩
  | policies name =>
    have hserved := step_policies h now name
    rw [hstep] at hserved
    obtain ⟨own, hserved, ⟨⟩⟩ := Option.map_eq_some_iff.mp hserved.symm
    exact ⟨name, beq_self_eq_true name, served?_listed hserved⟩
  | refresh name =>
    rw [step_refresh_own] at hstep
    cases hstep
    exact ⟨name, beq_self_eq_true name, s.policies, rfl⟩
  | upsert fresh p =>
    simp only [step, PolicyStore.upsert] at hstep
    split at hstep <;> cases hstep
  | delete id =>
    simp only [step, PolicyStore.delete] at hstep
    split at hstep <;> cases hstep
  | createPerson p =>
    simp only [step] at hstep
    split at hstep <;> cases hstep
  | matched name verb path =>
    obtain ⟨⟨result, cache⟩, -, he⟩ := Option.map_eq_some_iff.mp hstep
    cases result <;> cases he
  | enforce ctx verb path =>
    obtain ⟨⟨outcome, next⟩, -, he⟩ := Option.map_eq_some_iff.mp hstep
    cases he
  | get id => cases hstep
  | invalidate name => cases hstep
  | invalidateAll => cases hstep

/-- After any run a look-up answers with what the app listed at its latest load,
and nothing fails but a look-up of a load whose end cannot be reckoned. -/
theorem run_coherent (config : Config) (ttl : Int) (enabled : Bool)
    {operations : List (Instant × Operation)} {answers : List Answer}
    (hrun : (start config { PolicyCache.ofTtl ttl with enabled := enabled }).run operations =
      some (answers, s)) :
    let begun := start config { PolicyCache.ofTtl ttl with enabled := enabled }
    let kept app := if enabled then lastLoad? ttl app (begun.history operations []) else none
    (∀ now app, (s.step s.backing now (.policies app)).map Prod.fst =
      (served? ttl s.policies now app (kept app)).map .policies) ∧
    (∀ now app, (s.step s.backing now (.refresh app)).map Prod.fst =
      some (.policies (s.policies.listActive app))) ∧
    ∀ now operation,
      (s.step s.backing now operation = none ↔
        ∃ app load, operation.call?.bind Call.reads? = some app ∧ kept app = some load ∧
          load.time.later? ttl = none) ∧
      ∀ answer s', s.step s.backing now operation = some (answer, s') →
        (∀ app, operation.call?.any (Call.bears app) = false →
          s'.cache.apps.get? app = s.cache.apps.get? app) ∧
        ∀ listed, answer = .policies listed → ∃ app, operation.reads app = true ∧
          (∀ p ∈ listed, p.active = true ∧ p.app = app) ∧
          listed.Pairwise fun p q => p.priority ≤ q.priority := by
  intro begun kept
  have hbegun : begun.cache.Coherent [] := by
    refine ⟨List.nodup_nil, fun _ app => ?_⟩
    exact ite_self none
  obtain ⟨hlast, httl, henabled⟩ := history_coherent hbegun hrun
  have hkept : ∀ app, (if s.cache.enabled then
      lastLoad? s.cache.ttl app (begun.history operations []) else none) = kept app := by
    intro app
    rw [httl, henabled]
    rfl
  refine ⟨fun now app => ?_, fun now app => ?_, fun now operation => ⟨?_, ?_⟩⟩
  · rw [step_policies hlast, hkept, httl]
    rfl
  · rw [step_refresh_own]
    rfl
  · rw [step_eq_none_iff hlast, httl]
    simp only [← hkept, httl]
    rfl
  · intro answer s' hstep
    refine ⟨fun app hbeside => step_beside hlast hstep hbeside, ?_⟩
    rintro listed rfl
    obtain ⟨app, hreads, met, rfl⟩ := step_listed hlast hstep
    refine ⟨app, hreads, fun p hm => ?_, met.listActive_ascending app⟩
    simpa [PolicyStore.isListed] using PolicyStore.listActive_isListed hm

/-- A policy is stored after the app was looked up. -/
def overlooked : List (Instant × Operation) :=
  [(0, .upsert "" (.bare "north" "gate")), (0, .policies "north"),
    (1, .upsert "" (.bare "north" "wall")), (1, .invalidate "south")]

theorem run_coherent_overlooked :
    ∃ answers s, (start Config.default (.ofTtl 10)).run overlooked = some (answers, s) ∧
      s.policies.listActive "north" = [.bare "north" "gate", .bare "north" "wall"] ∧
      (s.step s.backing 10 (.policies "north")).map Prod.fst =
        some (.policies [.bare "north" "gate"]) ∧
      (s.step s.backing 11 (.policies "north")).map Prod.fst =
        some (.policies [.bare "north" "gate", .bare "north" "wall"]) ∧
      (s.step s.backing 2 (.refresh "north")).map Prod.fst =
        some (.policies [.bare "north" "gate", .bare "north" "wall"]) := by
  have hrun : ∃ answers s,
      (start Config.default (.ofTtl 10)).run overlooked = some (answers, s) ∧
        s.policies.listActive "north" = [.bare "north" "gate", .bare "north" "wall"] :=
    ⟨_, _, rfl, by cbv⟩
  obtain ⟨answers, s, hrun, hlisted⟩ := hrun
  obtain ⟨hfor, hrefresh, -⟩ := run_coherent Config.default 10 true hrun
  have hload : lastLoad? 10 "north" ((start Config.default (.ofTtl 10)).history overlooked []) =
      some ⟨PolicyStore.empty.stored (.bare "north" "gate"), 0⟩ := by rfl
  have hserved := fun now => (hfor now "north").trans
    (congrArg (fun kept => (served? 10 s.policies now "north" kept).map Answer.policies) hload)
  refine ⟨answers, s, hrun, hlisted, ?_, ?_, ?_⟩
  · rw [hserved]
    cbv
  · rw [hserved]
    exact congrArg (fun listed => some (Answer.policies listed)) hlisted
  · rw [hrefresh, hlisted]

/-- With a time to live of thirty thousand years nothing is over, and nothing is
answered. -/
theorem run_incoherent :
    ∃ answers s, (start Config.default (PolicyCache.ofTtl (1000000000000 * 1000000000))).run
        [(0, .upsert "" (.bare "north" "gate")), (0, .policies "north")] = some (answers, s) ∧
      s.cache.enabled = true ∧
      s.cache.entry? "north" = some ⟨s.policies.listActive "north", 0⟩ ∧
      s.policies.listActive "north" = [.bare "north" "gate"] ∧
      (0 : Int) ≤ 0 + s.cache.ttl ∧
      s.step s.backing 0 (.policies "north") = none :=
  ⟨_, _, rfl, rfl, by cbv, by cbv, by decide, rfl⟩

end

end Service

end QueryGuard
