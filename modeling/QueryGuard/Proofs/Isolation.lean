import Mathlib
import QueryGuard.Proofs.Resolving
import QueryGuard.Proofs.Stores

/-!
# Apps side by side

What is done for one app is left out of the view of another, with one exception:
policies are stored by their ids, whatever app they are of, so that a policy
which is stored under the id of another app's takes that away. `run_view` says
that apart from this no app can tell that it is not alone.
-/

namespace QueryGuard

theorem RequestContext.enforce_congr {directory other : Directory} {ctx : RequestContext}
    (h : directory ctx.app = other ctx.app) (config : Config) (policies : List MatchedPolicy) :
    ctx.enforce config directory policies = ctx.enforce config other policies := by
  unfold enforce
  rw [accumulate_congr h]

/-- A policy without rules. -/
def Policy.bare (app id : String) : Policy :=
  { Policy.blank with id := id, app := app, name := id }

-- ---------------------------------------------------------------------------
-- What an app sees
-- ---------------------------------------------------------------------------

namespace Operation

/-- The app that an operation is made for; none where it goes by an id or is for
all apps. -/
def app? : Operation → Option String
  | .upsert _ policy => some policy.app
  | .createPerson person => some person.app
  | .list app | .policies app | .matched app _ _ | .refresh app | .invalidate app => some app
  | .enforce ctx _ _ => some ctx.app
  | .get _ | .delete _ | .invalidateAll => none

/-- Asks for policies of the app, or enforces them. -/
def reads (app : String) : Operation → Bool
  | .list name | .policies name | .matched name _ _ | .refresh name => name == app
  | .enforce ctx _ _ => ctx.app == app
  | _ => false

/-- What an operation is to an app. One that is made for another app is nothing
to it, unless it takes a stored policy of the app away: to the app, this is its
deletion. -/
def seenBy? (app : String) (s : PolicyStore) (operation : Operation) : Option Operation :=
  match operation with
  | .upsert fresh p =>
    let id := (PolicyStore.identified p fresh).id
    if p.app = app then some operation
    else if p.validate.isOk && (s.get? id).any fun own => own.app == app then some (.delete id)
    else none
  | .get id | .delete id =>
    if (s.get? id).all fun p => p.app == app then some operation else none
  | .invalidateAll => some operation
  | _ => if operation.app? = some app then some operation else none

theorem app?_of_seenBy? {app : String} {s : PolicyStore} {operation own : Operation}
    (h : operation.seenBy? app s = some own) : ∀ name ∈ own.app?, name = app := by
  simp only [seenBy?] at h
  split at h
  · split at h
    · cases h
      next hp =>
      rintro name ⟨⟩
      exact hp
    · split at h <;> cases h
      nofun
  · split at h <;> cases h
    nofun
  · split at h <;> cases h
    nofun
  · cases h
    nofun
  · split at h <;> cases h
    next happ =>
    intro name hname
    exact Option.some.inj (hname.symm.trans happ)

end Operation

namespace Service

/-- A run as the app sees it. -/
def view (app : String) (s : Service) :
    List (Instant × Operation) → List (Instant × Operation)
  | [] => []
  | (now, operation) :: rest =>
    match s.step s.backing now operation with
    | none => []
    | some (_, next) =>
      match operation.seenBy? app s.policies with
      | none => next.view app rest
      | some own => (now, own) :: next.view app rest

/-- What reads for the app, with the answers to it. -/
def readings (app : String) (operations : List (Instant × Operation)) (answers : List Answer) :
    List ((Instant × Operation) × Answer) :=
  (operations.zip answers).filter fun entry => entry.1.2.reads app

/-- The app cannot tell the services apart. -/
structure SameFor (app : String) (s other : Service) : Prop where
  config : s.config = other.config
  policies : PolicyStore.SameFor app s.policies other.policies
  people : PeopleStore.SameFor app s.people other.people
  cache : PolicyCache.SameFor app s.cache other.cache

section
variable {s s' other : Service} {app fresh : String} {now : Instant} {operation own : Operation}
  {answer : Answer}

theorem SameFor.source (h : SameFor app s other) :
    s.backing.source app = other.backing.source app :=
  congrArg Except.ok h.policies.listActive_eq

theorem SameFor.directory (h : SameFor app s other) :
    s.backing.directory app = other.backing.directory app :=
  funext fun auth => congrArg Except.ok (h.people auth)

-- ---------------------------------------------------------------------------
-- Steps that change a store
-- ---------------------------------------------------------------------------

theorem step_upsert (s : Service) (b : Backing) (now : Instant) (fresh : String) (p : Policy) :
    ∃ answer, s.step b now (.upsert fresh p) = some (answer,
      if p.validate.isOk then
        { s with policies := s.policies.stored (PolicyStore.identified p fresh) }
      else s) := by
  simp only [Service.step, PolicyStore.upsert]
  cases p.validate with
  | error e => exact ⟨_, rfl⟩
  | ok => exact ⟨_, rfl⟩

theorem step_delete (s : Service) (b : Backing) (now : Instant) (id : String) :
    ∃ answer, s.step b now (.delete id) =
      some (answer, { s with policies := s.policies.without id }) := by
  simp only [Service.step, PolicyStore.delete]
  cases hg : s.policies.get? id with
  | none =>
    refine ⟨_, congrArg some (Prod.ext rfl ?_)⟩
    exact congrArg (fun policies => { s with policies := policies })
      (PolicyStore.without_of_get?_eq_none hg).symm
  | some p => exact ⟨_, rfl⟩

theorem step_createPerson_error {b : Backing} {p : Person} {e : StorageError}
    (h : s.people.create p = .error e) :
    s.step b now (.createPerson p) = some (.refused e, s) := by
  simp only [Service.step, h]

theorem step_createPerson_ok {b : Backing} {p : Person} {people : PeopleStore}
    (h : s.people.create p = .ok people) :
    s.step b now (.createPerson p) = some (.person p, { s with people := people }) := by
  simp only [Service.step, h]

theorem step_refresh (s : Service) (b : Backing) (now : Instant) (name : String) :
    s.step b now (.refresh name) = some (answerOf .policies (s.cache.refresh b.source now name).1,
      { s with cache := (s.cache.refresh b.source now name).2 }) :=
  rfl

-- ---------------------------------------------------------------------------
-- Steps beside and for the app
-- ---------------------------------------------------------------------------

theorem SameFor.upsert_left {p : Policy} (h : SameFor app s other)
    (hstep : s.step s.backing now (.upsert fresh p) = some (answer, s'))
    (hunseen : Operation.seenBy? app s.policies (.upsert fresh p) = none) :
    SameFor app s' other := by
  simp only [Operation.seenBy?] at hunseen
  split at hunseen
  · cases hunseen
  next hp =>
  split at hunseen
  · cases hunseen
  next hfree =>
  obtain ⟨_, hs⟩ := step_upsert s s.backing now fresh p
  rw [hs] at hstep
  cases hstep
  split
  · next hvalid =>
    refine ⟨h.config, h.policies.stored_left ?_ ?_, h.people, h.cache⟩
    · rwa [PolicyStore.identified_app]
    · intro q hq
      simpa [hvalid, hq] using hfree
  · exact h

theorem SameFor.step_left (h : SameFor app s other)
    (hstep : s.step s.backing now operation = some (answer, s'))
    (hunseen : operation.seenBy? app s.policies = none) :
    SameFor app s' other ∧ operation.reads app = false := by
  have hother : ∀ {name : String} {own : Operation},
      (if some name = some app then some own else none) = none → name ≠ app := by
    intro name own hnone
    by_contra he
    simp [he] at hnone
  cases operation with
  | upsert fresh p => exact ⟨h.upsert_left hstep hunseen, rfl⟩
  | get id =>
    cases hstep
    exact ⟨h, rfl⟩
  | list name =>
    cases hstep
    exact ⟨h, beq_eq_false_iff_ne.mpr (hother hunseen)⟩
  | delete id =>
    obtain ⟨_, hdelete⟩ := step_delete s s.backing now id
    rw [hdelete] at hstep
    cases hstep
    refine ⟨⟨h.config, h.policies.without_left fun q hq => ?_, h.people, h.cache⟩, rfl⟩
    simpa [Operation.seenBy?, hq] using hunseen
  | createPerson person =>
    have hne := hother hunseen
    cases hc : s.people.create person with
    | error e =>
      rw [step_createPerson_error hc] at hstep
      cases hstep
      exact ⟨h, rfl⟩
    | ok people =>
      rw [step_createPerson_ok hc] at hstep
      cases hstep
      exact ⟨⟨h.config, h.policies, h.people.create_left hne hc, h.cache⟩, rfl⟩
  | policies name =>
    have hne := hother hunseen
    obtain ⟨⟨result, cache⟩, hfor, he⟩ := Option.map_eq_some_iff.mp hstep
    obtain ⟨-, rfl⟩ := Prod.mk.inj he
    exact ⟨⟨h.config, h.policies, h.people, h.cache.policiesFor_left hne hfor⟩,
      beq_eq_false_iff_ne.mpr hne⟩
  | matched name verb path =>
    have hne := hother hunseen
    obtain ⟨⟨result, cache⟩, hfor, he⟩ := Option.map_eq_some_iff.mp hstep
    obtain ⟨-, rfl⟩ := Prod.mk.inj he
    exact ⟨⟨h.config, h.policies, h.people, h.cache.matchedPolicies_left hne hfor⟩,
      beq_eq_false_iff_ne.mpr hne⟩
  | refresh name =>
    have hne := hother hunseen
    rw [step_refresh] at hstep
    cases hstep
    exact ⟨⟨h.config, h.policies, h.people, h.cache.refresh_left hne _ _⟩,
      beq_eq_false_iff_ne.mpr hne⟩
  | invalidate name =>
    cases hstep
    exact ⟨⟨h.config, h.policies, h.people, h.cache.invalidate_left (hother hunseen)⟩, rfl⟩
  | invalidateAll => cases hunseen
  | enforce ctx verb path =>
    have hne := hother hunseen
    obtain ⟨⟨outcome, next⟩, henforced, he⟩ := Option.map_eq_some_iff.mp hstep
    obtain ⟨-, rfl⟩ := Prod.mk.inj he
    obtain ⟨⟨result, cache⟩, hfor, he⟩ := Option.map_eq_some_iff.mp henforced
    obtain ⟨-, rfl⟩ := Prod.mk.inj he
    exact ⟨⟨h.config, h.policies, h.people, h.cache.matchedPolicies_left hne hfor⟩,
      beq_eq_false_iff_ne.mpr hne⟩

theorem SameFor.enforceEndpoint {ctx : RequestContext} {verb path : String}
    {outcome : Outcome Enforcement} (h : SameFor ctx.app s other)
    (henforced : s.enforceEndpoint s.backing now ctx verb path = some (outcome, s')) :
    ∃ other', other.enforceEndpoint other.backing now ctx verb path = some (outcome, other') ∧
      SameFor ctx.app s' other' := by
  obtain ⟨⟨result, cache⟩, hfor, he⟩ := Option.map_eq_some_iff.mp henforced
  obtain ⟨rfl, rfl⟩ := Prod.mk.inj he
  obtain ⟨cache', hfor', hcache⟩ := h.cache.matchedPolicies h.source hfor
  refine ⟨{ other with cache := cache' }, Option.map_eq_some_iff.mpr ⟨_, hfor', ?_⟩,
    ⟨h.config, h.policies, h.people, hcache⟩⟩
  cases result with
  | error e => rfl
  | ok policies =>
    have hsame := RequestContext.enforce_congr h.directory s.config policies
    rw [h.config] at hsame ⊢
    exact Prod.ext hsame.symm rfl

/-- To the app, a policy of its own is stored alike, and one that takes its own
away is a deletion. -/
theorem SameFor.upsert {p : Policy} (h : SameFor app s other)
    (hstep : s.step s.backing now (.upsert fresh p) = some (answer, s'))
    (hseen : Operation.seenBy? app s.policies (.upsert fresh p) = some own) :
    ∃ answer' other', other.step other.backing now own = some (answer', other') ∧
      SameFor app s' other' ∧ own.reads app = false := by
  obtain ⟨_, hs⟩ := step_upsert s s.backing now fresh p
  rw [hs] at hstep
  cases hstep
  simp only [Operation.seenBy?] at hseen
  split at hseen
  · cases hseen
    obtain ⟨answer', hother⟩ := step_upsert other other.backing now fresh p
    refine ⟨answer', _, hother, ?_, rfl⟩
    split
    · exact ⟨h.config, h.policies.stored _, h.people, h.cache⟩
    · exact h
  next hp =>
  split at hseen
  · next hown =>
    cases hseen
    obtain ⟨answer', hother⟩ :=
      step_delete other other.backing now (PolicyStore.identified p fresh).id
    refine ⟨answer', _, hother, ?_, rfl⟩
    rw [if_pos (Bool.and_eq_true_iff.mp hown).1]
    refine ⟨h.config, h.policies.stored_without ?_, h.people, h.cache⟩
    rwa [PolicyStore.identified_app]
  · cases hseen

theorem SameFor.step (h : SameFor app s other)
    (hstep : s.step s.backing now operation = some (answer, s'))
    (hseen : operation.seenBy? app s.policies = some own) :
    ∃ answer' other', other.step other.backing now own = some (answer', other') ∧
      SameFor app s' other' ∧ own.reads app = operation.reads app ∧
      (operation.reads app = true → own = operation ∧ answer' = answer) := by
  cases operation with
  | upsert fresh p =>
    obtain ⟨answer', other', hother, h, hreads⟩ := h.upsert hstep hseen
    exact ⟨answer', other', hother, h, hreads, nofun⟩
  | get id =>
    obtain ⟨-, ⟨⟩⟩ := Option.ite_none_right_eq_some.mp hseen
    cases hstep
    exact ⟨_, other, rfl, h, rfl, nofun⟩
  | list name =>
    obtain ⟨⟨⟩, ⟨⟩⟩ := Option.ite_none_right_eq_some.mp hseen
    cases hstep
    exact ⟨_, other, rfl, h, rfl,
      fun _ => ⟨rfl, congrArg Answer.policies h.policies.listActive_eq.symm⟩⟩
  | delete id =>
    obtain ⟨-, ⟨⟩⟩ := Option.ite_none_right_eq_some.mp hseen
    -- Deleting may fail in one of the stores only, which leaves the policy out of both.
    obtain ⟨_, hs⟩ := step_delete s s.backing now id
    rw [hs] at hstep
    cases hstep
    obtain ⟨answer', hother⟩ := step_delete other other.backing now id
    exact ⟨answer', _, hother, ⟨h.config, h.policies.without id, h.people, h.cache⟩, rfl, nofun⟩
  | createPerson person =>
    obtain ⟨⟨⟩, ⟨⟩⟩ := Option.ite_none_right_eq_some.mp hseen
    rcases h.people.create rfl with ⟨e, hs, hother⟩ | ⟨people, people', hs, hother, hpeople⟩
    · rw [step_createPerson_error hs] at hstep
      cases hstep
      exact ⟨_, other, step_createPerson_error hother, h, rfl, nofun⟩
    · rw [step_createPerson_ok hs] at hstep
      cases hstep
      exact ⟨_, _, step_createPerson_ok hother, ⟨h.config, h.policies, hpeople, h.cache⟩, rfl,
        nofun⟩
  | policies name =>
    obtain ⟨⟨⟩, ⟨⟩⟩ := Option.ite_none_right_eq_some.mp hseen
    obtain ⟨⟨result, cache⟩, hfor, he⟩ := Option.map_eq_some_iff.mp hstep
    obtain ⟨rfl, rfl⟩ := Prod.mk.inj he
    obtain ⟨cache', hfor', hcache⟩ := h.cache.policiesFor h.source hfor
    exact ⟨_, _, Option.map_eq_some_iff.mpr ⟨_, hfor', rfl⟩,
      ⟨h.config, h.policies, h.people, hcache⟩, rfl, fun _ => ⟨rfl, rfl⟩⟩
  | matched name verb path =>
    obtain ⟨⟨⟩, ⟨⟩⟩ := Option.ite_none_right_eq_some.mp hseen
    obtain ⟨⟨result, cache⟩, hfor, he⟩ := Option.map_eq_some_iff.mp hstep
    obtain ⟨rfl, rfl⟩ := Prod.mk.inj he
    obtain ⟨cache', hfor', hcache⟩ := h.cache.matchedPolicies h.source hfor
    exact ⟨_, _, Option.map_eq_some_iff.mpr ⟨_, hfor', rfl⟩,
      ⟨h.config, h.policies, h.people, hcache⟩, rfl, fun _ => ⟨rfl, rfl⟩⟩
  | refresh name =>
    obtain ⟨⟨⟩, ⟨⟩⟩ := Option.ite_none_right_eq_some.mp hseen
    obtain ⟨hresult, hcache⟩ := h.cache.refresh h.source now
    rw [step_refresh] at hstep
    cases hstep
    exact ⟨_, _, step_refresh other _ _ _, ⟨h.config, h.policies, h.people, hcache⟩, rfl,
      fun _ => ⟨rfl, congrArg (answerOf .policies) hresult.symm⟩⟩
  | invalidate name =>
    obtain ⟨⟨⟩, ⟨⟩⟩ := Option.ite_none_right_eq_some.mp hseen
    cases hstep
    exact ⟨_, _, rfl, ⟨h.config, h.policies, h.people, h.cache.invalidate⟩, rfl, nofun⟩
  | invalidateAll =>
    cases hseen
    cases hstep
    exact ⟨_, _, rfl, ⟨h.config, h.policies, h.people, h.cache.invalidateAll⟩, rfl, nofun⟩
  | enforce ctx verb path =>
    obtain ⟨⟨⟩, ⟨⟩⟩ := Option.ite_none_right_eq_some.mp hseen
    obtain ⟨⟨outcome, next⟩, henforced, he⟩ := Option.map_eq_some_iff.mp hstep
    obtain ⟨rfl, rfl⟩ := Prod.mk.inj he
    obtain ⟨other', henforced', hnext⟩ := h.enforceEndpoint henforced
    exact ⟨_, other', Option.map_eq_some_iff.mpr ⟨_, henforced', rfl⟩, hnext, rfl,
      fun _ => ⟨rfl, rfl⟩⟩

-- ---------------------------------------------------------------------------
-- Runs
-- ---------------------------------------------------------------------------

theorem run_cons {operations : List (Instant × Operation)} {answers : List Answer} :
    s.run ((now, operation) :: operations) = some (answers, s') ↔
      ∃ answer next rest, s.step s.backing now operation = some (answer, next) ∧
        next.run operations = some (rest, s') ∧ answers = answer :: rest := by
  simp only [run, Option.bind_eq_bind, Option.bind_eq_some_iff, Prod.exists, pure,
    Option.some.injEq, Prod.mk.injEq]
  constructor
  · rintro ⟨answer, next, hstep, rest, last, hrun, rfl, rfl⟩
    exact ⟨answer, next, rest, hstep, hrun, rfl⟩
  · rintro ⟨answer, next, rest, hstep, hrun, rfl⟩
    exact ⟨answer, next, hstep, rest, s', hrun, rfl, rfl⟩

theorem readings_cons (app : String) (now : Instant) (operation : Operation)
    (operations : List (Instant × Operation)) (answer : Answer) (answers : List Answer) :
    readings app ((now, operation) :: operations) (answer :: answers) =
      (if operation.reads app then [((now, operation), answer)] else []) ++
        readings app operations answers := by
  unfold readings
  rw [List.zip_cons_cons, List.filter_cons]
  dsimp only
  split <;> rfl

/-- By induction on the run: after each step the app cannot tell the services
apart. -/
theorem SameFor.run {operations : List (Instant × Operation)} {answers : List Answer}
    (h : SameFor app s other) (hrun : s.run operations = some (answers, s')) :
    ∃ answers' other', other.run (s.view app operations) = some (answers', other') ∧
      SameFor app s' other' ∧
      readings app (s.view app operations) answers' = readings app operations answers := by
  induction operations generalizing s other answers with
  | nil =>
    cases hrun
    exact ⟨[], other, rfl, h, rfl⟩
  | cons entry operations ih =>
    obtain ⟨now, operation⟩ := entry
    obtain ⟨answer, next, rest, hstep, hrest, rfl⟩ := run_cons.mp hrun
    simp only [view, hstep]
    cases hseen : operation.seenBy? app s.policies with
    | none =>
      obtain ⟨hnext, hreads⟩ := h.step_left hstep hseen
      obtain ⟨answers', other', hother, hlast, hsame⟩ := ih hnext hrest
      refine ⟨answers', other', hother, hlast, ?_⟩
      simpa [readings_cons, hreads] using hsame
    | some own =>
      obtain ⟨answer', other₁, hown, hnext, hreads, hread⟩ := h.step hstep hseen
      obtain ⟨answers', other', hother, hlast, hsame⟩ := ih hnext hrest
      refine ⟨answer' :: answers', other', run_cons.mpr ⟨_, _, _, hown, hother, rfl⟩, hlast, ?_⟩
      rw [readings_cons, readings_cons, hsame, hreads]
      congr 1
      split
      · next hr =>
        obtain ⟨rfl, rfl⟩ := hread hr
        rfl
      · rfl

theorem view_app? {operations : List (Instant × Operation)} {entry : Instant × Operation}
    (hm : entry ∈ s.view app operations) : ∀ name ∈ entry.2.app?, name = app := by
  induction operations generalizing s with
  | nil => cases hm
  | cons first operations ih =>
    obtain ⟨now, operation⟩ := first
    simp only [view] at hm
    split at hm
    · cases hm
    next answer next hstep =>
    split at hm
    · exact ih hm
    next own hseen =>
    rcases List.mem_cons.mp hm with rfl | hm
    · exact Operation.app?_of_seenBy? hseen
    · exact ih hm

theorem sameFor_start (config : Config) (ttl : Int) (enabled : Bool) (app : String) :
    SameFor app (start config { PolicyCache.ofTtl ttl with enabled := enabled })
      (start config { PolicyCache.ofTtl ttl with enabled := enabled }) where
  config := rfl
  policies := ⟨PolicyStore.kept_empty, PolicyStore.kept_empty, fun _ _ _ => Iff.rfl⟩
  people := fun _ => rfl
  cache := ⟨List.nodup_nil, List.nodup_nil, rfl, rfl, rfl⟩

/-- A run can be done without what is done for other apps, and all that reads
for the app is answered alike. Only what takes a stored policy of the app away
has to be kept, as the deletion of that policy. -/
theorem run_view (config : Config) (ttl : Int) (enabled : Bool) (app : String)
    {operations : List (Instant × Operation)} {answers : List Answer}
    (hrun : (start config { PolicyCache.ofTtl ttl with enabled := enabled }).run operations =
      some (answers, s')) :
    let begun := start config { PolicyCache.ofTtl ttl with enabled := enabled }
    (∀ entry ∈ begun.view app operations, ∀ name ∈ entry.2.app?, name = app) ∧
      ∃ answers' other', begun.run (begun.view app operations) = some (answers', other') ∧
        readings app (begun.view app operations) answers' = readings app operations answers := by
  intro begun
  obtain ⟨answers', other', hother, -, hsame⟩ := (sameFor_start config ttl enabled app).run hrun
  exact ⟨fun entry hm => view_app? hm, answers', other', hother, hsame⟩

end

/-- Two apps store policies, and the second takes an id of the first. -/
def contested : List (Instant × Operation) :=
  [(0, .upsert "" (.bare "north" "gate")), (0, .upsert "" (.bare "north" "wall")),
    (0, .upsert "" (.bare "south" "hall")), (0, .upsert "" (.bare "south" "gate")),
    (0, .list "north"), (0, .enforce (.ofApp "north") "GET" "/")]

theorem run_view_contested :
    ∃ answers last answers' last',
      (start Config.default (.ofTtl 1)).run contested = some (answers, last) ∧
      (start Config.default (.ofTtl 1)).run
        [(0, .upsert "" (.bare "north" "gate")), (0, .upsert "" (.bare "north" "wall")),
          (0, .delete "gate"), (0, .list "north"), (0, .enforce (.ofApp "north") "GET" "/")] =
        some (answers', last') ∧
      readings "north" contested answers = readings "north"
        [(0, .upsert "" (.bare "north" "gate")), (0, .upsert "" (.bare "north" "wall")),
          (0, .delete "gate"), (0, .list "north"), (0, .enforce (.ofApp "north") "GET" "/")]
        answers' := by
  have hrun : ∃ answers last,
      (start Config.default (.ofTtl 1)).run contested = some (answers, last) := ⟨_, _, rfl⟩
  obtain ⟨answers, last, hrun⟩ := hrun
  obtain ⟨-, answers', last', hview, hsame⟩ := run_view Config.default 1 true "north" hrun
  exact ⟨answers, last, answers', last', hrun, hview, hsame.symm⟩

/-- Without the policies of the other app the first one still has its own. -/
theorem run_loses_policy :
    ∃ answers last answers' last',
      (start Config.default (.ofTtl 1)).run contested = some (answers, last) ∧
      (start Config.default (.ofTtl 1)).run
        (contested.filter fun entry => entry.2.app? = some "north") = some (answers', last') ∧
      (readings "north" contested answers).head? =
        some ((0, .list "north"), .policies [.bare "north" "wall"]) ∧
      (readings "north" (contested.filter fun entry => entry.2.app? = some "north")
        answers').head? =
        some ((0, .list "north"), .policies [.bare "north" "gate", .bare "north" "wall"]) :=
  ⟨_, _, _, _, rfl, rfl, by cbv, by cbv⟩

end Service

end QueryGuard
