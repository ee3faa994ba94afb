import QueryGuard.Proofs.Inquiry
import QueryGuard.Proofs.Skipped

/-!
# Whose id the sentinel stands for

The sentinel stands for the id of the person linked to the authenticated user.
But the id is kept under a name that policies may bind as well, and so is the
user. `accumulate_faithful_iff` says of every accumulation when each reference to
the sentinel is given the right id: when no binding has got in between.
-/

namespace QueryGuard

/-- The directory links the user to a person with the id. -/
def Directory.Links (directory : Directory) (app : String) (user? : Option String) (id : Json) :
    Prop :=
  ∃ user person, user? = some user ∧ directory app user = .ok (some person) ∧
    id = .string person.id

theorem Directory.Links.unique {directory : Directory} {app : String} {user? : Option String}
    {id other : Json} (h : directory.Links app user? id) (h' : directory.Links app user? other) :
    id = other := by
  obtain ⟨user, person, rfl, hperson, rfl⟩ := h
  obtain ⟨user', person', huser, hperson', rfl⟩ := h'
  cases huser
  rw [hperson] at hperson'
  cases hperson'
  rfl

-- ---------------------------------------------------------------------------
-- Readings
-- ---------------------------------------------------------------------------

/-- An expression that was resolved. -/
structure Reading where
  expression : String
  /-- What bindings alone have made of the environment until then. -/
  bound : Environment
  /-- The environment that it was resolved in. -/
  env : Environment
  found : Option Json

namespace Reading

/-- The expression refers to the sentinel. -/
def Personal (r : Reading) : Prop :=
  ∃ path value, Environment.reference? r.expression = some path ∧
    r.env.lookup? path = some value ∧ Environment.isSentinel value = true

section
variable (directory : Directory) (app : String) (user? : Option String)

/-- It was given the id of the person linked to the user. -/
def Faithful (r : Reading) : Prop := ∃ id, directory.Links app user? id ∧ r.found = some id

/-- Policies have bound no other id in place of the person's. If they have bound
none at all and none has been looked up before, then the user whom they have bound
is linked to a person with the same id. -/
def Unforged (r : Reading) : Prop :=
  ∃ id, directory.Links app user? id ∧
    match r.bound.personId? with
    | some known => known = id
    | none => r.env.personId? = none → directory.Links app r.bound.userId? id

end

end Reading

/-- What is read as an inquiry is carried out, until it fails. -/
def Inquiry.readings {α : Type} (directory : Directory) (app : String) (bound : Environment)
    (s : Session) : Inquiry α → List Reading
  | .done _ => []
  | .refuse _ => []
  | .layer bindings next => next.readings directory app (bound.bind bindings) (s.layered bindings)
  | .ask expression next =>
    match (Resolution.ofText directory app expression).run.run s with
    | (.ok found, s') =>
      ⟨expression, bound, s.env, found⟩ :: (next found).readings directory app bound s'
    | (.error _, _) => []

/-- Everything that an accumulation reads, in conditions and in queries. -/
def RequestContext.readings (ctx : RequestContext) (config : Config) (directory : Directory)
    (policies : List MatchedPolicy) : List Reading :=
  (Inquiry.ofPolicies config policies).readings directory ctx.app (Environment.forUser ctx.userId?)
    ⟨Environment.forUser ctx.userId?, 0⟩

-- ---------------------------------------------------------------------------
-- What is kept
-- ---------------------------------------------------------------------------

/-- The environment is what bindings have made of it, except that the id of the
user's person may be kept where they have bound none. -/
structure Keeping (directory : Directory) (app : String) (user? : Option String)
    (env bound : Environment) : Prop where
  values : ∀ name, name ≠ Environment.personKey → env.get? name = bound.get? name
  person : env.get? Environment.personKey = bound.get? Environment.personKey ∨
    bound.personId? = none ∧ ∃ id, directory.Links app user? id ∧
      env.get? Environment.personKey = some id

namespace Keeping

open Environment

section
variable {directory : Directory} {app : String} {user? : Option String}
  {env bound : Environment} {name : String} {value id : Json}

theorem refl (env : Environment) : Keeping directory app user? env env :=
  ⟨fun _ _ => rfl, .inl rfl⟩

theorem userId? (h : Keeping directory app user? env bound) : env.userId? = bound.userId? := by
  rw [Environment.userId?, Environment.userId?, h.values userKey (by decide)]

theorem personId? (h : Keeping directory app user? env bound) :
    env.personId? = bound.personId? ∨ bound.personId? = none ∧
      ∀ id, env.personId? = some id → directory.Links app user? id := by
  rcases h.person with hsame | ⟨hnone, id, hlinked, hkept⟩
  · exact .inl (by rw [Environment.personId?, Environment.personId?, hsame])
  · refine .inr ⟨hnone, fun known hknown => ?_⟩
    rw [Environment.personId?, hkept] at hknown
    obtain ⟨hknown, -⟩ := Option.filter_eq_some_iff.mp hknown
    exact Option.some.inj hknown ▸ hlinked

theorem bindOne (h : Keeping directory app user? env bound) (name : String) (value : Json) :
    Keeping directory app user? (env.bindOne name value) (bound.bindOne name value) := by
  refine ⟨fun other hne => ?_, ?_⟩
  · by_cases hname : other = name
    · subst hname
      exact get?_bindOne_congr (h.values other hne) (h.values other hne)
    · rw [get?_bindOne_of_ne hname, get?_bindOne_of_ne hname, h.values other hne]
  by_cases hname : personKey = name
  · subst hname
    rcases h.person with hsame | ⟨hnone, id, hlinked, hkept⟩
    · exact .inl (get?_bindOne_congr hsame hsame)
    cases hs : isSentinel value with
    | false => exact .inl (by rw [get?_bindOne_self hs, get?_bindOne_self hs])
    | true =>
      refine .inr ⟨?_, id, hlinked, ?_⟩
      · rw [Environment.personId?, get?_bindOne]
        split
        · simp [hs]
        · exact hnone
      · rw [get?_bindOne, isDerived, hkept]
        split
        next hfree =>
          -- An id that is itself the sentinel is replaced by the sentinel.
          have hid : isSentinel id = true := by simpa [hs] using hfree.2
          rw [isSentinel_iff.mp hs, isSentinel_iff.mp hid]
        · rfl
  · unfold Environment.personId?
    rw [get?_bindOne_of_ne hname, get?_bindOne_of_ne hname]
    exact h.person

theorem bind (h : Keeping directory app user? env bound) (bindings : Bindings) :
    Keeping directory app user? (env.bind bindings) (bound.bind bindings) := by
  induction bindings generalizing env bound with
  | nil => exact h
  | cons binding rest ih => exact ih (h.bindOne binding.1 binding.2)

theorem put (h : Keeping directory app user? env bound) (hnone : bound.personId? = none)
    (hlinked : directory.Links app user? id) :
    Keeping directory app user? (env.put personKey id) bound := by
  refine ⟨fun name hne => ?_, .inr ⟨hnone, id, hlinked, ?_⟩⟩
  · rw [get?_put, if_neg hne, h.values name hne]
  · rw [get?_put, if_pos rfl]

end

end Keeping

/-- The bindings leave the user alone, and the person as well: they are for the
sentinel or for null. -/
def Untouched (bindings : Bindings) : Prop :=
  ∀ binding ∈ bindings, binding.1 ≠ Environment.userKey ∧
    (binding.1 = Environment.personKey →
      Environment.isSentinel binding.2 = true ∨ binding.2.isNull = true)

theorem Untouched.bind {bindings : Bindings} (h : Untouched bindings) (env : Environment) :
    (env.bind bindings).userId? = env.userId? ∧
      (env.personId? = none → (env.bind bindings).personId? = none) := by
  induction bindings generalizing env with
  | nil => exact ⟨rfl, id⟩
  | cons binding rest ih =>
    obtain ⟨name, value⟩ := binding
    obtain ⟨⟨hname, hvalue⟩, hrest⟩ := List.forall_mem_cons.mp h
    obtain ⟨huser, hperson⟩ := ih hrest (env.bindOne name value)
    refine ⟨huser.trans ?_, fun hnone => hperson ?_⟩
    · rw [Environment.userId?, Environment.userId?, Environment.get?_bindOne_of_ne hname.symm]
    · rw [Environment.personId?, Environment.get?_bindOne]
      split
      next hbound =>
        rcases hvalue hbound.1.symm with hs | hnull
        · simp [hs]
        · simp [hnull]
      · exact hnone

-- ---------------------------------------------------------------------------
-- Reading
-- ---------------------------------------------------------------------------

section
variable {directory : Directory} {app expression : String} {user? : Option String}
  {bound : Environment} {s s' : Session} {found : Option Json} {id : Json}

theorem ofText_personal (bound : Environment)
    (h : Runs (Resolution.ofText directory app expression) s found s') :
    (Reading.Personal ⟨expression, bound, s.env, found⟩ ∧
      ∃ id, Runs (Resolution.personId directory app) s id s' ∧ found = some id) ∨
    ¬Reading.Personal ⟨expression, bound, s.env, found⟩ ∧ s' = s := by
  cases Resolution.ofText_yields.mp h with
  | literal hpath =>
    refine .inr ⟨?_, rfl⟩
    rintro ⟨own, value, hown, -⟩
    cases hpath.symm.trans hown
  | missing hpath hv =>
    refine .inr ⟨?_, rfl⟩
    rintro ⟨own, value, hown, hvalue, -⟩
    cases hpath.symm.trans hown
    cases hv.symm.trans hvalue
  | value hpath hv hs =>
    refine .inr ⟨?_, rfl⟩
    rintro ⟨own, value, hown, hvalue, hsentinel⟩
    cases hpath.symm.trans hown
    cases hv.symm.trans hvalue
    cases hs.symm.trans hsentinel
  | personal hpath hv hs hid => exact .inl ⟨⟨_, _, hpath, hv, hs⟩, _, hid, rfl⟩

theorem personId_keeping (hkeeping : Keeping directory app user? s.env bound)
    (h : Runs (Resolution.personId directory app) s id s') :
    (bound.personId? = some id ∧ s' = s) ∨
      (bound.personId? = none ∧ s.env.personId? = some id ∧ directory.Links app user? id ∧
        s' = s) ∨
      (bound.personId? = none ∧ s.env.personId? = none ∧
        directory.Links app bound.userId? id ∧ s'.env = s.env.put Environment.personKey id) := by
  rcases Resolution.personId_runs.mp h with
    ⟨hknown, rfl⟩ | ⟨hnone, user, person, huser, hperson, rfl, rfl⟩
  · rcases hkeeping.personId? with hsame | ⟨hunbound, hkept⟩
    · exact .inl ⟨hsame ▸ hknown, rfl⟩
    · exact .inr (.inl ⟨hunbound, hknown, hkept id hknown, rfl⟩)
  · have hunbound : bound.personId? = none := by
      rcases hkeeping.personId? with hsame | ⟨hunbound, -⟩
      · rw [← hsame, hnone]
      · exact hunbound
    exact .inr (.inr ⟨hunbound, hnone, ⟨user, person, hkeeping.userId? ▸ huser, hperson, rfl⟩, rfl⟩)

/-- The id is the right one if no binding has got in between, and only then; it is
kept for the references to follow. -/
theorem personId_faithful (expression : String)
    (hkeeping : Keeping directory app user? s.env bound)
    (h : Runs (Resolution.personId directory app) s id s') :
    (Reading.Faithful directory app user? ⟨expression, bound, s.env, some id⟩ ↔
      Reading.Unforged directory app user? ⟨expression, bound, s.env, some id⟩) ∧
    (Reading.Faithful directory app user? ⟨expression, bound, s.env, some id⟩ →
      Keeping directory app user? s'.env bound) := by
  have hfaithful : Reading.Faithful directory app user? ⟨expression, bound, s.env, some id⟩ ↔
      directory.Links app user? id := by
    constructor
    · rintro ⟨own, hown, ⟨⟩⟩
      exact hown
    · intro hown
      exact ⟨id, hown, rfl⟩
  rw [hfaithful]
  unfold Reading.Unforged
  rcases personId_keeping hkeeping h with
    ⟨hbound, rfl⟩ | ⟨hunbound, hkept, hlinked, rfl⟩ | ⟨hunbound, hnone, hlooked, hs'⟩
  · rw [hbound]
    refine ⟨?_, fun _ => hkeeping⟩
    constructor
    · intro hown
      exact ⟨id, hown, rfl⟩
    · rintro ⟨own, hown, rfl⟩
      exact hown
  · rw [hunbound]
    refine ⟨iff_of_true hlinked ⟨id, hlinked, fun hnone => ?_⟩, fun _ => hkeeping⟩
    cases hkept.symm.trans hnone
  · rw [hunbound, hs']
    refine ⟨?_, hkeeping.put hunbound⟩
    constructor
    · intro hown
      exact ⟨id, hown, fun _ => hlooked⟩
    · rintro ⟨own, hown, hbound⟩
      rw [hlooked.unique (hbound hnone)]
      exact hown

/-- By induction on the inquiry: as long as every reference has been given the
right id, it is the right one that is kept. -/
theorem Inquiry.readings_faithful_iff {α : Type} {i : Inquiry α}
    (hkeeping : Keeping directory app user? s.env bound) :
    (∀ r ∈ i.readings directory app bound s, r.Personal → r.Faithful directory app user?) ↔
      ∀ r ∈ i.readings directory app bound s, r.Personal → r.Unforged directory app user? := by
  induction i generalizing bound s with
  | done value => simp [readings]
  | refuse e => simp [readings]
  | layer bindings next ih => exact ih (hkeeping.bind bindings)
  | ask expression next ih =>
    unfold readings
    cases hruns : (Resolution.ofText directory app expression).run.run s with
    | mk result s' =>
      cases result with
      | error e => simp
      | ok found =>
        simp only [List.forall_mem_cons]
        rcases ofText_personal bound hruns with ⟨hpersonal, id, hid, rfl⟩ | ⟨hother, rfl⟩
        · obtain ⟨hiff, hkept⟩ := personId_faithful expression hkeeping hid
          by_cases hfaithful : Reading.Faithful directory app user? ⟨expression, bound, s.env, some id⟩
          · simp only [hpersonal, hfaithful, hiff.mp hfaithful, forall_const, true_and]
            exact ih (some id) (hkept hfaithful)
          · have hforged := mt hiff.mpr hfaithful
            simp [hpersonal, hfaithful, hforged]
        · simp only [hother, false_imp_iff, true_and]
          exact ih found hkeeping

theorem Inquiry.readings_faithful {α : Type} {i : Inquiry α} {reason : PolicyError → Prop}
    (hi : i.Only reason Untouched) (hkeeping : Keeping directory app user? s.env bound)
    (huser : bound.userId? = user?) (hunbound : bound.personId? = none) :
    ∀ r ∈ i.readings directory app bound s, r.Personal → r.Faithful directory app user? := by
  induction i generalizing bound s with
  | done value => simp [readings]
  | refuse e => simp [readings]
  | layer bindings next ih =>
    obtain ⟨huser', hunbound'⟩ := hi.1.bind bound
    exact ih hi.2 (hkeeping.bind bindings) (huser'.trans huser) (hunbound' hunbound)
  | ask expression next ih =>
    unfold readings
    cases hruns : (Resolution.ofText directory app expression).run.run s with
    | mk result s' =>
      cases result with
      | error e => simp
      | ok found =>
        simp only [List.forall_mem_cons]
        rcases ofText_personal bound hruns with ⟨-, id, hid, rfl⟩ | ⟨hother, rfl⟩
        · have hlinked : directory.Links app user? id ∧ Keeping directory app user? s'.env bound := by
            -- No id has been bound, so that it was looked up, now or before.
            rcases personId_keeping hkeeping hid with
              ⟨hbound, -⟩ | ⟨-, -, hlinked, rfl⟩ | ⟨-, -, hlooked, hs'⟩
            · cases hunbound.symm.trans hbound
            · exact ⟨hlinked, hkeeping⟩
            · rw [huser] at hlooked
              exact ⟨hlooked, hs' ▸ hkeeping.put hunbound hlooked⟩
          exact ⟨fun _ => ⟨id, hlinked.1, rfl⟩, ih (some id) (hi (some id)) hlinked.2 huser hunbound⟩
        · exact ⟨fun hpersonal => absurd hpersonal hother,
            ih found (hi found) hkeeping huser hunbound⟩

end

/-- What an accumulation does is what the inquiry into its policies comes to. -/
theorem RequestContext.accumulate_inquiry {ctx : RequestContext} {config : Config}
    {directory : Directory} {policies : List MatchedPolicy} {report : Report}
    (h : (ctx.accumulate config directory policies).result = .ok report) :
    ∃ rulings s, Runs ((Inquiry.ofPolicies config policies).run directory ctx.app)
        ⟨Environment.forUser ctx.userId?, 0⟩ rulings s ∧
      ctx.accumulate config directory policies =
        ⟨.ok (Ruling.report rulings), ctx.gather rulings, s.lookups⟩ := by
  obtain ⟨p, hruns, -⟩ := accumulate_eq_ok_iff.mp h
  obtain ⟨rulings, hinquiry, hrulings⟩ := Inquiry.policies_inquiry hruns
  rw [List.nil_append] at hrulings
  refine ⟨rulings, p.session, hinquiry, ?_⟩
  rw [accumulate_of_runs hruns, hrulings]

theorem RequestContext.accumulate_faithful (ctx : RequestContext) (config : Config)
    (directory : Directory) {policies : List MatchedPolicy}
    (huntouched : ∀ p ∈ policies, Untouched p.env ∧ ∀ rule ∈ p.rules, Untouched rule.env) :
    ∀ r ∈ ctx.readings config directory policies, r.Personal →
      r.Faithful directory ctx.app ctx.userId? := by
  have honly : (Inquiry.ofPolicies config policies).Only (fun _ => True) Untouched :=
    Inquiry.ofPolicies_only huntouched fun _ => trivial
  have hforUser : (Environment.forUser ctx.userId?).userId? = ctx.userId? ∧
      (Environment.forUser ctx.userId?).personId? = none := by
    cases ctx.userId? with
    | none => exact ⟨rfl, rfl⟩
    | some user => exact ⟨rfl, rfl⟩
  exact Inquiry.readings_faithful honly (Keeping.refl _) hforUser.1 hforUser.2

/-- In an accumulation each reference to the sentinel is given the id of the person
linked to the user, provided that policies bind neither another id nor another
user before it. -/
theorem RequestContext.accumulate_faithful_iff {ctx : RequestContext} {config : Config}
    {directory : Directory} {policies : List MatchedPolicy} {report : Report}
    (h : (ctx.accumulate config directory policies).result = .ok report) :
    (∃ rulings s, Runs ((Inquiry.ofPolicies config policies).run directory ctx.app)
        ⟨Environment.forUser ctx.userId?, 0⟩ rulings s ∧
      ctx.accumulate config directory policies =
        ⟨.ok (Ruling.report rulings), ctx.gather rulings, s.lookups⟩) ∧
    ((∀ r ∈ ctx.readings config directory policies, r.Personal →
        r.Faithful directory ctx.app ctx.userId?) ↔
      ∀ r ∈ ctx.readings config directory policies, r.Personal →
        r.Unforged directory ctx.app ctx.userId?) :=
  ⟨accumulate_inquiry h, Inquiry.readings_faithful_iff (Keeping.refl _)⟩

namespace QueryRule

/-- Comes after the person has been looked up, and then binds another user. -/
def late : QueryRule :=
  { ofQuery (.object [("reviewer", .string "env.owner")]) with
    env := [("authUserId", .string "u-2"), ("owner", .string "personId")] }

/-- Binds an id in place of the person's. -/
def forging : QueryRule :=
  { ofQuery (.object [("owner", .string "env.owner")]) with
    env := [("personId", .string "p-9"), ("owner", .string "personId")] }

end QueryRule

/-- Once the person has been looked up, another user makes no difference. -/
theorem RequestContext.accumulate_faithful_iff_late :
    let ctx := { RequestContext.ofApp "app" with user := some (.ofId "u-1") }
    let directory := Directory.ofStore ⟨[.linked]⟩
    (ctx.accumulate .default directory [⟨"p", [], [.personal, .late]⟩]).result =
        .ok ⟨[("p", 0), ("p", 1)], []⟩ ∧
      (ctx.readings .default directory [⟨"p", [], [.personal, .late]⟩]).map Reading.expression =
        ["env.personId", "env.owner"] ∧
      ∀ r ∈ ctx.readings .default directory [⟨"p", [], [.personal, .late]⟩], r.Personal →
        r.Faithful directory "app" (some "u-1") := by
  intro ctx directory
  have hresult : (ctx.accumulate .default directory [⟨"p", [], [.personal, .late]⟩]).result =
      .ok ⟨[("p", 0), ("p", 1)], []⟩ := by
    rfl
  have hreadings : ctx.readings .default directory [⟨"p", [], [.personal, .late]⟩] =
      [⟨"env.personId", ⟨[("authUserId", .string "u-1"), ("personId", .string "personId")]⟩,
          ⟨[("authUserId", .string "u-1"), ("personId", .string "personId")]⟩,
          some (.string "p-1")⟩,
        ⟨"env.owner", ⟨[("authUserId", .string "u-2"), ("personId", .string "personId"),
            ("owner", .string "personId")]⟩,
          ⟨[("authUserId", .string "u-2"), ("personId", .string "p-1"),
            ("owner", .string "personId")]⟩, some (.string "p-1")⟩] := by
    rfl
  have hlinked : directory.Links "app" (some "u-1") (.string "p-1") :=
    ⟨"u-1", .linked, rfl, rfl, rfl⟩
  refine ⟨hresult, by rw [hreadings]; rfl, ?_⟩
  refine (RequestContext.accumulate_faithful_iff hresult).2.mpr ?_
  rw [hreadings]
  simp only [List.forall_mem_cons, List.not_mem_nil, false_imp_iff, implies_true, and_true]
  exact ⟨fun _ => ⟨_, hlinked, fun _ => hlinked⟩, fun _ => ⟨_, hlinked, nofun⟩⟩

/-- A rule binds an id, and what refers to the sentinel is given that. -/
theorem RequestContext.accumulate_forged :
    let ctx := { RequestContext.ofApp "app" with user := some (.ofId "u-1") }
    let directory := Directory.ofStore ⟨[.linked]⟩
    let left := ctx.accumulate .default directory [⟨"p", [], [.forging]⟩]
    left.result = .ok ⟨[("p", 0)], []⟩ ∧ left.lookups = 0 ∧
      left.context.accessQuery = some (Query.ofField "owner" (.string "p-9")) ∧
      directory.Links "app" (some "u-1") (.string "p-1") ∧
      ∃ r ∈ ctx.readings .default directory [⟨"p", [], [.forging]⟩],
        r.Personal ∧ r.found = some (.string "p-9") ∧
        ¬r.Faithful directory "app" (some "u-1") := by
  intro ctx directory left
  have hlinked : directory.Links "app" (some "u-1") (.string "p-1") :=
    ⟨"u-1", .linked, rfl, rfl, rfl⟩
  have hreadings : ctx.readings .default directory [⟨"p", [], [.forging]⟩] =
      [⟨"env.owner", ⟨[("authUserId", .string "u-1"), ("personId", .string "p-9"),
            ("owner", .string "personId")]⟩,
          ⟨[("authUserId", .string "u-1"), ("personId", .string "p-9"),
            ("owner", .string "personId")]⟩, some (.string "p-9")⟩] := by
    rfl
  rw [hreadings]
  refine ⟨by rfl, by rfl, by rfl, hlinked, _, List.mem_cons_self, ?_, rfl, ?_⟩
  · exact ⟨"owner", .string "personId", by rfl, by rfl, by rfl⟩
  · rintro ⟨id, hid, hfound⟩
    obtain rfl := hid.unique hlinked
    simp at hfound

end QueryGuard
