import QueryGuard.Proofs.Refusals
import QueryGuard.Proofs.Skipped

/-!
# Later bindings

A later binding overrides an earlier one, and the sentinel is to spare the id of a
person that has been looked up. It spares more than that: every value that is not
the sentinel. `bind_overrides_iff` tells from the history of an environment which
names it makes a difference to.
-/

namespace QueryGuard

/-- What a request does with its environment. Each question may find another
directory, and it may fail. -/
inductive Use where
  | bind (bindings : Bindings)
  | resolve (directory : Directory) (app : String) (operand : Json)

namespace Environment

def after (env : Environment) : Use → Environment
  | .bind bindings => env.bind bindings
  | .resolve directory app operand =>
    ((Resolution.ofValue directory app operand).run.run ⟨env, 0⟩).2.env

/-- Resolving the operand asks the directory, which knows the person. -/
def LooksUp (env : Environment) (directory : Directory) (app : String) (operand : Json) : Prop :=
  ∃ found s, Runs (Resolution.ofValue directory app operand) ⟨env, 0⟩ found s ∧ s.lookups = 1

section
variable (user? : Option String)

/-- The environment of a user after its uses, of which the latest comes first. -/
def reached : List Use → Environment
  | [] => forUser user?
  | use :: earlier => (reached earlier).after use

/-- The value under the name was put there by a look-up of the person. -/
def LookedUp : List Use → String → Prop
  | [], _ => False
  | .bind bindings :: earlier, name =>
    LookedUp earlier name ∧ ∀ value, (name, value) ∈ bindings → isSentinel value = true
  | .resolve directory app operand :: earlier, name =>
    name = personKey ∧ (reached user? earlier).LooksUp directory app operand ∨
      LookedUp earlier name

/-- The name was given a value other than the sentinel, as the user's id or by a
binding, and no look-up has replaced it. -/
def Given : List Use → String → Prop
  | [], name => name = userKey ∧ ∃ id, user? = some id ∧ id ≠ personKey
  | .bind bindings :: earlier, name =>
    Given earlier name ∨ ∃ value, (name, value) ∈ bindings ∧ isSentinel value = false
  | .resolve directory app operand :: earlier, name =>
    Given earlier name ∧ ¬(name = personKey ∧ (reached user? earlier).LooksUp directory app operand)

end

/-- What a binding is to make of a name: it holds the new value, except that the
sentinel leaves what it holds in place if that was looked up. -/
structure Overrides (looked : Prop) (value : Json) (held now : Option Json) : Prop where
  spared : isSentinel value = true ∧ looked → now = held
  bound : ¬(isSentinel value = true ∧ looked) → now = some value

-- ---------------------------------------------------------------------------
-- Binding
-- ---------------------------------------------------------------------------

section
variable {env : Environment} {name key : String} {value : Json} {bindings : Bindings}

theorem isDerived_iff :
    env.isDerived name = true ↔ ∃ held, env.get? name = some held ∧ isSentinel held = false := by
  simp [isDerived, Option.any_eq_true]

theorem get?_bindOne_spared (hs : isSentinel value = true) (hd : env.isDerived name = true) :
    (env.bindOne name value).get? name = env.get? name := by
  rw [get?_bindOne, if_neg (by simp [hs, hd])]

theorem get?_bindOne_free (hd : env.isDerived name = false) :
    (env.bindOne name value).get? name = some value := by
  rw [get?_bindOne, if_pos ⟨rfl, by simp [hd]⟩]

theorem isDerived_bindOne : (env.bindOne key value).isDerived name = true ↔
    env.isDerived name = true ∨ name = key ∧ isSentinel value = false := by
  by_cases hname : name = key
  · subst hname
    cases hs : isSentinel value with
    | false => simp [isDerived_iff, get?_bindOne_self hs, hs]
    | true =>
      cases hd : env.isDerived name with
      | false => simp [isDerived, get?_bindOne_free hd, hs]
      | true =>
        rw [isDerived, get?_bindOne_spared hs hd, ← isDerived, hd]
        simp
  · rw [isDerived, get?_bindOne_of_ne hname, ← isDerived]
    simp [hname]

theorem isDerived_bind (env : Environment) : (env.bind bindings).isDerived name = true ↔
    env.isDerived name = true ∨ ∃ value, (name, value) ∈ bindings ∧ isSentinel value = false := by
  induction bindings generalizing env with
  | nil => simp [bind]
  | cons binding rest ih =>
    obtain ⟨key, value⟩ := binding
    have hstep : env.bind ((key, value) :: rest) = (env.bindOne key value).bind rest := rfl
    rw [hstep, ih, isDerived_bindOne]
    simp only [List.mem_cons, Prod.mk.injEq]
    grind

theorem get?_bind_of_mem (hd : Members.Distinct bindings) (h : (name, value) ∈ bindings)
    (env : Environment) : (env.bind bindings).get? name = (env.bindOne name value).get? name := by
  induction bindings generalizing env with
  | nil => cases h
  | cons binding rest ih =>
    obtain ⟨key, first⟩ := binding
    obtain ⟨hnot, hrest⟩ := List.nodup_cons.mp hd
    have hstep : env.bind ((key, first) :: rest) = (env.bindOne key first).bind rest := rfl
    rw [hstep]
    rcases List.mem_cons.mp h with he | hm
    · cases he
      exact get?_bind_of_not_mem hnot _
    · have hne : name ≠ key := by
        rintro rfl
        exact hnot (Members.mem_names hm)
      rw [ih hrest hm]
      exact get?_bindOne_congr (get?_bindOne_of_ne hne) (get?_bindOne_of_ne hne)

theorem overrides_bindOne_iff {looked : Prop} (hlooked : looked → env.get? name ≠ none) :
    Overrides looked value (env.get? name) ((env.bindOne name value).get? name) ↔
      ¬(isSentinel value = true ∧ ¬looked ∧ env.isDerived name = true) := by
  cases hs : isSentinel value with
  | false =>
    rw [get?_bindOne_self hs]
    exact iff_of_true ⟨fun h => absurd h.1 (by simp [hs]), fun _ => rfl⟩ (by simp)
  | true =>
    cases hderived : env.isDerived name with
    | false =>
      refine iff_of_true ⟨fun h => ?_, fun _ => get?_bindOne_free hderived⟩ (by simp)
      -- What was looked up is itself the sentinel.
      obtain ⟨held, hheld⟩ := Option.ne_none_iff_exists'.mp (hlooked h.2)
      have hsame : isSentinel held = true := by simpa [isDerived, hheld] using hderived
      rw [get?_bindOne_free hderived, hheld, isSentinel_iff.mp hs, isSentinel_iff.mp hsame]
    | true =>
      have hkept := get?_bindOne_spared hs hderived
      obtain ⟨held, hheld, hother⟩ := isDerived_iff.mp hderived
      simp only [true_and, and_true, not_not]
      refine ⟨fun h => of_not_not fun hnot => ?_, fun h => ⟨fun _ => hkept, fun hnot => ?_⟩⟩
      · have hbound := h.bound fun hspared => hnot hspared.2
        rw [hkept, hheld, Option.some.injEq] at hbound
        rw [hbound, hs] at hother
        cases hother
      · exact absurd ⟨hs, h⟩ hnot

theorem bind_keeps_some (h : env.get? name ≠ none) : (env.bind bindings).get? name ≠ none := by
  induction bindings generalizing env with
  | nil => exact h
  | cons binding rest ih =>
    refine ih ?_
    rw [get?_bindOne]
    split
    · simp
    · exact h

end

-- ---------------------------------------------------------------------------
-- Resolving
-- ---------------------------------------------------------------------------

section
variable {directory : Directory} {app text : String} {operand : Json} {env : Environment}
  {s s' : Session} {e : PolicyError}

theorem personId_stops (h : Stops (Resolution.personId directory app) s e s') : s'.env = s.env := by
  rw [Resolution.personId, stops_get_bind] at h
  cases hid : s.env.personId? with
  | some known => simp [hid] at h
  | none =>
    cases huser : s.env.userId? with
    | none =>
      simp only [hid, huser, stops_throw] at h
      rw [h.2]
    | some user =>
      simp only [hid, huser, stops_set_bind] at h
      cases hd : directory app user with
      | error cause =>
        simp only [hd, stops_throw] at h
        rw [h.2]
      | ok found =>
        cases found with
        | none =>
          simp only [hd, stops_throw] at h
          rw [h.2]
        | some person => simp only [hd, stops_modify_bind, stops_pure] at h

theorem ofText_stops (h : Stops (Resolution.ofText directory app text) s e s') :
    s'.env = s.env := by
  unfold Resolution.ofText at h
  cases hpath : reference? text with
  | none => simp [hpath] at h
  | some path =>
    simp only [hpath, stops_get_bind] at h
    cases hv : s.env.lookup? path with
    | none => simp [hv] at h
    | some value =>
      by_cases hs : isSentinel value = true
      · simp only [hv, hs, if_true, map_eq_pure_bind, stops_bind, stops_pure, and_false,
          exists_false, or_false] at h
        exact personId_stops h
      · simp [hv, hs] at h

theorem ofValue_stops (h : Stops (Resolution.ofValue directory app operand) s e s') :
    s'.env = s.env := by
  cases operand with
  | string text => exact ofText_stops h
  | _ => cases stops_pure.mp h

theorem ofValue_runs_cases {found : Option Json}
    (h : Runs (Resolution.ofValue directory app operand) s found s') :
    s' = s ∨ s'.lookups = s.lookups + 1 ∧ ∃ id, s'.env = s.env.put personKey id := by
  cases operand with
  | string text =>
    cases Resolution.ofText_yields.mp h with
    | literal | missing | value => exact .inl rfl
    | personal _ _ _ hid =>
      rcases Resolution.personId_runs.mp hid with ⟨-, rfl⟩ | ⟨-, user, person, -, -, -, rfl⟩
      · exact .inl rfl
      · exact .inr ⟨rfl, _, rfl⟩
  | _ => exact .inl (runs_pure.mp h).2

theorem after_resolve (env : Environment) (directory : Directory) (app : String) (operand : Json) :
    (env.LooksUp directory app operand ∧
        ∃ id, env.after (.resolve directory app operand) = env.put personKey id) ∨
      ¬env.LooksUp directory app operand ∧ env.after (.resolve directory app operand) = env := by
  cases hrun : (Resolution.ofValue directory app operand).run.run ⟨env, 0⟩ with
  | mk result s =>
    have hafter : env.after (.resolve directory app operand) = s.env := by rw [after, hrun]
    have hlooks : env.LooksUp directory app operand → s.lookups = 1 := by
      rintro ⟨found, s', h, hlookups⟩
      cases hrun.symm.trans h
      exact hlookups
    rw [hafter]
    cases result with
    | error e =>
      refine .inr ⟨?_, ofValue_stops hrun⟩
      rintro ⟨found, s', h, -⟩
      cases hrun.symm.trans h
    | ok found =>
      rcases ofValue_runs_cases hrun with rfl | ⟨hlookups, id, henv⟩
      · exact .inr ⟨fun h => absurd (hlooks h) Nat.zero_ne_one, rfl⟩
      · exact .inl ⟨⟨found, s, hrun, hlookups⟩, id, henv⟩

end

-- ---------------------------------------------------------------------------
-- Histories
-- ---------------------------------------------------------------------------

section
variable {user? : Option String} {uses : List Use} {name : String}

theorem LookedUp.name_eq (h : LookedUp user? uses name) : name = personKey := by
  induction uses with
  | nil => cases h
  | cons use earlier ih =>
    cases use with
    | bind bindings => exact ih h.1
    | resolve directory app operand => exact h.elim And.left ih

theorem LookedUp.get?_ne_none (h : LookedUp user? uses name) :
    (reached user? uses).get? name ≠ none := by
  induction uses with
  | nil => cases h
  | cons use earlier ih =>
    cases use with
    | bind bindings => exact bind_keeps_some (ih h.1)
    | resolve directory app operand =>
      rcases after_resolve (reached user? earlier) directory app operand with
        ⟨-, id, hafter⟩ | ⟨hnot, hafter⟩ <;> rw [reached, hafter]
      · rw [h.name_eq, get?_put, if_pos rfl]
        simp
      · exact ih (h.resolve_left fun hlooked => hnot hlooked.2)

/-- What the sentinel spares is what was given to a name, besides what was looked
up. -/
theorem given_iff : Given user? uses name ↔
    ¬LookedUp user? uses name ∧ (reached user? uses).isDerived name = true := by
  induction uses with
  | nil =>
    cases user? with
    | none => simp [Given, LookedUp, reached, forUser, isDerived, empty, get?, Members.get?]
    | some id =>
      simp only [Given, LookedUp, reached, forUser, isDerived_iff, get?_put]
      split <;> simp_all [isSentinel, empty, get?, Members.get?]
  | cons use earlier ih =>
    cases use with
    | bind bindings =>
      rw [Given, LookedUp, reached, after, isDerived_bind, ih]
      grind
    | resolve directory app operand =>
      rw [Given, LookedUp, reached, ih]
      rcases after_resolve (reached user? earlier) directory app operand with
        ⟨hlooks, id, hafter⟩ | ⟨hnot, hafter⟩ <;> rw [hafter]
      · by_cases hname : name = personKey
        · simp [hname, hlooks]
        · simp [hname, isDerived, get?_put]
      · simp [hnot]

/-- What a binding makes of a name is as it should be, exactly unless the sentinel is
bound to a name that was given another value. Such a name keeps its value, and so
does every name that is not bound. -/
theorem bind_overrides_iff {bindings : Bindings} (hd : Members.Distinct bindings) :
    let env := reached user? uses
    (∀ name, name ∉ Members.names bindings → (env.bind bindings).get? name = env.get? name) ∧
      ∀ name value, (name, value) ∈ bindings →
        (Overrides (LookedUp user? uses name) value (env.get? name)
            ((env.bind bindings).get? name) ↔
          ¬(isSentinel value = true ∧ Given user? uses name)) ∧
        (isSentinel value = true → Given user? uses name →
          (env.bind bindings).get? name = env.get? name) := by
  intro env
  refine ⟨fun name h => get?_bind_of_not_mem h env, fun name value h => ?_⟩
  rw [get?_bind_of_mem hd h, given_iff]
  exact ⟨overrides_bindOne_iff LookedUp.get?_ne_none,
    fun hs hgiven => get?_bindOne_spared hs hgiven.2⟩

end

/-- The id that was looked up for the owner is spared, and the owner is bound anew. -/
theorem bind_overrides_owner :
    let uses : List Use := [.resolve (.ofStore ⟨[.linked]⟩) "app" (.string "env.owner"),
      .bind [("owner", .string "personId")]]
    let bindings : Bindings := [("personId", .string "personId"), ("owner", .string "u-2")]
    let env := reached (some "u-1") uses
    Members.Distinct bindings ∧ LookedUp (some "u-1") uses "personId" ∧
      (env.bind bindings).get? "personId" = some (.string "p-1") ∧
      (env.bind bindings).get? "owner" = some (.string "u-2") := by
  intro uses bindings env
  have hd : Members.Distinct bindings := by decide
  have hlooked : LookedUp (some "u-1") uses "personId" := .inl ⟨rfl, _, _, rfl, rfl⟩
  obtain ⟨-, hbound⟩ := @bind_overrides_iff (some "u-1") uses bindings hd
  have hperson := (hbound "personId" (.string "personId") (by simp [bindings])).1.mpr
    fun h => (given_iff.mp h.2).1 hlooked
  have howner := (hbound "owner" (.string "u-2") (by simp [bindings])).1.mpr
    fun h => absurd h.1 (by decide)
  refine ⟨hd, hlooked, (hperson.spared ⟨rfl, hlooked⟩).trans rfl, howner.bound ?_⟩
  exact fun h => absurd h.1 (by decide)

/-- The sentinel does not replace a region that was bound. -/
theorem bind_spares_region :
    let uses : List Use := [.bind [("region", .string "eu")]]
    let bindings : Bindings := [("region", .string "personId")]
    let env := reached (some "u-1") uses
    ¬LookedUp (some "u-1") uses "region" ∧
      (env.bind bindings).get? "region" = some (.string "eu") ∧
      ¬Overrides (LookedUp (some "u-1") uses "region") (.string "personId") (env.get? "region")
        ((env.bind bindings).get? "region") := by
  intro uses bindings env
  have hlooked : ¬LookedUp (some "u-1") uses "region" := fun h => absurd h.name_eq (by decide)
  have hkept : (env.bind bindings).get? "region" = some (.string "eu") := by rfl
  refine ⟨hlooked, hkept, fun h => ?_⟩
  have hbound := h.bound fun hspared => hlooked hspared.2
  simpa using hkept.symm.trans hbound

end Environment

end QueryGuard
