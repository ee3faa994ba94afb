import Mathlib
import QueryGuard.Proofs.Members
import QueryGuard.Proofs.Resolving
import QueryGuard.Proofs.WellFormed

/-!
# Rules that are skipped

A rule that is skipped adds nothing to the request, but what it bound stays in
the environment, and so does the id of a person that was looked up for its
conditions. `Indistinct` says when two environments come to the same for the
turns to follow, and `accumulate_retained` that rules whose traces nobody
notices can be left out.
-/

namespace QueryGuard

namespace Environment

/-- The name that a path starts from. -/
def root? (path : String) : Option String :=
  ((path.toList.splitOn '.').map String.ofList).head?

/-- The name that a reference starts from. -/
def nameOf? (expression : String) : Option String := (reference? expression).bind root?

end Environment

-- ---------------------------------------------------------------------------
-- What turns look at
-- ---------------------------------------------------------------------------

/-- The turn of a policy or a rule with the environment: first it binds, and then
it resolves expressions. -/
structure Turn where
  bindings : Bindings
  expressions : List String
  /-- The person is found by way of the user. -/
  asks : Prop

namespace Turn

/-- An expression refers to the name. Finding the person reads the user's. -/
def Reads (turn : Turn) (name : String) : Prop :=
  (∃ expression ∈ turn.expressions, Environment.nameOf? expression = some name) ∨
    turn.asks ∧ name = Environment.userKey

/-- What was bound to the name makes no difference any more. The sentinel
replaces no value, and so does not settle a name, except the person's own: a
value that it finds there is the one it stands for. -/
def Settles (turn : Turn) (name : String) : Prop :=
  ∃ value, (name, value) ∈ turn.bindings ∧
    (name = Environment.personKey ∨ Environment.isSentinel value = false)

/-- Some turn reads the name before any settles it. -/
def Live : List Turn → String → Prop
  | [], _ => False
  | turn :: rest, name => ¬turn.Settles name ∧ (turn.Reads name ∨ Live rest name)

/-- The user stays who it is until a person is bound. -/
def Steady : List Turn → Prop
  | [] => True
  | turn :: rest => Environment.userKey ∉ Members.names turn.bindings ∧
    ((∃ value, (Environment.personKey, value) ∈ turn.bindings ∧
      Environment.isSentinel value = false) ∨ Steady rest)

end Turn

/-- The texts among the operands. -/
def Condition.expressions (c : Condition) : List String :=
  [c.lhs, c.rhs].filterMap Json.asString?

def QueryRule.turn (rule : QueryRule) (asks : Prop) : Turn where
  bindings := rule.env
  expressions := rule.conditions.flatMap Condition.expressions ++
    match rule.query.lower? with
    | .ok (some lowered) => lowered.pruned.references
    | _ => []
  asks := asks

/-- The person's name holds the sentinel, or what it stands for in the other
environment: the id of the person that the directory links to the user there. -/
def Linked (b : Bench) (env other : Environment) : Prop :=
  ∃ value, env.get? Environment.personKey = some value ∧ (Environment.isSentinel value = true ∨
    ∃ user person, other.userId? = some user ∧ b.directory b.app user = .ok (some person) ∧
      value = .string person.id)

/-- The person has not been looked up. That there is no sentinel either makes no
difference as long as no turn reads the name. -/
def Pending (turns : List Turn) (env : Environment) : Prop :=
  (∃ value, env.get? Environment.personKey = some value ∧ Environment.isSentinel value = true) ∨
    env.get? Environment.personKey = none ∧ ¬Turn.Live turns Environment.personKey

/-- For the turns to follow the one environment does as well as the other,
in which the person may still have to be looked up. -/
structure Indistinct (b : Bench) (turns : List Turn) (env other : Environment) : Prop where
  values : ∀ name, Turn.Live turns name → name ≠ Environment.personKey →
    env.get? name = other.get? name
  person : env.get? Environment.personKey = other.get? Environment.personKey ∨
    Turn.Steady turns ∧ Linked b env other ∧ Pending turns other

-- ---------------------------------------------------------------------------
-- Environments
-- ---------------------------------------------------------------------------

namespace Environment

variable {env other : Environment} {name key path : String} {value : Json}

theorem get?_put : (env.put key value).get? name = if name = key then some value else env.get? name :=
  Members.get?_put key name value env.values

theorem get?_bindOne : (env.bindOne key value).get? name =
    if name = key ∧ (isSentinel value && env.isDerived key) = false then some value
    else env.get? name := by
  unfold bindOne
  cases isSentinel value && env.isDerived key with
  | true => simp
  | false => simp [get?_put]

theorem isSentinel_iff : isSentinel value = true ↔ value = .string personKey := by
  cases value <;> simp [isSentinel]

theorem get?_bindOne_of_ne (h : name ≠ key) : (env.bindOne key value).get? name = env.get? name := by
  rw [get?_bindOne, if_neg fun hk => h hk.1]

theorem get?_bind_of_not_mem {bindings : Bindings} (h : name ∉ Members.names bindings)
    (env : Environment) : (env.bind bindings).get? name = env.get? name := by
  induction bindings generalizing env with
  | nil => rfl
  | cons binding rest ih =>
    obtain ⟨hne, hrest⟩ := not_or.mp (List.mem_cons.not.mp h)
    exact (ih hrest _).trans (get?_bindOne_of_ne hne)

theorem get?_bindOne_self (h : isSentinel value = false) :
    (env.bindOne key value).get? key = some value := by
  rw [get?_bindOne, if_pos ⟨rfl, by simp [h]⟩]

theorem get?_bindOne_congr (hkey : env.get? key = other.get? key)
    (hname : env.get? name = other.get? name) :
    (env.bindOne key value).get? name = (other.bindOne key value).get? name := by
  rw [get?_bindOne, get?_bindOne, isDerived, isDerived, hkey, hname]

theorem exists_lookup?_eq (path : String) : ∃ name segments, root? path = some name ∧
    ∀ env : Environment, env.lookup? path = (env.get? name).bind (walk? · segments) := by
  unfold root? lookup?
  cases hs : (path.toList.splitOn '.').map String.ofList with
  | nil => simp [List.splitOn_ne_nil] at hs
  | cons name segments => exact ⟨name, segments, rfl, fun _ => rfl⟩

end Environment

-- ---------------------------------------------------------------------------
-- Binding one name of a turn
-- ---------------------------------------------------------------------------

namespace Turn

open Environment

section
variable {bindings : Bindings} {expressions : List String} {asks : Prop} {rest : List Turn}
  {name key : String} {value : Json}

theorem not_settles_nil : ¬Settles ⟨[], expressions, asks⟩ name := by
  simp [Settles]

theorem Live.of_binding (h : Live (⟨bindings, expressions, asks⟩ :: rest) name)
    (hbound : ¬(name = key ∧ (name = personKey ∨ isSentinel value = false))) :
    Live (⟨(key, value) :: bindings, expressions, asks⟩ :: rest) name := by
  obtain ⟨hsettled, hl⟩ := h
  refine ⟨?_, hl⟩
  rintro ⟨held, hm, hsettles⟩
  rcases List.mem_cons.mp hm with he | hm
  · cases he
    exact hbound ⟨rfl, hsettles⟩
  · exact hsettled ⟨held, hm, hsettles⟩

theorem Steady.of_binding (h : Steady (⟨(key, value) :: bindings, expressions, asks⟩ :: rest)) :
    userKey ≠ key ∧ ((personKey = key ∧ isSentinel value = false) ∨
      Steady (⟨bindings, expressions, asks⟩ :: rest)) := by
  obtain ⟨hfree, hrest⟩ := h
  simp only [Members.names, List.map_cons, List.mem_cons, not_or] at hfree
  refine ⟨hfree.1, ?_⟩
  rcases hrest with ⟨held, hm, hplain⟩ | hrest
  · rcases List.mem_cons.mp hm with he | hm
    · cases he
      exact .inl ⟨rfl, hplain⟩
    · exact .inr ⟨hfree.2, .inl ⟨held, hm, hplain⟩⟩
  · exact .inr ⟨hfree.2, .inr hrest⟩

end

end Turn

-- ---------------------------------------------------------------------------
-- Indistinct environments
-- ---------------------------------------------------------------------------

theorem Linked.congr {b : Bench} {env other env' other' : Environment}
    (hperson : env.get? Environment.personKey = env'.get? Environment.personKey)
    (huser : other.get? Environment.userKey = other'.get? Environment.userKey)
    (h : Linked b env other) : Linked b env' other' := by
  unfold Linked Environment.userId?
  rw [← hperson, ← huser]
  exact h

theorem Linked.bindOne {b : Bench} {env other : Environment} {value : Json}
    (h : Linked b env other) (hs : Environment.isSentinel value = true) :
    Linked b (env.bindOne Environment.personKey value)
      (other.bindOne Environment.personKey value) := by
  have huser : (other.bindOne Environment.personKey value).userId? = other.userId? := by
    rw [Environment.userId?, Environment.userId?, Environment.get?_bindOne_of_ne (by decide)]
  obtain ⟨held, hheld, hlinked⟩ := h
  unfold Linked
  rw [Environment.get?_bindOne, huser]
  split
  · exact ⟨value, rfl, .inl hs⟩
  · exact ⟨held, hheld, hlinked⟩

theorem Pending.bindOne {turns others : List Turn} {env : Environment} {value : Json}
    (h : Pending turns env) (hs : Environment.isSentinel value = true) :
    Pending others (env.bindOne Environment.personKey value) := by
  have hfree : env.isDerived Environment.personKey = false := by
    rcases h with ⟨held, hheld, hs⟩ | ⟨hnone, -⟩
    · simp [Environment.isDerived, hheld, hs]
    · simp [Environment.isDerived, hnone]
  refine .inl ⟨value, ?_, hs⟩
  rw [Environment.get?_bindOne, if_pos ⟨rfl, by simp [hfree]⟩]

theorem Pending.personId? {turns : List Turn} {env : Environment} (h : Pending turns env) :
    env.personId? = none := by
  rw [Environment.personId?, Option.filter_eq_none_iff]
  rcases h with ⟨held, hheld, hs⟩ | ⟨hnone, -⟩
  · simp [hheld, hs]
  · simp [hnone]

namespace Indistinct

open Environment

section
variable {b : Bench} {turns rest : List Turn} {bindings : Bindings} {expressions : List String}
  {asks : Prop} {env mid other : Environment} {name key : String} {value : Json}

theorem refl (env : Environment) : Indistinct b turns env env := ⟨fun _ _ _ => rfl, .inl rfl⟩

theorem tail (h : Indistinct b (⟨[], expressions, asks⟩ :: rest) env other) :
    Indistinct b rest env other := by
  have hlive : ∀ name, Turn.Live rest name → Turn.Live (⟨[], expressions, asks⟩ :: rest) name :=
    fun name hl => ⟨Turn.not_settles_nil, .inr hl⟩
  refine ⟨fun name hl => h.values name (hlive name hl), h.person.imp_right ?_⟩
  rintro ⟨hsteady, hlinked, hpending⟩
  refine ⟨hsteady.2.resolve_left (by simp), hlinked, ?_⟩
  refine hpending.imp_right ?_
  rintro ⟨hnone, hunread⟩
  exact ⟨hnone, fun hl => hunread (hlive _ hl)⟩

/-- Where the first step changes the person, the user has to be the same in the
second. -/
theorem trans (h : Indistinct b turns env mid)
    (h' : Indistinct b (⟨[], [], mid.get? personKey ≠ env.get? personKey⟩ :: turns) mid other) :
    Indistinct b turns env other where
  values name hl hne := (h.values name hl hne).trans (h'.tail.values name hl hne)
  person := by
    by_cases hperson : mid.get? personKey = env.get? personKey
    · refine h'.tail.person.imp hperson.symm.trans ?_
      rintro ⟨hsteady, hlinked, hpending⟩
      exact ⟨hsteady, hlinked.congr hperson rfl, hpending⟩
    · obtain ⟨hsteady, hlinked, hpending⟩ := h.person.resolve_left (Ne.symm hperson)
      have huser : mid.get? userKey = other.get? userKey :=
        h'.values _ ⟨Turn.not_settles_nil, .inl (.inr ⟨hperson, rfl⟩)⟩ (by decide)
      refine .inr ⟨hsteady, hlinked.congr rfl huser, ?_⟩
      rcases h'.tail.person with hsame | ⟨-, -, hpending'⟩
      · unfold Pending
        rwa [← hsame]
      · exact hpending'

theorem bindOne (h : Indistinct b (⟨(key, value) :: bindings, expressions, asks⟩ :: rest) env other) :
    Indistinct b (⟨bindings, expressions, asks⟩ :: rest) (env.bindOne key value)
      (other.bindOne key value) := by
  refine ⟨fun name hl hne => ?_, ?_⟩
  · by_cases hk : name = key
    · subst hk
      cases hs : isSentinel value with
      | false => rw [get?_bindOne_self hs, get?_bindOne_self hs]
      | true =>
        have hsame := h.values name (hl.of_binding (by simp [hne, hs])) hne
        exact get?_bindOne_congr hsame hsame
    · rw [get?_bindOne_of_ne hk, get?_bindOne_of_ne hk]
      exact h.values name (hl.of_binding fun hbound => hk hbound.1) hne
  · by_cases hk : personKey = key
    · subst hk
      rcases h.person with hsame | ⟨hs, hlinked, hpending⟩
      · exact .inl (get?_bindOne_congr hsame hsame)
      · -- The sentinel is put over the sentinel, and spares the id that was looked up.
        cases hv : isSentinel value with
        | false => exact .inl (by rw [get?_bindOne_self hv, get?_bindOne_self hv])
        | true =>
          have hs := hs.of_binding.2.resolve_left (by simp [hv])
          exact .inr ⟨hs, hlinked.bindOne hv, hpending.bindOne hv⟩
    · rw [get?_bindOne_of_ne hk, get?_bindOne_of_ne hk]
      refine h.person.imp_right ?_
      rintro ⟨hs, hlinked, hpending⟩
      obtain ⟨huser, hs⟩ := hs.of_binding
      refine ⟨hs.resolve_left (by simp [hk]), ?_, ?_⟩
      · exact hlinked.congr (get?_bindOne_of_ne hk).symm (get?_bindOne_of_ne huser).symm
      · unfold Pending
        rw [get?_bindOne_of_ne hk]
        refine hpending.imp_right ?_
        rintro ⟨hnone, hunread⟩
        exact ⟨hnone, fun hl => hunread (hl.of_binding fun hbound => hk hbound.1)⟩

theorem bind (h : Indistinct b (⟨bindings, expressions, asks⟩ :: rest) env other) :
    Indistinct b (⟨[], expressions, asks⟩ :: rest) (env.bind bindings) (other.bind bindings) := by
  induction bindings generalizing env other with
  | nil => exact h
  | cons binding bindings ih => exact ih h.bindOne

theorem withPerson {env' other' : Environment} (h : Indistinct b turns env other)
    (henv : ∀ name, name ≠ personKey → env'.get? name = env.get? name)
    (hother : ∀ name, name ≠ personKey → other'.get? name = other.get? name)
    (hperson : env'.get? personKey = other'.get? personKey) : Indistinct b turns env' other' where
  values name hl hne := by rw [henv _ hne, hother _ hne, h.values name hl hne]
  person := .inl hperson

end

end Indistinct

-- ---------------------------------------------------------------------------
-- Resolving in indistinct environments
-- ---------------------------------------------------------------------------

/-- What the resolution gives in one environment it gives in another that is
indistinct from it, and it leaves indistinct ones. If it has the person looked up,
the user has to count. -/
structure Indifferent {α : Type} (b : Bench) (turns : List Turn) (m : Resolution α) : Prop where
  looks : ∀ (s : Session) (a : α) (s' : Session), Runs m s a s' → s.lookups ≤ s'.lookups
  alike : ∀ (s r : Session) (a : α) (s' : Session), Indistinct b turns s.env r.env → Runs m s a s' →
    (s.lookups < s'.lookups → Turn.Live turns Environment.userKey) →
    ∃ r', Runs m r a r' ∧ Indistinct b turns s'.env r'.env

namespace Indifferent

open Environment Resolution

section
variable {α β : Type} {b : Bench} {turns : List Turn} {m : Resolution α} {f : α → Resolution β}

theorem pure (a : α) : Indifferent b turns (Pure.pure a : Resolution α) where
  looks s a' s' hruns := by
    obtain ⟨rfl, rfl⟩ := runs_pure.mp hruns
    exact Nat.le_refl _
  alike s r a' s' h hruns _ := by
    obtain ⟨rfl, rfl⟩ := runs_pure.mp hruns
    exact ⟨r, runs_pure.mpr ⟨rfl, rfl⟩, h⟩

theorem throw (e : PolicyError) : Indifferent b turns (MonadExcept.throw e : Resolution α) where
  looks _ _ _ hruns := (runs_throw.mp hruns).elim
  alike _ _ _ _ _ hruns _ := (runs_throw.mp hruns).elim

theorem bind (hm : Indifferent b turns m) (hf : ∀ a, Indifferent b turns (f a)) :
    Indifferent b turns (m >>= f) where
  looks s a s' hruns := by
    obtain ⟨first, next, hfirst, hruns⟩ := runs_bind.mp hruns
    exact Nat.le_trans (hm.looks _ _ _ hfirst) ((hf first).looks _ _ _ hruns)
  alike s r a s' h hruns hasks := by
    obtain ⟨first, next, hfirst, hruns⟩ := runs_bind.mp hruns
    have hbefore := hm.looks _ _ _ hfirst
    have hbehind := (hf first).looks _ _ _ hruns
    obtain ⟨r', hr', h⟩ := hm.alike s r first next h hfirst fun hlt => hasks (by omega)
    obtain ⟨r'', hr'', h⟩ := (hf first).alike next r' a s' h hruns fun hlt => hasks (by omega)
    exact ⟨r'', runs_bind.mpr ⟨first, r', hr', hr''⟩, h⟩

theorem personId_looks {s s' : Session} {id : Json}
    (hruns : Runs (Resolution.personId b.directory b.app) s id s') : s.lookups ≤ s'.lookups := by
  rcases personId_runs.mp hruns with ⟨-, rfl⟩ | ⟨-, _, _, -, -, -, rfl⟩
  · exact Nat.le_refl _
  · exact Nat.le_succ _

theorem personId_alike {s r s' : Session} {id : Json} (h : Indistinct b turns s.env r.env)
    (hruns : Runs (Resolution.personId b.directory b.app) s id s')
    (hasks : s.lookups < s'.lookups → Turn.Live turns userKey) :
    ∃ r', Runs (Resolution.personId b.directory b.app) r id r' ∧
      Indistinct b turns s'.env r'.env := by
  have hput : ∀ (env : Environment) value name, name ≠ personKey →
      (env.put personKey value).get? name = env.get? name := by
    intro env value name hne
    rw [get?_put, if_neg hne]
  -- What the other run finds by looking up is what this one holds in the end.
  have hfound : r.env.personId? = none → (∃ user person, r.env.userId? = some user ∧
      b.directory b.app user = .ok (some person) ∧ id = .string person.id) →
      s'.env.get? personKey = some id →
      (∀ name, name ≠ personKey → s'.env.get? name = s.env.get? name) →
      ∃ r', Runs (Resolution.personId b.directory b.app) r id r' ∧
        Indistinct b turns s'.env r'.env := by
    rintro hunknown ⟨user, person, huser, hd, rfl⟩ hheld hrest
    refine ⟨_, personId_runs.mpr (.inr ⟨hunknown, user, person, huser, hd, rfl, rfl⟩), ?_⟩
    refine h.withPerson hrest (hput _ _) ?_
    rw [hheld, get?_put, if_pos rfl]
  rcases personId_runs.mp hruns with ⟨hid, rfl⟩ | ⟨hunknown, user, person, huser, hd, rfl, rfl⟩
  · rcases h.person with hsame | ⟨-, hlinked, hpending⟩
    · refine ⟨r, personId_runs.mpr (.inl ⟨?_, rfl⟩), h⟩
      rwa [Environment.personId?, ← hsame]
    · obtain ⟨held, hheld, hlinked⟩ := hlinked
      obtain ⟨hknown, hplain⟩ := Option.filter_eq_some_iff.mp hid
      obtain rfl := Option.some.inj (hheld.symm.trans hknown)
      rcases hlinked with hs | hlinked
      · simp [hs] at hplain
      · exact hfound hpending.personId? hlinked hheld fun _ _ => rfl
  · have hsame := h.values userKey (hasks (Nat.lt_succ_self _)) (by decide)
    have huser : r.env.userId? = some user := by rw [← huser, userId?, userId?, hsame]
    refine hfound ?_ ⟨user, person, huser, hd, rfl⟩ ?_ (hput _ _)
    · rcases h.person with hsame | ⟨-, -, hpending⟩
      · rwa [Environment.personId?, ← hsame]
      · exact hpending.personId?
    · rw [get?_put, if_pos rfl]

theorem ofText_of_lookup? {expression path : String} {s r s' : Session} {found : Option Json}
    (h : Indistinct b turns s.env r.env) (hpath : reference? expression = some path)
    (hsame : s.env.lookup? path = r.env.lookup? path)
    (hruns : Runs (Resolution.ofText b.directory b.app expression) s found s')
    (hasks : s.lookups < s'.lookups → Turn.Live turns userKey) :
    ∃ r', Runs (Resolution.ofText b.directory b.app expression) r found r' ∧
      Indistinct b turns s'.env r'.env := by
  simp only [ofText_yields] at hruns ⊢
  cases hruns with
  | literal hown => cases hpath.symm.trans hown
  | missing hown hv =>
    cases hpath.symm.trans hown
    exact ⟨r, .missing hpath (hsame ▸ hv), h⟩
  | value hown hv hs =>
    cases hpath.symm.trans hown
    exact ⟨r, .value hpath (hsame ▸ hv) hs, h⟩
  | personal hown hv hs hid =>
    cases hpath.symm.trans hown
    obtain ⟨r', hr', h⟩ := personId_alike h hid hasks
    exact ⟨r', .personal hpath (hsame ▸ hv) hs hr', h⟩

theorem ofText_looks {expression : String} {s s' : Session} {found : Option Json}
    (hruns : Runs (Resolution.ofText b.directory b.app expression) s found s') :
    s.lookups ≤ s'.lookups := by
  cases ofText_yields.mp hruns with
  | personal _ _ _ hid => exact personId_looks hid
  | _ => exact Nat.le_refl _

theorem ofText {expression : String}
    (hl : ∀ name, nameOf? expression = some name → Turn.Live turns name) :
    Indifferent b turns (Resolution.ofText b.directory b.app expression) := by
  refine ⟨fun s found s' => ofText_looks, fun s r found s' h hruns hasks => ?_⟩
  cases hpath : reference? expression with
  | none =>
    simp only [ofText_runs, hpath, Option.map_none] at hruns
    obtain ⟨rfl, rfl⟩ := hruns
    exact ⟨r, ofText_yields.mpr (.literal hpath), h⟩
  | some path =>
    obtain ⟨name, segments, hroot, hlookup⟩ := exists_lookup?_eq path
    have hl := hl name (by rw [nameOf?, hpath]; exact hroot)
    by_cases hsame : s.env.get? name = r.env.get? name
    · exact ofText_of_lookup? h hpath (by rw [hlookup, hlookup, hsame]) hruns hasks
    · -- The name is the person's, who has been looked up in the one environment only.
      have hname : name = personKey := by
        by_contra hne
        exact hsame (h.values name hl hne)
      subst hname
      obtain ⟨-, ⟨held, hheld, hlinked⟩, hpending⟩ := h.person.resolve_left hsame
      obtain ⟨own, hown, hsentinel⟩ := hpending.resolve_right fun hnone => hnone.2 hl
      obtain rfl := isSentinel_iff.mp hsentinel
      cases segments with
      | cons segment rest =>
        have htext : ∃ text, held = .string text := by
          rcases hlinked with hs | ⟨_, person, -, -, rfl⟩
          · exact ⟨_, isSentinel_iff.mp hs⟩
          · exact ⟨person.id, rfl⟩
        obtain ⟨text, rfl⟩ := htext
        refine ofText_of_lookup? h hpath ?_ hruns hasks
        rw [hlookup, hlookup, hheld, hown]
        rfl
      | nil =>
        have hlooked : s.env.lookup? path = some held := by rw [hlookup, hheld]; rfl
        have hfound : ∃ id, Runs (Resolution.personId b.directory b.app) s id s' ∧
            found = some id := by
          simp only [ofText_runs, hpath, Option.map_some, hlooked] at hruns
          by_cases hs : isSentinel held = true
          · simpa only [hs, if_true] using hruns
          · obtain ⟨-, person, -, -, rfl⟩ := hlinked.resolve_left hs
            simp only [hs] at hruns
            obtain ⟨rfl, rfl⟩ := hruns
            refine ⟨_, personId_runs.mpr (.inl ⟨?_, rfl⟩), rfl⟩
            simp [Environment.personId?, hheld, hs, Json.isNull]
        obtain ⟨id, hid, rfl⟩ := hfound
        obtain ⟨r', hr', h⟩ := personId_alike h hid hasks
        have hasked : r.env.lookup? path = some (.string personKey) := by rw [hlookup, hown]; rfl
        exact ⟨r', ofText_yields.mpr (.personal hpath hasked hsentinel hr'), h⟩

theorem ofValue {value : Json} (hl : ∀ expression name, value.asString? = some expression →
    nameOf? expression = some name → Turn.Live turns name) :
    Indifferent b turns (Resolution.ofValue b.directory b.app value) := by
  cases value with
  | string expression => exact ofText (hl expression · rfl)
  | _ => exact pure _

theorem holds {c : Condition} (hl : ∀ expression ∈ c.expressions, ∀ name,
    nameOf? expression = some name → Turn.Live turns name) :
    Indifferent b turns (c.holds b.directory b.app) := by
  have hoperand : ∀ value ∈ [c.lhs, c.rhs], ∀ expression name, value.asString? = some expression →
      nameOf? expression = some name → Turn.Live turns name := by
    intro value hm expression name htext
    exact hl expression (List.mem_filterMap.mpr ⟨value, hm, htext⟩) name
  unfold Condition.holds
  refine bind (ofValue (hoperand c.lhs (by simp))) fun lhs => ?_
  exact bind (ofValue (hoperand c.rhs (by simp))) fun rhs => pure _

theorem allHold {conditions : List Condition}
    (hl : ∀ expression ∈ conditions.flatMap Condition.expressions, ∀ name,
      nameOf? expression = some name → Turn.Live turns name) :
    Indifferent b turns (Resolution.allHold b.directory b.app conditions) := by
  induction conditions with
  | nil => exact pure true
  | cons condition rest ih =>
    simp only [List.flatMap_cons, List.mem_append] at hl
    refine bind (holds fun expression hm => hl expression (.inl hm)) fun first => ?_
    cases first with
    | true => exact ih fun expression hm => hl expression (.inr hm)
    | false => exact pure false

theorem ofReferences {mode : UnresolvedMode} {references : List String}
    (hl : ∀ expression ∈ references, ∀ name,
      nameOf? expression = some name → Turn.Live turns name) :
    Indifferent b turns (Resolution.ofReferences mode b.directory b.app references) := by
  induction references with
  | nil => exact pure []
  | cons reference rest ih =>
    have hvalue : Indifferent b turns
        (Resolution.ofReference mode b.directory b.app reference) := by
      unfold Resolution.ofReference
      refine bind (ofText (hl reference List.mem_cons_self)) fun found => ?_
      cases found with
      | some value => exact pure value
      | none =>
        cases mode with
        | null => exact pure _
        | reject => exact throw _
    unfold Resolution.ofReferences
    refine bind hvalue fun value => bind (ih fun expression hm => ?_) fun _ => pure _
    exact hl expression (List.mem_cons_of_mem _ hm)

theorem verdict {rule : QueryRule} {asks : Prop} {rest : List Turn} {fragment : Option Query}
    {s r s' : Session} (h : Indistinct b (rule.turn asks :: rest) s.env r.env)
    (hruns : Runs (b.verdict rule) s (.applies fragment) s')
    (hasks : s.lookups < s'.lookups → asks) :
    ∃ r', Runs (b.verdict rule) r (.applies fragment) r' ∧ Indistinct b rest s'.env r'.env := by
  obtain ⟨next, hholds, happlies⟩ := Bench.verdict_applies_runs.mp hruns
  have hreads : ∀ expression ∈ (rule.turn asks).expressions, ∀ name, nameOf? expression = some name →
      Turn.Live (⟨[], (rule.turn asks).expressions, asks⟩ :: rest) name :=
    fun expression hm name hn => ⟨Turn.not_settles_nil, .inl (.inl ⟨expression, hm, hn⟩)⟩
  -- The user counts if the person is looked up for the conditions or for the query.
  have huser : s.lookups < s'.lookups →
      Turn.Live (⟨[], (rule.turn asks).expressions, asks⟩ :: rest) userKey :=
    fun hlt => ⟨Turn.not_settles_nil, .inl (.inr ⟨hasks hlt, rfl⟩)⟩
  have hbound : Indistinct b (⟨[], (rule.turn asks).expressions, asks⟩ :: rest)
      (s.layered rule.env).env (r.layered rule.env).env := h.bind
  have hconditions : Indifferent b (⟨[], (rule.turn asks).expressions, asks⟩ :: rest)
      (Resolution.allHold b.directory b.app rule.conditions) :=
    allHold fun expression hm => hreads expression (List.mem_append_left _ hm)
  have hsubstituted : ∀ lowered, rule.query.lower? = .ok (some lowered) → Indifferent b
      (⟨[], (rule.turn asks).expressions, asks⟩ :: rest)
      (Resolution.substitute b.config.unresolved b.directory b.app lowered.pruned) := by
    intro lowered hlowered
    unfold Resolution.substitute
    refine bind (ofReferences fun expression hm => hreads expression ?_) fun _ => pure _
    refine List.mem_append_right _ ?_
    rw [hlowered]
    exact hm
  cases hlowered : rule.query.lower? with
  | error source =>
    rw [hlowered] at happlies
    cases happlies
  | ok found =>
    cases found with
    | none =>
      rw [hlowered] at happlies
      obtain ⟨rfl, rfl⟩ := happlies
      obtain ⟨r', hr', h⟩ := hconditions.alike _ _ _ _ hbound hholds huser
      refine ⟨r', Bench.verdict_applies_runs.mpr ⟨r', hr', ?_⟩, h.tail⟩
      rw [hlowered]
      exact ⟨rfl, rfl⟩
    | some lowered =>
      rw [hlowered] at happlies
      obtain ⟨substituted, hput, rfl⟩ := happlies
      have hbefore := hconditions.looks _ _ _ hholds
      have hbehind := (hsubstituted lowered hlowered).looks _ _ _ hput
      obtain ⟨r', hr', h⟩ := hconditions.alike _ _ _ _ hbound hholds
        fun hlt => huser (Nat.lt_of_lt_of_le hlt hbehind)
      obtain ⟨r'', hr'', h⟩ := (hsubstituted lowered hlowered).alike _ _ _ _ h hput
        fun hlt => huser (Nat.lt_of_le_of_lt hbefore hlt)
      refine ⟨r'', Bench.verdict_applies_runs.mpr ⟨r', hr', ?_⟩, h.tail⟩
      rw [hlowered]
      exact ⟨substituted, hr'', rfl⟩

end

end Indifferent

-- ---------------------------------------------------------------------------
-- Hearings
-- ---------------------------------------------------------------------------

/-- A rule that is judged, with the environments before and after. -/
structure Hearing where
  rule : QueryRule
  ruling : Ruling
  before : Environment
  after : Environment
  /-- The directory was asked for the person. -/
  asked : Bool

/-- The hearings of the rules of a policy. -/
structure Trial where
  policy : MatchedPolicy
  hearings : List Hearing

namespace Hearing

/-- The rules that applied. -/
def retained (hearings : List Hearing) : List QueryRule :=
  (hearings.filter fun hearing => hearing.ruling.verdict.isApplied).map Hearing.rule

/-- The turn of a rule that applied. One that did not is left out, but if the
person changed under it, the user of that time still counts. -/
def turn (hearing : Hearing) : Turn :=
  if hearing.ruling.verdict.isApplied then hearing.rule.turn (hearing.asked = true)
  else ⟨[], [], hearing.before.get? Environment.personKey ≠ hearing.after.get? Environment.personKey⟩

/-- Whatever is left behind by the rules that do not apply, the turns after them
do not notice. -/
def Unnoticed (b : Bench) (rest : List Turn) : List Hearing → Prop
  | [] => True
  | hearing :: others =>
    (hearing.ruling.verdict.isApplied = false →
      Indistinct b (others.map turn ++ rest) hearing.after hearing.before) ∧
    Unnoticed b rest others

end Hearing

namespace Trial

/-- The policy without the rules that do not apply. -/
def retained (t : Trial) : MatchedPolicy :=
  { t.policy with rules := Hearing.retained t.hearings }

def turns (t : Trial) : List Turn := ⟨t.policy.env, [], False⟩ :: t.hearings.map Hearing.turn

def Unnoticed (b : Bench) : List Trial → Prop
  | [] => True
  | t :: others =>
    Hearing.Unnoticed b (others.flatMap turns) t.hearings ∧ Unnoticed b others

end Trial

namespace Bench

/-- Hears rules from a place on, until judging fails. -/
def hear (b : Bench) (policy : String) (index : Nat) (s : Session) :
    List QueryRule → List Hearing × Session
  | [] => ([], s)
  | rule :: rest =>
    match (b.verdict rule).run.run s with
    | (.ok verdict, next) =>
      let (hearings, last) := b.hear policy (index + 1) next rest
      (⟨rule, ⟨policy, index, rule.projection, verdict⟩, s.env, next.env,
        s.lookups < next.lookups⟩ :: hearings, last)
    | (.error _, last) => ([], last)

def trials (b : Bench) (s : Session) : List MatchedPolicy → List Trial
  | [] => []
  | p :: rest =>
    let heard := b.hear p.name 0 (s.layered p.env) p.rules
    ⟨p, heard.1⟩ :: b.trials heard.2 rest

end Bench

/-- The hearings of an accumulation. -/
def RequestContext.trials (ctx : RequestContext) (config : Config) (directory : Directory)
    (policies : List MatchedPolicy) : List Trial :=
  Bench.trials ⟨config, directory, ctx.app⟩ ⟨Environment.forUser ctx.userId?, 0⟩ policies

namespace Bench

section
variable {b : Bench} {policy : String} {index : Nat} {rule : QueryRule} {rules : List QueryRule}
  {p p' r : Proceedings}

theorem hear_cons {s next : Session} {v : Verdict} (h : Runs (b.verdict rule) s v next) :
    b.hear policy index s (rule :: rules) =
      (⟨rule, ⟨policy, index, rule.projection, v⟩, s.env, next.env, s.lookups < next.lookups⟩ ::
        (b.hear policy (index + 1) next rules).1, (b.hear policy (index + 1) next rules).2) := by
  have h : (b.verdict rule).run.run s = (.ok v, next) := h
  rw [hear, h]

theorem hear_of_runs {vs : List Verdict} (h : Runs (b.rules policy index rules) p vs p') :
    p'.session = (b.hear policy index p.session rules).2 ∧
      (b.hear policy index p.session rules).1.map Hearing.rule = rules ∧
      p'.rulings = p.rulings ++ (b.hear policy index p.session rules).1.map Hearing.ruling := by
  induction rules generalizing index p vs with
  | nil =>
    obtain ⟨-, rfl⟩ := runs_pure.mp h
    simp [hear]
  | cons rule rest ih =>
    obtain ⟨v, next, hrule, others, hrest, rfl⟩ := rules_cons_runs.mp h
    obtain ⟨hv, hrulings, -⟩ := rule_runs.mp hrule
    obtain ⟨hsession, hrules, hothers⟩ := ih hrest
    rw [hear_cons hv]
    refine ⟨hsession, congrArg (rule :: ·) hrules, ?_⟩
    rw [hothers, hrulings, List.append_assoc]
    rfl

theorem trials_of_runs {policies : List MatchedPolicy} (h : Runs (b.policies policies) p () p') :
    (b.trials p.session policies).map Trial.policy = policies ∧
      (∀ t ∈ b.trials p.session policies, t.hearings.map Hearing.rule = t.policy.rules) ∧
      p'.rulings = p.rulings ++
        (b.trials p.session policies).flatMap fun t => t.hearings.map Hearing.ruling := by
  induction policies generalizing p with
  | nil =>
    obtain ⟨-, rfl⟩ := runs_pure.mp h
    simp [trials]
  | cons policy rest ih =>
    obtain ⟨next, hpolicy, hrest⟩ := policies_cons_runs.mp h
    obtain ⟨vs, hruns, -⟩ := policy_runs.mp hpolicy
    obtain ⟨hsession, hrules, hrulings⟩ := hear_of_runs hruns
    obtain ⟨hpolicies, hothers, hrest⟩ := ih hrest
    simp only [trials, ← hsession]
    refine ⟨congrArg (policy :: ·) hpolicies, ?_, ?_⟩
    · rintro t (_ | ⟨_, hm⟩)
      · exact hrules
      · exact hothers t hm
    · rw [hrest, hrulings, List.flatMap_cons, List.append_assoc]

/-- One run gathers what the other does, and leaves an environment that is as
good for the turns to follow. -/
structure Follows (b : Bench) (turns : List Turn) (p r : Proceedings) : Prop where
  env : Indistinct b turns p.session.env r.session.env
  gathered : ∀ ctx : RequestContext, ctx.gather p.rulings = ctx.gather r.rulings

theorem gather_append (ctx : RequestContext) (rulings : List Ruling) (ruling : Ruling) :
    ctx.gather (rulings ++ [ruling]) = ruling.contribute (ctx.gather rulings) := by
  simp [RequestContext.gather]

theorem contribute_of_not_applied {ruling : Ruling} (h : ruling.verdict.isApplied = false)
    (ctx : RequestContext) : ruling.contribute ctx = ctx := by
  unfold Ruling.contribute
  cases hv : ruling.verdict with
  | applies fragment => simp [hv, Verdict.isApplied] at h
  | _ => rfl

theorem fault?_of_failure?_none {vs : List Verdict} (h : ∀ v ∈ vs, v.failure? = none) :
    Verdict.fault? vs = none := by
  unfold Verdict.fault?
  split
  · rfl
  · exact List.findSome?_eq_none_iff.mpr h

theorem rules_retained {rest : List Turn} {vs : List Verdict} (j : Nat)
    (hruns : Runs (b.rules policy index rules) p vs p')
    (hquiet : Hearing.Unnoticed b rest (b.hear policy index p.session rules).1)
    (h : Follows b ((b.hear policy index p.session rules).1.map Hearing.turn ++ rest) p r) :
    ∃ vs' r', Runs (b.rules policy j (Hearing.retained (b.hear policy index p.session rules).1)) r
        vs' r' ∧ (∀ v ∈ vs', v.failure? = none) ∧ Follows b rest p' r' := by
  induction rules generalizing index j p vs r with
  | nil =>
    obtain ⟨-, rfl⟩ := runs_pure.mp hruns
    exact ⟨[], r, runs_pure.mpr ⟨rfl, rfl⟩, by simp, h⟩
  | cons rule others ih =>
    obtain ⟨v, next, hrule, _, hothers, rfl⟩ := rules_cons_runs.mp hruns
    obtain ⟨hv, hrulings, -⟩ := rule_runs.mp hrule
    rw [hear_cons hv] at hquiet h ⊢
    let turns := (b.hear policy (index + 1) next.session others).1.map Hearing.turn ++ rest
    cases v with
    | applies fragment =>
      obtain ⟨session, hv', henv⟩ := Indifferent.verdict h.env hv fun hlt => decide_eq_true hlt
      let made : Proceedings :=
        ⟨session, r.rulings ++ [⟨policy, j, rule.projection, .applies fragment⟩]⟩
      have hmade : Runs (b.rule policy j rule) r (.applies fragment) made :=
        rule_runs.mpr ⟨hv', rfl, fun _ => rfl⟩
      have hnext : Follows b turns next made := by
        refine ⟨henv, fun ctx => ?_⟩
        rw [hrulings, gather_append, gather_append, h.gathered]
        rfl
      obtain ⟨vs', r', hruns', hnone, h⟩ := ih (j + 1) hothers hquiet.2 hnext
      refine ⟨_, r', rules_cons_runs.mpr ⟨_, made, hmade, vs', hruns', rfl⟩, ?_, h⟩
      rintro v (_ | ⟨_, hm⟩)
      · rfl
      · exact hnone v hm
    | unmet | faulty =>
      have hnext : Follows b turns next r := by
        refine ⟨(hquiet.1 rfl).trans h.env, fun ctx => ?_⟩
        rw [hrulings, gather_append, contribute_of_not_applied rfl, h.gathered]
      exact ih j hothers hquiet.2 hnext

theorem policies_retained {policies : List MatchedPolicy}
    (hruns : Runs (b.policies policies) p () p')
    (hquiet : Trial.Unnoticed b (b.trials p.session policies))
    (h : Follows b ((b.trials p.session policies).flatMap Trial.turns) p r) :
    ∃ r', Runs (b.policies ((b.trials p.session policies).map Trial.retained)) r () r' ∧
      Follows b [] p' r' := by
  induction policies generalizing p r with
  | nil =>
    obtain ⟨-, rfl⟩ := runs_pure.mp hruns
    exact ⟨r, runs_pure.mpr ⟨rfl, rfl⟩, h⟩
  | cons policy others ih =>
    obtain ⟨next, hpolicy, hothers⟩ := policies_cons_runs.mp hruns
    obtain ⟨vs, hrules, -⟩ := policy_runs.mp hpolicy
    have hsession := (hear_of_runs hrules).1
    simp only [trials, ← hsession] at hquiet h ⊢
    have hopened : Follows b
        ((b.hear policy.name 0 (p.session.layered policy.env) policy.rules).1.map Hearing.turn ++
          (b.trials next.session others).flatMap Trial.turns)
        { p with session := p.session.layered policy.env }
        { r with session := r.session.layered policy.env } :=
      ⟨h.env.bind.tail, h.gathered⟩
    obtain ⟨vs', r', hruns', hnone, h⟩ := rules_retained 0 hrules hquiet.1 hopened
    obtain ⟨r'', hruns'', h⟩ := ih hothers hquiet.2 h
    refine ⟨r'', policies_cons_runs.mpr ⟨r', policy_runs.mpr ⟨vs', hruns', ?_⟩, hruns''⟩, h⟩
    exact fault?_of_failure?_none hnone

end

end Bench

/-- The trials of an accumulation are of its policies, each rule is heard, and
the report is of the rulings: `Trial.retained` takes away what it lists as
skipped. -/
theorem RequestContext.accumulate_trials {ctx : RequestContext} {config : Config}
    {directory : Directory} {policies : List MatchedPolicy} {report : Report}
    (h : (ctx.accumulate config directory policies).result = .ok report) :
    (ctx.trials config directory policies).map Trial.policy = policies ∧
      (∀ t ∈ ctx.trials config directory policies,
        t.hearings.map Hearing.rule = t.policy.rules) ∧
      report = Ruling.report
        ((ctx.trials config directory policies).flatMap fun t =>
          t.hearings.map Hearing.ruling) := by
  obtain ⟨p, hruns, rfl⟩ := accumulate_eq_ok_iff.mp h
  obtain ⟨hpolicies, hrules, hrulings⟩ := Bench.trials_of_runs hruns
  exact ⟨hpolicies, hrules, congrArg Ruling.report hrulings⟩

/-- What skipped rules leave in the environment is all that they contribute:
without them the accumulation comes to the same, provided that no turn that is
retained notices. -/
theorem RequestContext.accumulate_retained {ctx : RequestContext} {config : Config}
    {directory : Directory} {policies : List MatchedPolicy} {report : Report}
    (h : (ctx.accumulate config directory policies).result = .ok report)
    (hquiet : Trial.Unnoticed ⟨config, directory, ctx.app⟩
      (ctx.trials config directory policies)) :
    ∃ report', (ctx.accumulate config directory
        ((ctx.trials config directory policies).map Trial.retained)).result = .ok report' ∧
      (ctx.accumulate config directory
        ((ctx.trials config directory policies).map Trial.retained)).context =
          (ctx.accumulate config directory policies).context := by
  obtain ⟨p, hruns, rfl⟩ := accumulate_eq_ok_iff.mp h
  obtain ⟨r, hruns', hfollows⟩ := Bench.policies_retained hruns hquiet ⟨.refl _, fun _ => rfl⟩
  refine ⟨_, accumulate_eq_ok_iff.mpr ⟨r, hruns', rfl⟩, ?_⟩
  rw [accumulate_context hruns, hfollows.gathered]
  exact accumulate_context hruns'

namespace QueryRule

/-- Is for one person only, who has to be looked up. -/
def reserved : QueryRule :=
  { ofQuery .null with
    env := [("personId", .string "personId")]
    conditions := [⟨.string "env.personId", "@eq", .string "p-2"⟩] }

/-- Is for nobody, and has the user under another name. -/
def guest : QueryRule :=
  { ofQuery .null with
    env := [("authUserId", .string "guest")]
    conditions := [⟨.string "a", "@eq", .string "b"⟩] }

/-- Everyone sees what is theirs. -/
def personal : QueryRule :=
  { ofQuery (.object [("owner", .string "env.personId")]) with
    env := [("personId", .string "personId")] }

end QueryRule

/-- A user of an app who is linked to a person. -/
def Person.linked : Person := .fresh "p-1" "app" "u-1" ⟨⟨2024, 1, 1⟩, 0, 0, 0, 0, 0⟩

/-- A skipped rule may look the person up, for a rule after it that names the
person itself; then the user's name counts no more. -/
theorem RequestContext.accumulate_retained_lookup :
    ∃ report', ({ RequestContext.ofApp "app" with user := some (.ofId "u-1") }.accumulate
        Config.default (.ofStore ⟨[.linked]⟩) [⟨"p", [], [.personal]⟩]).result = .ok report' ∧
      ({ RequestContext.ofApp "app" with user := some (.ofId "u-1") }.accumulate
        Config.default (.ofStore ⟨[.linked]⟩) [⟨"p", [], [.personal]⟩]).context =
      ({ RequestContext.ofApp "app" with user := some (.ofId "u-1") }.accumulate
        Config.default (.ofStore ⟨[.linked]⟩)
        [⟨"p", [], [.reserved, .guest, .personal]⟩]).context := by
  have htrials : { RequestContext.ofApp "app" with user := some (.ofId "u-1") }.trials
      Config.default (.ofStore ⟨[.linked]⟩) [⟨"p", [], [.reserved, .guest, .personal]⟩] =
        [⟨⟨"p", [], [.reserved, .guest, .personal]⟩,
          [⟨.reserved, ⟨"p", 0, none, .unmet⟩, ⟨[("authUserId", .string "u-1")]⟩,
              ⟨[("authUserId", .string "u-1"), ("personId", .string "p-1")]⟩, true⟩,
            ⟨.guest, ⟨"p", 1, none, .unmet⟩,
              ⟨[("authUserId", .string "u-1"), ("personId", .string "p-1")]⟩,
              ⟨[("authUserId", .string "guest"), ("personId", .string "p-1")]⟩, false⟩,
            ⟨.personal, ⟨"p", 2, none, .applies (some (Query.ofField "owner" (.string "p-1")))⟩,
              ⟨[("authUserId", .string "guest"), ("personId", .string "p-1")]⟩,
              ⟨[("authUserId", .string "guest"), ("personId", .string "p-1")]⟩, false⟩]⟩] := by
    rfl
  have hresult : ({ RequestContext.ofApp "app" with user := some (.ofId "u-1") }.accumulate
      Config.default (.ofStore ⟨[.linked]⟩)
        [⟨"p", [], [.reserved, .guest, .personal]⟩]).result =
        .ok ⟨[("p", 2)], [("p", 0, .conditionsNotMet), ("p", 1, .conditionsNotMet)]⟩ := by
    cbv
  have hpersonal : ∀ name, ¬Turn.Live [QueryRule.personal.turn (false = true)] name := by
    rintro name ⟨hsettled, (⟨expression, hm, hname⟩ | ⟨⟨⟩, -⟩) | ⟨⟨⟩⟩⟩
    have hexpressions : (QueryRule.personal.turn (false = true)).expressions = ["env.personId"] := by
      rfl
    rw [hexpressions, List.mem_singleton] at hm
    subst hm
    have hperson : Environment.nameOf? "env.personId" = some "personId" := by rfl
    obtain rfl := Option.some.inj (hperson.symm.trans hname)
    exact hsettled ⟨_, List.mem_cons_self, .inl rfl⟩
  have hunread : ∀ (value : Option Json) name,
      ¬Turn.Live [⟨[], [], value ≠ value⟩, QueryRule.personal.turn (false = true)] name := by
    rintro value name ⟨-, (⟨_, ⟨⟩, -⟩ | ⟨hchanged, -⟩) | hl⟩
    · exact hchanged rfl
    · exact hpersonal name hl
  have hretained := RequestContext.accumulate_retained hresult (by
    rw [htrials]
    refine ⟨⟨fun _ => ⟨fun name hl => (hunread _ name hl).elim, .inr ⟨?_, ?_, ?_⟩⟩,
      fun _ => ⟨fun name hl => (hpersonal name hl).elim, .inl rfl⟩, ?_, trivial⟩, trivial⟩
    · refine ⟨List.not_mem_nil, .inr ⟨?_, .inr trivial⟩⟩
      decide
    · exact ⟨_, rfl, .inr ⟨"u-1", .linked, rfl, rfl, rfl⟩⟩
    · exact .inr ⟨rfl, hunread _ _⟩
    · intro hskipped
      cases hskipped)
  rw [htrials] at hretained
  exact hretained

/-- A value that a skipped rule binds is there for the rules after it. -/
theorem RequestContext.accumulate_keeps_skipped_bindings :
    ((RequestContext.ofApp "app").accumulate Config.default (.ofStore .empty)
        [⟨"p", [], [{ QueryRule.ofQuery .null with
            env := [("region", .string "eu")]
            conditions := [⟨.string "a", "@eq", .string "b"⟩] },
          QueryRule.ofQuery (.object [("region", .string "env.region")])]⟩]).result =
        .ok ⟨[("p", 1)], [("p", 0, .conditionsNotMet)]⟩ ∧
      ((RequestContext.ofApp "app").accumulate Config.default (.ofStore .empty)
        [⟨"p", [], [{ QueryRule.ofQuery .null with
            env := [("region", .string "eu")]
            conditions := [⟨.string "a", "@eq", .string "b"⟩] },
          QueryRule.ofQuery (.object [("region", .string "env.region")])]⟩]).context.accessQuery =
        some (Query.ofField "region" (.string "eu")) ∧
      ((RequestContext.ofApp "app").accumulate Config.default (.ofStore .empty)
        [⟨"p", [], [QueryRule.ofQuery (.object [("region", .string "env.region")])]⟩]).context.accessQuery =
        some (Query.ofField "region" .null) := by
  refine ⟨?_, ?_, ?_⟩
  · cbv
  · cbv
  · cbv

end QueryGuard
