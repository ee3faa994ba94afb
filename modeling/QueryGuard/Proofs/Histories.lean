import Mathlib.Data.List.Induction
import QueryGuard.Proofs.Isolation

/-!
# What a history leaves

A store is what its history made it, but not all of that can be seen. What an app
lists is told by the policies that are stored in the end, whatever was stored
before and in whatever order the store goes through them. The person of a user is
told by the first record for the user that was complete, whatever came after.
-/

namespace QueryGuard

-- ---------------------------------------------------------------------------
-- Policies
-- ---------------------------------------------------------------------------

namespace PolicyStore

inductive Change where
  /-- A policy without an id gets the fresh one. -/
  | upsert (fresh : String) (p : Policy)
  | delete (id : String)

/-- Makes a change. Where it is refused the store stays as it is. -/
def changed (s : PolicyStore) : Change → PolicyStore
  | .upsert fresh p =>
    match s.upsert fresh p with
    | .ok (_, s') => s'
    | .error _ => s
  | .delete id =>
    match s.delete id with
    | .ok s' => s'
    | .error _ => s

/-- What changes, the earliest first, make of an empty store. -/
def ofHistory (changes : List Change) : PolicyStore := changes.foldl changed empty

/-- The policy is stored. -/
def Holds (s : PolicyStore) (p : Policy) : Prop := ∃ id, s.get? id = some p

/-- By priority and, among equals, by id. -/
def Precedes (p q : Policy) : Prop :=
  p.priority < q.priority ∨ p.priority = q.priority ∧ p.id < q.id

section
variable {s : PolicyStore} {app : String} {p : Policy} {changes : List Change}

theorem Kept.changed (h : s.Kept) (change : Change) : (s.changed change).Kept := by
  cases change with
  | upsert fresh p =>
    simp only [PolicyStore.changed, upsert]
    cases p.validate with
    | error e => exact h
    | ok => exact h.stored (identified p fresh)
  | delete id =>
    simp only [PolicyStore.changed, delete]
    by_cases hg : (s.get? id).isSome = true
    · rw [if_pos hg]
      exact h.without id
    · rw [if_neg hg]
      exact h

theorem kept_ofHistory (changes : List Change) : (ofHistory changes).Kept := by
  induction changes using List.reverseRecOn with
  | nil => exact kept_empty
  | append_singleton changes change ih =>
    rw [ofHistory, List.foldl_append]
    exact ih.changed change

theorem Kept.holds_iff (h : s.Kept) : s.Holds p ↔ s.get? p.id = some p := by
  refine ⟨?_, fun hg => ⟨p.id, hg⟩⟩
  rintro ⟨id, hg⟩
  have hid : p.id = id := h.filed (id, p) (Members.mem_of_get? hg)
  rwa [hid]

theorem Kept.perm (h : s.Kept) {entries : Members Policy} (hperm : entries.Perm s.policies) :
    Kept ⟨entries⟩ where
  distinct := h.distinct.perm hperm.symm
  filed entry hm := h.filed entry (hperm.mem_iff.mp hm)

theorem isListed_iff : isListed app p = true ↔ p.active = true ∧ p.app = app := by
  simp [isListed]

theorem listActive_precedes (h : s.Kept) (app : String) :
    (s.listActive app).Pairwise Precedes := by
  have hordered : (s.listActive app).Pairwise fun p q => ordered p q = true :=
    List.pairwise_mergeSort ordered_trans ordered_total _
  refine (hordered.and (nodup_listActive h)).imp_of_mem fun {p q} hp hq hpq => ?_
  obtain ⟨hpq, hne⟩ := hpq
  rcases ordered_iff.mp hpq with hlt | ⟨heq, hid⟩
  · exact .inl (Int32.lt_iff_toInt_lt.mpr hlt)
  -- One id would be one policy, which is listed once.
  · refine .inr ⟨Int32.toInt_inj.mp heq, Std.lt_of_le_of_ne hid fun he => hne ?_⟩
    have hp := ((mem_listActive h).mp hp).1
    have hq := ((mem_listActive h).mp hq).1
    rw [he, hq] at hp
    exact (Option.some.inj hp).symm

/-- After any history an app lists its stored active policies once each, by
priority and id. Neither the order in which the store goes through its policies
nor what else happened makes a difference. -/
theorem listActive_ofHistory (changes : List Change) (app : String) :
    (∀ p, p ∈ (ofHistory changes).listActive app ↔
      (ofHistory changes).Holds p ∧ p.active = true ∧ p.app = app) ∧
    ((ofHistory changes).listActive app).Nodup ∧
    ((ofHistory changes).listActive app).Pairwise Precedes ∧
    (∀ entries : Members Policy, entries.Perm (ofHistory changes).policies →
      listActive ⟨entries⟩ app = (ofHistory changes).listActive app) ∧
    ∀ others, (∀ p, p.active = true → p.app = app →
        ((ofHistory others).Holds p ↔ (ofHistory changes).Holds p)) →
      (ofHistory others).listActive app = (ofHistory changes).listActive app := by
  have hkept := kept_ofHistory changes
  refine ⟨fun p => ?_, nodup_listActive hkept, listActive_precedes hkept app, ?_, ?_⟩
  · rw [mem_listActive hkept, hkept.holds_iff, isListed_iff]
  · intro entries hperm
    have hentries := hkept.perm hperm
    refine listActive_eq hentries hkept fun p _ => ?_
    rw [get?_eq_some_iff hentries, get?_eq_some_iff hkept]
    exact hperm.mem_iff
  · intro others hsame
    have hothers := kept_ofHistory others
    refine listActive_eq hothers hkept fun p hl => ?_
    obtain ⟨hactive, happ⟩ := isListed_iff.mp hl
    rw [← hothers.holds_iff, ← hkept.holds_iff]
    exact hsame p hactive happ

/-- Two apps take turns, and one of them takes a policy back. -/
def turns : List Change :=
  [.upsert "" (.bare "north" "wall"), .upsert "" (.bare "south" "hall"),
    .upsert "" (.bare "north" "moat"), .upsert "" (.bare "north" "gate"), .delete "moat"]

theorem listActive_ofHistory_turns :
    [("gate", Policy.bare "north" "gate"), ("hall", .bare "south" "hall"),
      ("wall", .bare "north" "wall")].Perm (ofHistory turns).policies ∧
    listActive ⟨[("gate", Policy.bare "north" "gate"), ("hall", .bare "south" "hall"),
      ("wall", .bare "north" "wall")]⟩ "north" = (ofHistory turns).listActive "north" ∧
    (∀ p, p.active = true → p.app = "north" →
      ((ofHistory [.upsert "" (.bare "north" "gate"), .upsert "" (.bare "north" "wall")]).Holds p ↔
        (ofHistory turns).Holds p)) ∧
    (ofHistory [.upsert "" (.bare "north" "gate"), .upsert "" (.bare "north" "wall")]).listActive
      "north" = (ofHistory turns).listActive "north" := by
  have hperm : [("gate", Policy.bare "north" "gate"), ("hall", .bare "south" "hall"),
      ("wall", .bare "north" "wall")].Perm (ofHistory turns).policies :=
    List.reverse_perm [("wall", Policy.bare "north" "wall"), ("hall", .bare "south" "hall"),
      ("gate", .bare "north" "gate")]
  have hsame : ∀ p, p.active = true → p.app = "north" →
      ((ofHistory [.upsert "" (.bare "north" "gate"), .upsert "" (.bare "north" "wall")]).Holds p ↔
        (ofHistory turns).Holds p) := by
    intro p _ happ
    have hhall : p ≠ .bare "south" "hall" := by
      rintro rfl
      exact absurd happ (by decide)
    rw [(kept_ofHistory _).holds_iff, (kept_ofHistory _).holds_iff,
      get?_eq_some_iff (kept_ofHistory _), get?_eq_some_iff (kept_ofHistory _)]
    change (p.id, p) ∈ [("gate", Policy.bare "north" "gate"), ("wall", .bare "north" "wall")] ↔
      (p.id, p) ∈ [("wall", Policy.bare "north" "wall"), ("hall", .bare "south" "hall"),
        ("gate", .bare "north" "gate")]
    simp [hhall, or_comm]
  obtain ⟨-, -, -, horder, hhistory⟩ := listActive_ofHistory turns "north"
  exact ⟨hperm, horder _ hperm, hsame, hhistory _ hsame⟩

end

end PolicyStore

-- ---------------------------------------------------------------------------
-- People
-- ---------------------------------------------------------------------------

/-- The record has an id and a user. -/
def Person.isComplete (p : Person) : Bool := !p.id.isEmpty && !p.auth.isEmpty

namespace PeopleStore

/-- Creates a person. Where that is refused the store stays as it is. -/
def created (s : PeopleStore) (p : Person) : PeopleStore :=
  match s.create p with
  | .ok s' => s'
  | .error _ => s

/-- What creating people, the earliest first, makes of an empty store. -/
def ofHistory (people : List Person) : PeopleStore := people.foldl created empty

section
variable {s : PeopleStore} {p : Person} {people : List Person} {app auth : String}

theorem create_eq (s : PeopleStore) (p : Person) : s.create p =
    if p.isComplete then
      if (s.find? p.app p.auth).isSome then .error (.alreadyExists Person.collection p.id)
      else .ok ⟨s.people ++ [p]⟩
    else .error (.invalidRecord "person id and authId are required") := by
  unfold create Person.isComplete
  cases p.id.isEmpty <;> cases p.auth.isEmpty <;> rfl

theorem find?_created (s : PeopleStore) (p : Person) (app auth : String) :
    (s.created p).find? app auth = (s.find? app auth).or
      (if p.isComplete = true ∧ p.app = app ∧ p.auth = auth then some p else none) := by
  rw [created, create_eq]
  by_cases hcomplete : p.isComplete = true
  · rw [if_pos hcomplete]
    cases hfound : s.find? p.app p.auth with
    | none => simp [hcomplete, find?_append]
    | some own =>
      rw [Option.isSome_some, if_pos rfl]
      by_cases hpair : p.app = app ∧ p.auth = auth
      · obtain ⟨rfl, rfl⟩ := hpair
        rw [hfound, Option.some_or]
      · rw [if_neg fun h => hpair h.2, Option.or_none]
  · rw [if_neg hcomplete, if_neg fun h => hcomplete h.1, Option.or_none]

theorem ofHistory_append (people : List Person) (p : Person) :
    ofHistory (people ++ [p]) = (ofHistory people).created p := by
  rw [ofHistory, List.foldl_append]
  rfl

/-- The record is complete and for the user of the app. -/
def isFor (app auth : String) (p : Person) : Bool :=
  p.isComplete && p.app == app && p.auth == auth

theorem isFor_iff : isFor app auth p = true ↔
    p.isComplete = true ∧ p.app = app ∧ p.auth = auth := by
  simp [isFor, and_assoc]

theorem find?_ofHistory (people : List Person) (app auth : String) :
    (ofHistory people).find? app auth = List.find? (isFor app auth) people := by
  induction people using List.reverseRecOn with
  | nil => rfl
  | append_singleton people p ih =>
    rw [ofHistory_append, find?_created, ih, List.find?_append, List.find?_singleton]
    simp only [isFor_iff]

theorem create_alreadyExists_iff : (ofHistory people).create p =
      .error (.alreadyExists Person.collection p.id) ↔
    p.id ≠ "" ∧ ∃ first ∈ people, isFor p.app p.auth first = true := by
  have hexists : ((ofHistory people).find? p.app p.auth).isSome = true ↔
      ∃ first ∈ people, isFor p.app p.auth first = true := by
    rw [find?_ofHistory, List.find?_isSome]
  rw [create_eq, ← hexists]
  by_cases hcomplete : p.isComplete = true
  · have hid : p.id ≠ "" := by
      rintro he
      simp [Person.isComplete, he] at hcomplete
    rw [if_pos hcomplete, and_iff_right hid]
    split <;> simp_all
  · rw [if_neg hcomplete]
    refine iff_of_false nofun ?_
    rintro ⟨hid, hfound⟩
    obtain ⟨first, -, hfor⟩ := hexists.mp hfound
    obtain ⟨hfirst, -, hauth⟩ := isFor_iff.mp hfor
    -- The user has an id in the first record, and so in this one.
    simp only [Person.isComplete, hauth] at hfirst hcomplete
    simp_all

/-- Whatever people are created, in whatever order: a user has the person of the
first complete record, every later one that has an id is refused because of it,
and what is refused changes nothing that can be found. -/
theorem find?_first (people : List Person) :
    (∀ app auth, (ofHistory people).find? app auth = List.find? (isFor app auth) people) ∧
    (∀ p, (ofHistory people).create p = .error (.alreadyExists Person.collection p.id) ↔
      p.id ≠ "" ∧ ∃ first ∈ people, isFor p.app p.auth first = true) ∧
    ∀ p e, (ofHistory people).create p = .error e → ∀ app auth,
      (ofHistory (people ++ [p])).find? app auth = (ofHistory people).find? app auth := by
  refine ⟨find?_ofHistory people, fun p => create_alreadyExists_iff, ?_⟩
  intro p e he app auth
  rw [ofHistory_append, created, he]

/-- A record without an id, the first complete one, and one for another app. -/
def arrivals (t : DateTime) : List Person :=
  [.fresh "" "north" "u1" t, .fresh "p-1" "north" "u1" t, .fresh "p-2" "south" "u1" t]

def epoch : DateTime := ⟨⟨1970, 1, 1⟩, 0, 0, 0, 0, 0⟩

theorem find?_first_arrivals :
    (ofHistory (arrivals epoch)).find? "north" "u1" = some (.fresh "p-1" "north" "u1" epoch) ∧
    (ofHistory (arrivals epoch)).create (.fresh "p-9" "north" "u1" epoch) =
      .error (.alreadyExists Person.collection "p-9") ∧
    (ofHistory (arrivals epoch ++ [.fresh "p-9" "north" "u1" epoch])).find? "north" "u1" =
      (ofHistory (arrivals epoch)).find? "north" "u1" := by
  obtain ⟨hfind, hrefused, hsame⟩ := find?_first (arrivals epoch)
  have hexists := (hrefused (.fresh "p-9" "north" "u1" epoch)).mpr
    ⟨by decide, .fresh "p-1" "north" "u1" epoch, by simp [arrivals], by decide⟩
  exact ⟨(hfind "north" "u1").trans (by rfl), hexists, hsame _ _ hexists "north" "u1"⟩

end

end PeopleStore

end QueryGuard
