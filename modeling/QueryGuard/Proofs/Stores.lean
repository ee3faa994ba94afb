import Mathlib.Data.List.Sort
import QueryGuard.Proofs.Members
import QueryGuard.Service

/-!
# Stores as one app sees them

Two stores are the same for an app if they hold the same policies or people of
that app, and two caches if they hold the same entry for it. Operations made for
the app keep this, and answer alike; operations made for others leave it alone.
-/

namespace QueryGuard

-- ---------------------------------------------------------------------------
-- Policies
-- ---------------------------------------------------------------------------

namespace PolicyStore

/-- The store with the policy under its id. -/
def stored (s : PolicyStore) (p : Policy) : PolicyStore := ⟨Members.put p.id p s.policies⟩

/-- The store with nothing under the id. -/
def without (s : PolicyStore) (id : String) : PolicyStore := ⟨Members.remove id s.policies⟩

/-- Every policy is stored once, under its id. -/
structure Kept (s : PolicyStore) : Prop where
  distinct : Members.Distinct s.policies
  filed : ∀ entry ∈ s.policies, entry.2.id = entry.1

/-- The app has the same policies in both stores. -/
structure SameFor (app : String) (s other : PolicyStore) : Prop where
  left : s.Kept
  right : other.Kept
  same : ∀ id p, p.app = app → (s.get? id = some p ↔ other.get? id = some p)

section
variable {s other : PolicyStore} {app id : String} {p : Policy}

theorem kept_empty : empty.Kept := ⟨List.nodup_nil, by simp [empty]⟩

theorem get?_eq_some_iff (hs : s.Kept) : s.get? id = some p ↔ (id, p) ∈ s.policies :=
  ⟨Members.mem_of_get?, Members.get?_of_mem hs.distinct⟩

theorem Kept.stored (hs : s.Kept) (p : Policy) : (s.stored p).Kept where
  distinct := hs.distinct.put p.id p
  filed entry hm := by
    rcases Members.mem_of_mem_put hm with rfl | hm
    · rfl
    · exact hs.filed entry hm

theorem Kept.without (hs : s.Kept) (id : String) : (s.without id).Kept where
  distinct := hs.distinct.remove id
  filed entry hm := hs.filed entry ((Members.remove_sublist id s.policies).subset hm)

theorem get?_stored : (s.stored p).get? id = if id = p.id then some p else s.get? id :=
  Members.get?_put p.id id p s.policies

theorem get?_without (hs : s.Kept) (name : String) :
    (s.without name).get? id = if id = name then none else s.get? id := by
  split
  · next h => exact h ▸ Members.get?_remove_self hs.distinct name
  · next h => exact Members.get?_remove_of_ne h s.policies

theorem without_of_get?_eq_none (h : s.get? id = none) : s.without id = s := by
  rw [without, Members.remove_of_get?_eq_none h]

theorem identified_app (p : Policy) (fresh : String) : (identified p fresh).app = p.app := by
  unfold identified
  split <;> rfl

theorem SameFor.stored (h : SameFor app s other) (p : Policy) :
    SameFor app (s.stored p) (other.stored p) := by
  refine ⟨h.left.stored p, h.right.stored p, fun id q hq => ?_⟩
  rw [get?_stored, get?_stored]
  split
  · rfl
  · exact h.same id q hq

theorem SameFor.without (h : SameFor app s other) (id : String) :
    SameFor app (s.without id) (other.without id) := by
  refine ⟨h.left.without id, h.right.without id, fun name q hq => ?_⟩
  rw [get?_without h.left, get?_without h.right]
  split
  · rfl
  · exact h.same name q hq

theorem SameFor.without_left (h : SameFor app s other)
    (hfree : ∀ q, s.get? id = some q → q.app ≠ app) :
    SameFor app (s.without id) other := by
  refine ⟨h.left.without id, h.right, fun name q hq => ?_⟩
  rw [get?_without h.left, ← h.same name q hq]
  split
  · next he =>
    subst he
    exact iff_of_false nofun fun hg => hfree q hg hq
  · rfl

theorem SameFor.stored_without (h : SameFor app s other) (hp : p.app ≠ app) :
    SameFor app (s.stored p) (other.without p.id) := by
  refine ⟨h.left.stored p, h.right.without p.id, fun name q hq => ?_⟩
  rw [get?_stored, get?_without h.right]
  split
  · refine iff_of_false ?_ nofun
    rintro ⟨⟩
    exact hp hq
  · exact h.same name q hq

theorem SameFor.stored_left (h : SameFor app s other) (hp : p.app ≠ app)
    (hfree : ∀ q, s.get? p.id = some q → q.app ≠ app) :
    SameFor app (s.stored p) other := by
  refine ⟨h.left.stored p, h.right, fun name q hq => ?_⟩
  rw [get?_stored, ← h.same name q hq]
  split
  · next he =>
    subst he
    refine iff_of_false ?_ fun hg => hfree q hg hq
    rintro ⟨⟩
    exact hp hq
  · rfl

-- ---------------------------------------------------------------------------
-- Listing
-- ---------------------------------------------------------------------------

theorem ordered_iff {q : Policy} : ordered p q = true ↔ p.priority.toInt < q.priority.toInt ∨
    p.priority.toInt = q.priority.toInt ∧ p.id ≤ q.id := by
  simp [ordered, Int32.lt_iff_toInt_lt, Int32.toInt_inj]

theorem ordered_trans (p q r : Policy) (h : ordered p q = true) (h' : ordered q r = true) :
    ordered p r = true := by
  rw [ordered_iff] at h h' ⊢
  rcases h with h | ⟨h, hid⟩ <;> rcases h' with h' | ⟨h', hid'⟩
  · exact .inl (h.trans h')
  · exact .inl (h' ▸ h)
  · exact .inl (h ▸ h')
  · exact .inr ⟨h.trans h', String.le_trans hid hid'⟩

theorem ordered_total (p q : Policy) : (ordered p q || ordered q p) = true := by
  rw [Bool.or_eq_true, ordered_iff, ordered_iff]
  rcases Int.lt_trichotomy p.priority.toInt q.priority.toInt with h | h | h
  · exact .inl (.inl h)
  · exact (String.le_total p.id q.id).imp (fun hid => .inr ⟨h, hid⟩) fun hid => .inr ⟨h.symm, hid⟩
  · exact .inr (.inl h)

theorem id_eq_of_ordered {q : Policy} (h : ordered p q = true) (h' : ordered q p = true) :
    p.id = q.id := by
  rw [ordered_iff] at h h'
  rcases h with h | ⟨h, hid⟩ <;> rcases h' with h' | ⟨h', hid'⟩
  · exact absurd h (Int.lt_asymm h')
  · exact absurd h (by omega)
  · exact absurd h' (by omega)
  · exact String.le_antisymm hid hid'

theorem app_of_isListed (h : isListed app p = true) : p.app = app :=
  beq_iff_eq.mp (Bool.and_eq_true_iff.mp h).2

theorem mem_listActive (hs : s.Kept) :
    p ∈ s.listActive app ↔ s.get? p.id = some p ∧ isListed app p = true := by
  rw [listActive, List.mem_mergeSort, List.mem_filter, get?_eq_some_iff hs]
  refine and_congr_left fun _ => ⟨fun hm => ?_, fun hm => List.mem_map_of_mem hm⟩
  obtain ⟨entry, hentry, rfl⟩ := List.mem_map.mp hm
  rw [hs.filed entry hentry]
  exact hentry

theorem nodup_listActive (hs : s.Kept) : (s.listActive app).Nodup := by
  rw [listActive, (List.mergeSort_perm _ _).nodup_iff]
  refine List.Nodup.filter _ ?_
  have hids : (s.policies.map Prod.snd).map Policy.id = Members.names s.policies := by
    rw [List.map_map]
    exact List.map_congr_left hs.filed
  exact .of_map Policy.id (hids ▸ hs.distinct)

theorem listActive_eq (hs : s.Kept) (ho : other.Kept)
    (h : ∀ p, isListed app p = true → (s.get? p.id = some p ↔ other.get? p.id = some p)) :
    s.listActive app = other.listActive app := by
  have hperm : (s.listActive app).Perm (other.listActive app) := by
    rw [List.perm_ext_iff_of_nodup (nodup_listActive hs) (nodup_listActive ho)]
    intro p
    rw [mem_listActive hs, mem_listActive ho]
    exact and_congr_left fun hl => h p hl
  have hsorted : ∀ s : PolicyStore, (s.listActive app).Pairwise fun p q => ordered p q = true :=
    fun s => List.pairwise_mergeSort ordered_trans ordered_total _
  -- No two policies have one id, so that the order leaves no choice.
  refine hperm.eq_of_pairwise (fun p q hp hq hpq hqp => ?_) (hsorted s) (hsorted other)
  obtain ⟨hp, hl⟩ := (mem_listActive hs).mp hp
  obtain ⟨hq, -⟩ := (mem_listActive ho).mp hq
  rw [h p hl, id_eq_of_ordered hpq hqp, hq] at hp
  exact (Option.some.inj hp).symm

theorem SameFor.listActive_eq (h : SameFor app s other) :
    s.listActive app = other.listActive app :=
  PolicyStore.listActive_eq h.left h.right fun p hl => h.same p.id p (app_of_isListed hl)

end

end PolicyStore

-- ---------------------------------------------------------------------------
-- People
-- ---------------------------------------------------------------------------

namespace PeopleStore

/-- The app's users are linked to the same people in both stores. -/
def SameFor (app : String) (s other : PeopleStore) : Prop :=
  ∀ auth, s.find? app auth = other.find? app auth

section
variable {s other s' : PeopleStore} {app : String} {p : Person}

theorem find?_append (s : PeopleStore) (p : Person) (app auth : String) :
    find? ⟨s.people ++ [p]⟩ app auth =
      (s.find? app auth).or (if p.app = app ∧ p.auth = auth then some p else none) := by
  unfold find?
  rw [List.find?_append, List.find?_singleton]
  simp

theorem SameFor.create (h : SameFor app s other) (hp : p.app = app) :
    (∃ e, s.create p = .error e ∧ other.create p = .error e) ∨
      ∃ s' other', s.create p = .ok s' ∧ other.create p = .ok other' ∧ SameFor app s' other' := by
  subst hp
  unfold PeopleStore.create
  rw [← h p.auth]
  split
  · exact .inl ⟨_, rfl, rfl⟩
  · split
    · exact .inl ⟨_, rfl, rfl⟩
    · refine .inr ⟨_, _, rfl, rfl, fun auth => ?_⟩
      rw [find?_append, find?_append, h auth]

theorem SameFor.create_left (h : SameFor app s other) (hp : p.app ≠ app)
    (hc : s.create p = .ok s') : SameFor app s' other := by
  unfold PeopleStore.create at hc
  split at hc
  · cases hc
  · split at hc
    · cases hc
    · cases hc
      intro auth
      rw [find?_append, if_neg fun he => hp he.1, Option.or_none]
      exact h auth

end

end PeopleStore

-- ---------------------------------------------------------------------------
-- Cached policies
-- ---------------------------------------------------------------------------

namespace PolicyCache

/-- The app has the same entry in both caches, and they treat it alike. -/
structure SameFor (app : String) (c other : PolicyCache) : Prop where
  left : Members.Distinct c.apps
  right : Members.Distinct other.apps
  ttl : c.ttl = other.ttl
  enabled : c.enabled = other.enabled
  same : c.apps.get? app = other.apps.get? app

section
variable {c other c' : PolicyCache} {source source' : PolicySource} {now : Instant}
  {app name verb path : String} {result : Except PolicyError (List Policy)}
  {found : Except PolicyError (List MatchedPolicy)}

theorem SameFor.refresh (h : SameFor app c other) (hs : source app = source' app)
    (now : Instant) :
    (c.refresh source now app).1 = (other.refresh source' now app).1 ∧
      SameFor app (c.refresh source now app).2 (other.refresh source' now app).2 := by
  unfold PolicyCache.refresh
  rw [hs]
  cases source' app with
  | error e => exact ⟨rfl, h⟩
  | ok listed =>
    refine ⟨rfl, ?_⟩
    dsimp only
    rw [← h.enabled]
    split
    · refine ⟨h.left.put app _, h.right.put app _, h.ttl, rfl, ?_⟩
      rw [Members.get?_put, Members.get?_put, if_pos rfl, if_pos rfl]
    · exact ⟨h.left, h.right, h.ttl, rfl, h.same⟩

theorem SameFor.refresh_left (h : SameFor app c other) (hne : name ≠ app)
    (source : PolicySource) (now : Instant) :
    SameFor app (c.refresh source now name).2 other := by
  unfold PolicyCache.refresh
  cases source name with
  | error e => exact h
  | ok listed =>
    dsimp only
    split
    · refine ⟨h.left.put name _, h.right, h.ttl, h.enabled, ?_⟩
      rw [Members.get?_put, if_neg hne.symm]
      exact h.same
    · exact ⟨h.left, h.right, h.ttl, h.enabled, h.same⟩

theorem SameFor.policiesFor (h : SameFor app c other) (hs : source app = source' app)
    (hc : c.policiesFor source now app = some (result, c')) :
    ∃ other', other.policiesFor source' now app = some (result, other') ∧
      SameFor app c' other' := by
  have hmissed : SameFor app { c with misses := c.misses + 1 }
      { other with misses := other.misses + 1 } :=
    ⟨h.left, h.right, h.ttl, h.enabled, h.same⟩
  obtain ⟨hloaded, hload⟩ := hmissed.refresh hs now
  have hentry : other.entry? app = c.entry? app := by
    unfold PolicyCache.entry?
    rw [h.enabled, h.same]
  have hstale : ∀ entry, other.isStale? entry now = c.isStale? entry now := by
    intro entry
    rw [isStale?, isStale?, h.ttl]
  unfold PolicyCache.policiesFor at hc ⊢
  rw [hentry]
  cases he : c.entry? app with
  | none =>
    simp only [he, Option.some.injEq] at hc ⊢
    obtain ⟨hresult, rfl⟩ := Prod.mk.inj hc
    exact ⟨_, Prod.ext (hloaded.symm.trans hresult) rfl, hload⟩
  | some entry =>
    simp only [he, hstale, Option.map_eq_some_iff] at hc ⊢
    obtain ⟨stale, hreckoned, hc⟩ := hc
    cases stale with
    | true =>
      obtain ⟨hresult, rfl⟩ := Prod.mk.inj hc
      exact ⟨_, ⟨true, hreckoned, Prod.ext (hloaded.symm.trans hresult) rfl⟩, hload⟩
    | false =>
      cases hc
      exact ⟨_, ⟨false, hreckoned, rfl⟩, h.left, h.right, h.ttl, h.enabled, h.same⟩

theorem policiesFor_cases (hc : c.policiesFor source now app = some (result, c')) :
    { c with misses := c.misses + 1 }.refresh source now app = (result, c') ∨
      ∃ entry, c.apps.get? app = some entry ∧ result = .ok entry.policies ∧
        c' = { c with hits := c.hits + 1 } := by
  unfold PolicyCache.policiesFor at hc
  cases he : c.entry? app with
  | none =>
    simp only [he, Option.some.injEq] at hc
    exact .inl hc
  | some entry =>
    simp only [he, Option.map_eq_some_iff] at hc
    obtain ⟨stale, -, hc⟩ := hc
    cases stale with
    | true => exact .inl hc
    | false =>
      cases hc
      exact .inr ⟨entry, (Option.ite_none_right_eq_some.mp he).2, rfl, rfl⟩

theorem SameFor.policiesFor_left (h : SameFor app c other) (hne : name ≠ app)
    (hc : c.policiesFor source now name = some (result, c')) : SameFor app c' other := by
  have hmissed : SameFor app { c with misses := c.misses + 1 } other :=
    ⟨h.left, h.right, h.ttl, h.enabled, h.same⟩
  have hload := hmissed.refresh_left hne source now
  rcases policiesFor_cases hc with hc | ⟨entry, -, -, rfl⟩
  · rwa [hc] at hload
  · exact ⟨h.left, h.right, h.ttl, h.enabled, h.same⟩

theorem SameFor.matchedPolicies (h : SameFor app c other) (hs : source app = source' app)
    (hc : c.matchedPolicies source now app verb path = some (found, c')) :
    ∃ other', other.matchedPolicies source' now app verb path = some (found, other') ∧
      SameFor app c' other' := by
  unfold PolicyCache.matchedPolicies at hc ⊢
  obtain ⟨⟨result, c''⟩, hfor, he⟩ := Option.map_eq_some_iff.mp hc
  obtain ⟨rfl, rfl⟩ := Prod.mk.inj he
  obtain ⟨other', hfor, h⟩ := h.policiesFor hs hfor
  exact ⟨other', Option.map_eq_some_iff.mpr ⟨_, hfor, rfl⟩, h⟩

theorem SameFor.matchedPolicies_left (h : SameFor app c other) (hne : name ≠ app)
    (hc : c.matchedPolicies source now name verb path = some (found, c')) :
    SameFor app c' other := by
  unfold PolicyCache.matchedPolicies at hc
  obtain ⟨⟨result, c''⟩, hfor, he⟩ := Option.map_eq_some_iff.mp hc
  obtain ⟨-, rfl⟩ := Prod.mk.inj he
  exact h.policiesFor_left hne hfor

theorem SameFor.invalidate (h : SameFor app c other) :
    SameFor app (c.invalidate app) (other.invalidate app) := by
  refine ⟨h.left.remove app, h.right.remove app, h.ttl, h.enabled, ?_⟩
  rw [PolicyCache.invalidate, PolicyCache.invalidate]
  exact (Members.get?_remove_self h.left app).trans (Members.get?_remove_self h.right app).symm

theorem SameFor.invalidate_left (h : SameFor app c other) (hne : name ≠ app) :
    SameFor app (c.invalidate name) other := by
  refine ⟨h.left.remove name, h.right, h.ttl, h.enabled, ?_⟩
  exact (Members.get?_remove_of_ne hne.symm c.apps).trans h.same

theorem SameFor.invalidateAll (h : SameFor app c other) :
    SameFor app c.invalidateAll other.invalidateAll :=
  ⟨List.nodup_nil, List.nodup_nil, h.ttl, h.enabled, rfl⟩

end

end PolicyCache

end QueryGuard
