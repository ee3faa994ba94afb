import QueryGuard.Proofs.Stores
import QueryGuard.Proofs.WellFormed

/-!
# When entries expire

Whether an entry is stale is reckoned when it is looked up, and cannot be where
its time to live ends beyond the calendar. A configuration is accepted with any
time to live that fits its format, so that entries of a cache with an accepted
configuration may end there: `ofConfig_calls_iff` says when they do not.
-/

namespace QueryGuard

theorem Instant.later?_eq_none_iff {t : Instant} {nanoseconds : Int} :
    t.later? nanoseconds = none ↔
      t + nanoseconds < Instant.first ∨ Instant.last < t + nanoseconds := by
  simp only [Instant.later?, Bool.and_eq_true, decide_eq_true_eq, ite_eq_right_iff, reduceCtorEq,
    imp_false, not_and_or, not_le]

-- ---------------------------------------------------------------------------
-- Calls
-- ---------------------------------------------------------------------------

namespace PolicyCache

inductive Call where
  | policiesFor (app : String)
  | matchedPolicies (app verb path : String)
  | refresh (app : String)
  | invalidate (app : String)
  | invalidateAll

/-- The app whose entry is looked up. -/
def Call.reads? : Call → Option String
  | .policiesFor app => some app
  | .matchedPolicies app _ _ => some app
  | _ => none

/-- A call at an instant, and what lists policies then. -/
structure Event where
  now : Instant
  source : PolicySource
  call : Call

/-- The cache after a call. -/
def call? (c : PolicyCache) (e : Event) : Option PolicyCache :=
  match e.call with
  | .policiesFor app => (c.policiesFor e.source e.now app).map Prod.snd
  | .matchedPolicies app verb path =>
    (c.matchedPolicies e.source e.now app verb path).map Prod.snd
  | .refresh app => some (c.refresh e.source e.now app).2
  | .invalidate app => some (c.invalidate app)
  | .invalidateAll => some c.invalidateAll

/-- The cache after one call after the other. -/
def calls? (c : PolicyCache) : List Event → Option PolicyCache
  | [] => some c
  | e :: rest => (c.call? e).bind fun c => c.calls? rest

section
variable {c c' : PolicyCache} {e : Event} {events : List Event} {source : PolicySource}
  {now horizon : Instant} {app : String}

theorem policiesFor_eq_none_iff : c.policiesFor source now app = none ↔
    ∃ entry, c.entry? app = some entry ∧ entry.loadedAt.later? c.ttl = none := by
  unfold policiesFor isStale?
  cases c.entry? app with
  | none => simp
  | some entry => simp

theorem call?_eq_none_iff : c.call? e = none ↔ ∃ app entry, e.call.reads? = some app ∧
    c.entry? app = some entry ∧ entry.loadedAt.later? c.ttl = none := by
  unfold call?
  cases e.call with
  | policiesFor app => simp [policiesFor_eq_none_iff, Call.reads?]
  | matchedPolicies app verb path =>
    simp [matchedPolicies, policiesFor_eq_none_iff, Call.reads?]
  | _ => simp [Call.reads?]

/-- What calls change: entries are loaded at the time of a call, by a cache that
is enabled, and each app has one. -/
structure Descends (c' c : PolicyCache) (now : Instant) : Prop where
  ttl : c'.ttl = c.ttl
  enabled : c'.enabled = c.enabled
  distinct : Members.Distinct c.apps → Members.Distinct c'.apps
  apps : ∀ entry ∈ c'.apps, entry ∈ c.apps ∨ c.enabled = true ∧ entry.2.loadedAt = now

theorem refresh_descends (c : PolicyCache) (source : PolicySource) (now : Instant) (app : String) :
    (c.refresh source now app).2.Descends c now := by
  unfold refresh
  cases source app with
  | error e => exact ⟨rfl, rfl, id, fun entry hm => .inl hm⟩
  | ok listed =>
    dsimp only
    split
    next henabled =>
      refine ⟨rfl, rfl, fun hd => hd.put app _, fun entry hm => ?_⟩
      rcases Members.mem_of_mem_put hm with rfl | hm
      · exact .inr ⟨henabled, rfl⟩
      · exact .inl hm
    · exact ⟨rfl, rfl, id, fun entry hm => .inl hm⟩

theorem policiesFor_descends {result : Except PolicyError (List Policy)}
    (h : c.policiesFor source now app = some (result, c')) : c'.Descends c now := by
  rcases policiesFor_cases h with h | ⟨entry, -, -, rfl⟩
  · have hload := refresh_descends { c with misses := c.misses + 1 } source now app
    rw [h] at hload
    exact ⟨hload.ttl, hload.enabled, hload.distinct, hload.apps⟩
  · exact ⟨rfl, rfl, id, fun entry hm => .inl hm⟩

theorem call?_descends (h : c.call? e = some c') : c'.Descends c e.now := by
  unfold call? at h
  cases hcall : e.call with
  | policiesFor app =>
    simp only [hcall, Option.map_eq_some_iff] at h
    obtain ⟨⟨result, own⟩, h, rfl⟩ := h
    exact policiesFor_descends h
  | matchedPolicies app verb path =>
    simp only [hcall, matchedPolicies, Option.map_map, Option.map_eq_some_iff] at h
    obtain ⟨⟨result, own⟩, h, rfl⟩ := h
    exact policiesFor_descends h
  | refresh app =>
    simp only [hcall, Option.some.injEq] at h
    exact h ▸ refresh_descends c e.source e.now app
  | invalidate app =>
    simp only [hcall, Option.some.injEq] at h
    subst h
    exact ⟨rfl, rfl, fun hd => hd.remove app,
      fun entry hm => .inl ((Members.remove_sublist app c.apps).subset hm)⟩
  | invalidateAll =>
    simp only [hcall, Option.some.injEq] at h
    subst h
    exact ⟨rfl, rfl, fun _ => List.nodup_nil, nofun⟩

-- ---------------------------------------------------------------------------
-- Runs of calls
-- ---------------------------------------------------------------------------

/-- Entries were loaded between the start of the calendar and an instant, and by
a cache that is enabled. -/
def LoadedBy (c : PolicyCache) (horizon : Instant) : Prop :=
  ∀ entry ∈ c.apps,
    c.enabled = true ∧ Instant.first ≤ entry.2.loadedAt ∧ entry.2.loadedAt ≤ horizon

theorem LoadedBy.call? (h : c.LoadedBy horizon) (he : Instant.first ≤ e.now ∧ e.now ≤ horizon)
    (hcall : c.call? e = some c') : c'.LoadedBy horizon := by
  obtain ⟨-, henabled, -, happs⟩ := call?_descends hcall
  intro entry hm
  rw [henabled]
  rcases happs entry hm with hm | ⟨hon, hloaded⟩
  · exact h entry hm
  · exact ⟨hon, hloaded ▸ he⟩

theorem LoadedBy.calls? (h : c.LoadedBy horizon)
    (hevents : ∀ e ∈ events, Instant.first ≤ e.now ∧ e.now ≤ horizon)
    (hcalls : c.calls? events = some c') :
    c'.ttl = c.ttl ∧ c'.enabled = c.enabled ∧ c'.LoadedBy horizon := by
  induction events generalizing c with
  | nil =>
    cases hcalls
    exact ⟨rfl, rfl, h⟩
  | cons e rest ih =>
    obtain ⟨he, hrest⟩ := List.forall_mem_cons.mp hevents
    obtain ⟨next, hcall, hcalls⟩ := Option.bind_eq_some_iff.mp hcalls
    obtain ⟨httl, henabled, -⟩ := call?_descends hcall
    obtain ⟨httl', henabled', hleft⟩ := ih (h.call? he hcall) hrest hcalls
    exact ⟨httl'.trans httl, henabled'.trans henabled, hleft⟩

/-- The end of every entry can be reckoned. -/
def Reckoned (c : PolicyCache) : Prop :=
  ∀ entry ∈ c.apps, (entry.2.loadedAt.later? c.ttl).isSome = true

theorem LoadedBy.reckoned (h : c.LoadedBy horizon) (httl : 0 ≤ c.ttl)
    (hlast : c.enabled = true → horizon + c.ttl ≤ Instant.last) : c.Reckoned := by
  intro entry hm
  obtain ⟨henabled, hfirst, hhorizon⟩ := h entry hm
  have hlast := hlast henabled
  rw [Option.isSome_iff_ne_none, Ne, Instant.later?_eq_none_iff]
  unfold Instant at *
  omega

theorem Reckoned.call? (h : c.Reckoned) (e : Event) : c.call? e ≠ none := by
  intro hnone
  obtain ⟨app, entry, -, hentry, hlater⟩ := call?_eq_none_iff.mp hnone
  obtain ⟨-, hget⟩ := Option.ite_none_right_eq_some.mp hentry
  have hreckoned := h _ (Members.mem_of_get? hget)
  rw [hlater] at hreckoned
  cases hreckoned

theorem LoadedBy.exists_calls? (h : c.LoadedBy horizon) (httl : 0 ≤ c.ttl)
    (hlast : c.enabled = true → horizon + c.ttl ≤ Instant.last)
    (hevents : ∀ e ∈ events, Instant.first ≤ e.now ∧ e.now ≤ horizon) :
    ∃ left, c.calls? events = some left ∧ left.Reckoned := by
  induction events generalizing c with
  | nil => exact ⟨c, rfl, h.reckoned httl hlast⟩
  | cons e rest ih =>
    obtain ⟨he, hrest⟩ := List.forall_mem_cons.mp hevents
    obtain ⟨next, hcall⟩ := Option.ne_none_iff_exists'.mp ((h.reckoned httl hlast).call? e)
    obtain ⟨hsame, henabled, -⟩ := call?_descends hcall
    obtain ⟨left, hcalls, hleft⟩ := ih (h.call? he hcall) (hsame ▸ httl)
      (by rw [henabled, hsame]; exact hlast) hrest
    exact ⟨left, Option.bind_eq_some_iff.mpr ⟨next, hcall, hcalls⟩, hleft⟩

theorem calls?_eq_none (h : c.apps = []) (henabled : c.enabled = true)
    (hlast : Instant.last < now + c.ttl) (app : String) :
    c.calls? (List.replicate 2 ⟨now, .ofList [], .policiesFor app⟩) = none := by
  let loaded := ({ c with misses := c.misses + 1 }.refresh (.ofList []) now app).2
  have hnone : c.entry? app = none := by
    simp [h, entry?, Members.get?]
  have hfirst : c.call? ⟨now, .ofList [], .policiesFor app⟩ = some loaded := by
    simp [call?, policiesFor, hnone, loaded]
  have hentry : loaded.entry? app = some ⟨[], now⟩ := by
    simp [loaded, refresh, PolicySource.ofList, entry?, henabled, selected, Members.get?_put]
  have hlater : now.later? loaded.ttl = none := by
    rw [(refresh_descends { c with misses := c.misses + 1 } (.ofList []) now app).ttl]
    exact Instant.later?_eq_none_iff.mpr (.inr hlast)
  -- The second look-up finds the entry and cannot reckon when it ends.
  have hsecond : loaded.call? ⟨now, .ofList [], .policiesFor app⟩ = none :=
    call?_eq_none_iff.mpr ⟨app, _, rfl, hentry, hlater⟩
  simp [calls?, List.replicate, hfirst, hsecond]

-- ---------------------------------------------------------------------------
-- Accepted configurations
-- ---------------------------------------------------------------------------

theorem ttl?_of_validate {c : Config} (h : c.validate = .ok ()) :
    c.cache.ttl? = .ok c.cache.ttl := by
  have hfits : ∃ ttl, c.cache.ttl? = .ok ttl := by
    obtain ⟨-, h⟩ := unless_ok.mp h
    obtain ⟨ttl, httl, -⟩ := bind_ok.mp h
    exact ⟨ttl, httl⟩
  obtain ⟨ttl, httl⟩ := hfits
  unfold CacheConfig.ttl? at httl ⊢
  split at httl
  next hseconds => rw [if_pos hseconds]
  · cases httl

theorem validate_of_ofToml {source : String} {c : Config} (h : Config.ofToml source = .ok c) :
    c.validate = .ok () := by
  unfold Config.ofToml at h
  split at h
  · cases h
  · obtain ⟨_, hvalid, h⟩ := bind_ok.mp h
    obtain rfl := pure_ok.mp h
    exact hvalid

theorem LoadedBy.call?_eq_none_iff (h : c.LoadedBy Instant.last) (httl : 0 ≤ c.ttl) :
    c.call? e = none ↔ ∃ app entry, e.call.reads? = some app ∧ c.entry? app = some entry ∧
      Instant.last < entry.loadedAt + c.ttl := by
  rw [PolicyCache.call?_eq_none_iff]
  refine exists_congr fun app => exists_congr fun entry => and_congr_right fun _ => ?_
  refine and_congr_right fun hentry => ?_
  obtain ⟨-, hget⟩ := Option.ite_none_right_eq_some.mp hentry
  obtain ⟨-, hfirst, -⟩ := h _ (Members.mem_of_get? hget)
  rw [Instant.later?_eq_none_iff]
  refine or_iff_right (not_lt.mpr ?_)
  exact Int.le_trans hfirst (Int.le_add_of_nonneg_right httl)

/-- With an accepted configuration calls come to their end, whatever they are until
an instant, exactly if the cache keeps nothing or no entry that is loaded by then
ends beyond the calendar. The call that fails is one that looks such an entry up. -/
theorem ofConfig_calls_iff {c : Config}
    (h : c.validate = .ok () ∨ ∃ source, Config.ofToml source = .ok c) :
    ∃ cache, ofConfig c.cache = .ok cache ∧
      (∀ horizon, Instant.first ≤ horizon → horizon ≤ Instant.last →
        ((∀ events : List Event, (∀ e ∈ events, Instant.first ≤ e.now ∧ e.now ≤ horizon) →
            ∃ left, cache.calls? events = some left ∧ left.Reckoned) ↔
          c.cache.enabled = false ∨ horizon + c.cache.ttl.inNanoseconds ≤ Instant.last)) ∧
      ∀ (events : List Event) left,
        (∀ e ∈ events, Instant.first ≤ e.now ∧ e.now ≤ Instant.last) →
        cache.calls? events = some left → ∀ e, left.call? e = none ↔
          ∃ app entry, e.call.reads? = some app ∧ left.entry? app = some entry ∧
            Instant.last < entry.loadedAt + c.cache.ttl.inNanoseconds := by
  have hvalid : c.validate = .ok () := by
    rcases h with h | ⟨source, h⟩
    · exact h
    · exact validate_of_ofToml h
  have hempty : ∀ horizon, LoadedBy
      { ofTtl c.cache.ttl.inNanoseconds with enabled := c.cache.enabled } horizon := nofun
  refine ⟨{ ofTtl c.cache.ttl.inNanoseconds with enabled := c.cache.enabled }, ?_, ?_, ?_⟩
  · rw [ofConfig, ttl?_of_validate hvalid]
    rfl
  · intro horizon hfirst hlast
    constructor
    · intro hall
      by_contra hnot
      obtain ⟨henabled, hbeyond⟩ := not_or.mp hnot
      obtain ⟨left, hleft, -⟩ := hall (List.replicate 2 ⟨horizon, .ofList [], .policiesFor "app"⟩)
        fun e he => (List.mem_replicate.mp he).2 ▸ ⟨hfirst, Int.le_refl _⟩
      rw [calls?_eq_none rfl (by simpa using henabled) (not_le.mp hbeyond)] at hleft
      cases hleft
    · intro hwithin events hevents
      refine (hempty horizon).exists_calls? (Int.natCast_nonneg _) ?_ hevents
      intro henabled
      refine hwithin.resolve_left ?_
      simpa using henabled
  · intro events left hevents hcalls e
    obtain ⟨httl, -, hloaded⟩ := (hempty Instant.last).calls? hevents hcalls
    have hiff := hloaded.call?_eq_none_iff (e := e) (httl ▸ Int.natCast_nonneg _)
    rwa [httl] at hiff

/-- The default configuration is good for another eight thousand years. -/
theorem ofConfig_calls_iff_default :
    Config.default.validate = .ok () ∧ ∃ cache, ofConfig Config.default.cache = .ok cache ∧
      ∀ events : List Event, (∀ e ∈ events, Instant.first ≤ e.now ∧ e.now ≤ 0) →
        ∃ left, cache.calls? events = some left ∧ left.Reckoned := by
  have hvalid : Config.default.validate = .ok () := by rfl
  obtain ⟨cache, hcache, hiff, -⟩ := ofConfig_calls_iff (.inl hvalid)
  exact ⟨hvalid, cache, hcache, (hiff 0 (by decide) (by decide)).mpr (.inr (by decide))⟩

/-- An accepted time to live of thirty thousand years: the second look-up fails. -/
theorem ofConfig_calls_unreckoned :
    let c : Config := { Config.default with cache := ⟨true, .ofSeconds 1000000000000⟩ }
    c.validate = .ok () ∧ ∃ cache, ofConfig c.cache = .ok cache ∧
      cache.calls? (List.replicate 2 ⟨0, .ofList [], .policiesFor "app"⟩) = none :=
  ⟨by rfl, _, rfl, by rfl⟩

end

end PolicyCache

end QueryGuard
