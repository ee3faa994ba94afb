import QueryGuard.Proofs.Linkage
import QueryGuard.Proofs.References

/-!
# References on their own

The references of one query share an environment, and the first that leads to
the sentinel leaves the person's id in it. The others are given what each of them
would be given alone, except for one: a reference to the person's own name, where
that has no value, is forestalled by a reference that leads to the sentinel before
it (`substitute_alone_iff`).
-/

namespace QueryGuard

/-- The owner is the linked person. -/
def Session.owned : Session :=
  ⟨⟨[("authUserId", .string "u-1"), ("owner", .string "personId")]⟩, 0⟩

/-- Refers to the owner, and then to the person. -/
def Query.handover : Query :=
  (ofField "owner" (.string "env.owner")).put "reviewer" (.literal (.string "env.personId"))

namespace Environment

/-- The text is a reference that leads to the sentinel. -/
def Derives (env : Environment) (text : String) : Prop :=
  ∃ path value, reference? text = some path ∧ env.lookup? path = some value ∧
    isSentinel value = true

/-- Nothing stands under the person's name, not even the sentinel. -/
def Vacant (env : Environment) : Prop :=
  env.get? personKey = none ∨ env.get? personKey = some .null

/-- The text refers to the person's name, which has no value yet. But some reference
before it leads to the sentinel. -/
def Forestalled (env : Environment) (references : List String) (text : String) : Prop :=
  reference? text = some personKey ∧ env.Vacant ∧
    ∃ before after, references = before ++ text :: after ∧
      ∃ earlier ∈ before, env.Derives earlier

-- ---------------------------------------------------------------------------
-- Looking up beside a kept id
-- ---------------------------------------------------------------------------

section
variable {directory : Directory} {app : String} {user? : Option String} {env base : Environment}
  {path : String}

theorem Vacant.personId? (h : env.Vacant) : env.personId? = none := by
  unfold Environment.personId?
  rcases h with h | h <;> simp [h, Json.isNull]

theorem sentinel_of_not_vacant (hnone : env.personId? = none) (h : ¬env.Vacant) :
    ∃ value, env.get? personKey = some value ∧ isSentinel value = true := by
  unfold Environment.Vacant at h
  cases hv : env.get? personKey with
  | none => exact absurd (.inl hv) h
  | some value =>
    refine ⟨value, rfl, of_not_not fun hs => ?_⟩
    have hnull : value.isNull = true := by
      simpa [Environment.personId?, hv, Option.filter_some, hs] using hnone
    cases value <;> simp [Json.isNull, hv] at hnull h

theorem lookup?_name (h : (path.toList.splitOn '.').map String.ofList = [path])
    (env : Environment) : env.lookup? path = env.get? path := by
  simp [lookup?, h, walk?]

theorem lookup?_personKey (env : Environment) : env.lookup? personKey = env.get? personKey :=
  lookup?_name (by rfl) env

theorem eq_of_splitOn {name : String}
    (h : (path.toList.splitOn '.').map String.ofList = [name]) : path = name := by
  obtain ⟨segment, hsegment, rfl⟩ := List.map_eq_singleton_iff.mp h
  have hjoin : ['.'].intercalate (path.toList.splitOn '.') = path.toList :=
    List.intercalate_splitOn '.'
  rw [hsegment, List.intercalate_singleton] at hjoin
  rw [hjoin, String.ofList_toList]

theorem exists_lookup?_cons (hroot : root? path = some personKey) (hne : path ≠ personKey) :
    ∃ segment rest, ∀ env : Environment,
      env.lookup? path = (env.get? personKey).bind (walk? · (segment :: rest)) := by
  unfold root? at hroot
  unfold lookup?
  cases hs : (path.toList.splitOn '.').map String.ofList with
  | nil => simp [hs] at hroot
  | cons first rest =>
    obtain rfl : first = personKey := by simpa [hs] using hroot
    cases rest with
    | nil => exact absurd (eq_of_splitOn hs) hne
    | cons segment rest => exact ⟨segment, rest, fun _ => rfl⟩

theorem lookup?_keeping (h : Keeping directory app user? env base) (path : String) :
    env.lookup? path = base.lookup? path ∨
      path = personKey ∧ env.get? personKey ≠ base.get? personKey ∧ base.personId? = none ∧
        ∃ id, directory.Links app user? id ∧ env.get? personKey = some id := by
  obtain ⟨name, segments, hroot, hlookup⟩ := exists_lookup?_eq path
  by_cases hname : name = personKey
  · subst hname
    by_cases hsame : env.get? personKey = base.get? personKey
    · exact .inl (by rw [hlookup, hlookup, hsame])
    obtain ⟨hnone, id, hlinked, hkept⟩ := h.person.resolve_left hsame
    by_cases hpath : path = personKey
    · exact .inr ⟨hpath, hsame, hnone, id, hlinked, hkept⟩
    -- Neither the id nor what it has taken the place of can be walked into.
    · obtain ⟨segment, rest, hlookup⟩ := exists_lookup?_cons hroot hpath
      obtain ⟨user, person, -, -, rfl⟩ := hlinked
      rw [hlookup, hlookup, hkept, Option.bind_some, walk?_cons_scalar ⟨rfl, rfl⟩]
      refine .inl (Option.bind_eq_none_iff.mpr fun value hv => ?_).symm
      exact walk?_cons_scalar (scalar_of_personId?_none hnone hv)
  · exact .inl (by rw [hlookup, hlookup, h.values name hname])

end

end Environment

-- ---------------------------------------------------------------------------
-- Resolving one reference
-- ---------------------------------------------------------------------------

namespace Resolution

open Environment

section
variable {mode : UnresolvedMode} {directory : Directory} {app text : String} {base : Environment}
  {image : String → Json} {references : List String} {s s' : Session} {found : Option Json}
  {id : Json}

theorem personId_linked (hkeeping : Keeping directory app base.userId? s.env base)
    (hnone : base.personId? = none) (h : Runs (personId directory app) s id s') :
    directory.Links app base.userId? id := by
  rcases personId_keeping hkeeping h with ⟨hbound, -⟩ | ⟨-, -, hlinked, -⟩ | ⟨-, -, hlinked, -⟩
  · cases hnone.symm.trans hbound
  · exact hlinked
  · exact hlinked

theorem personId_bound {known : Json} (hkeeping : Keeping directory app base.userId? s.env base)
    (hbound : base.personId? = some known) (h : Runs (personId directory app) s id s') :
    known = id := by
  rcases personId_keeping hkeeping h with ⟨hown, -⟩ | ⟨hnone, -⟩ | ⟨hnone, -⟩
  · exact Option.some.inj (hbound.symm.trans hown)
  · cases hnone.symm.trans hbound
  · cases hnone.symm.trans hbound

theorem personId_of_links (hnone : base.personId? = none)
    (h : directory.Links app base.userId? id) (n : Nat) :
    ∃ last, Runs (personId directory app) ⟨base, n⟩ id last := by
  obtain ⟨user, person, huser, hperson, rfl⟩ := h
  exact ⟨_, personId_runs.mpr (.inr ⟨hnone, user, person, huser, hperson, rfl, rfl⟩)⟩

theorem personId_alone (hkeeping : Keeping directory app base.userId? s.env base)
    (h : Runs (personId directory app) s id s') (n : Nat) :
    ∃ last, Runs (personId directory app) ⟨base, n⟩ id last := by
  cases hbase : base.personId? with
  | none => exact personId_of_links hbase (personId_linked hkeeping hbase h) n
  | some known =>
    obtain rfl := personId_bound hkeeping hbase h
    exact ⟨_, personId_runs.mpr (.inl ⟨hbase, rfl⟩)⟩

theorem ofText_keeping (hkeeping : Keeping directory app base.userId? s.env base)
    (h : Runs (ofText directory app text) s found s') :
    Keeping directory app base.userId? s'.env base := by
  rcases ofText_personal base h with ⟨-, id, hid, -⟩ | ⟨-, rfl⟩
  · rcases personId_keeping hkeeping hid with ⟨-, rfl⟩ | ⟨-, -, -, rfl⟩ | ⟨hnone, -, hlinked, hs'⟩
    · exact hkeeping
    · exact hkeeping
    · exact hs' ▸ hkeeping.put hnone hlinked
  · exact hkeeping

theorem ofText_of_lookup? (hkeeping : Keeping directory app base.userId? s.env base)
    (h : Runs (ofText directory app text) s found s')
    (hsame : ∀ path, reference? text = some path → base.lookup? path = s.env.lookup? path)
    (n : Nat) : ∃ last, Runs (ofText directory app text) ⟨base, n⟩ found last := by
  simp only [ofText_yields] at h ⊢
  cases h with
  | literal hpath => exact ⟨_, .literal hpath⟩
  | missing hpath hv => exact ⟨_, .missing hpath ((hsame _ hpath).trans hv)⟩
  | value hpath hv hs => exact ⟨_, .value hpath ((hsame _ hpath).trans hv) hs⟩
  | personal hpath hv hs hid =>
    obtain ⟨last, hlast⟩ := personId_alone hkeeping hid n
    exact ⟨last, .personal hpath ((hsame _ hpath).trans hv) hs hlast⟩

theorem ofText_kept (hkeeping : Keeping directory app base.userId? s.env base)
    (h : Runs (ofText directory app text) s found s') (hpath : reference? text = some personKey)
    (hdiffers : s.env.get? personKey ≠ base.get? personKey) :
    ∃ id, directory.Links app base.userId? id ∧ found = some id := by
  obtain ⟨hnone, id, hlinked, hkept⟩ := hkeeping.person.resolve_left hdiffers
  have hlooked : s.env.lookup? personKey = some id := (lookup?_personKey s.env).trans hkept
  cases ofText_yields.mp h with
  | literal hown => cases hpath.symm.trans hown
  | missing hown hv =>
    cases hpath.symm.trans hown
    cases hlooked.symm.trans hv
  | value hown hv _ =>
    cases hpath.symm.trans hown
    exact ⟨id, hlinked, hv.symm.trans hlooked⟩
  | personal _ _ _ hid => exact ⟨_, personId_linked hkeeping hnone hid, rfl⟩

theorem ofText_vacant (hvacant : s.env.Vacant) (hpath : reference? text = some personKey)
    (h : Runs (ofText directory app text) s found s') : found.getD .null = .null := by
  have hnull : ∀ value, s.env.lookup? personKey = some value → value = .null := by
    intro value hv
    rw [lookup?_personKey] at hv
    rcases hvacant with hnone | hnull
    · cases hnone.symm.trans hv
    · exact Option.some.inj (hv.symm.trans hnull)
  cases ofText_yields.mp h with
  | literal hown => cases hpath.symm.trans hown
  | missing => rfl
  | value hown hv _ =>
    cases hpath.symm.trans hown
    exact hnull _ hv
  | personal hown hv hs _ =>
    cases hpath.symm.trans hown
    rw [hnull _ hv] at hs
    cases hs

theorem ofText_alone (hkeeping : Keeping directory app base.userId? s.env base)
    (h : Runs (ofText directory app text) s found s')
    (hfree : reference? text = some personKey → base.Vacant →
      s.env.get? personKey = base.get? personKey) (n : Nat) :
    ∃ last, Runs (ofText directory app text) ⟨base, n⟩ found last := by
  by_cases hsame : ∀ path, reference? text = some path → base.lookup? path = s.env.lookup? path
  · exact ofText_of_lookup? hkeeping h hsame n
  · -- Only the person's name is seen otherwise, and the sentinel stands there alone.
    simp only [not_forall, exists_prop] at hsame
    obtain ⟨path, hpath, hunlike⟩ := hsame
    obtain ⟨rfl, hdiffers, hnone, -⟩ :=
      (lookup?_keeping hkeeping path).resolve_left (Ne.symm hunlike)
    obtain ⟨value, hvalue, hs⟩ := sentinel_of_not_vacant hnone fun hv => hdiffers (hfree hpath hv)
    obtain ⟨id, hlinked, rfl⟩ := ofText_kept hkeeping h hpath hdiffers
    obtain ⟨last, hlast⟩ := personId_of_links hnone hlinked n
    have hlooked : base.lookup? personKey = some value := (lookup?_personKey base).trans hvalue
    exact ⟨last, ofText_yields.mpr (.personal hpath hlooked hs hlast)⟩

-- ---------------------------------------------------------------------------
-- Resolving one after the other
-- ---------------------------------------------------------------------------

/-- Where the name of the person is vacant, it is filled by the references that lead
to the sentinel, and by no other. -/
theorem ofText_fills (hkeeping : Keeping directory app base.userId? s.env base)
    (h : Runs (ofText directory app text) s found s') (hvacant : base.Vacant) :
    s'.env.get? personKey ≠ base.get? personKey ↔
      s.env.get? personKey ≠ base.get? personKey ∨ base.Derives text := by
  have hput : ∀ id, ((s.env.put personKey (.string id)).get? personKey ≠ base.get? personKey) := by
    intro id
    rw [get?_put, if_pos rfl]
    rcases hvacant with hnone | hnull
    · simp [hnone]
    · simp [hnull]
  have hderives : s.env.get? personKey = base.get? personKey →
      (s.env.Derives text ↔ base.Derives text) := by
    intro hsame
    refine exists_congr fun path => exists_congr fun value => and_congr_right fun _ => ?_
    rcases lookup?_keeping hkeeping path with hlookup | ⟨-, hdiffers, -⟩
    · rw [hlookup]
    · exact absurd hsame hdiffers
  rcases ofText_personal base h with ⟨hpersonal, id, hid, -⟩ | ⟨hother, rfl⟩
  · have hpersonal : s.env.Derives text := hpersonal
    rcases personId_runs.mp hid with ⟨hknown, rfl⟩ | ⟨-, user, person, -, -, -, rfl⟩
    · refine (or_iff_left_of_imp fun hbase => ?_).symm
      intro hsame
      rw [Environment.personId?, hsame, ← Environment.personId?, hvacant.personId?] at hknown
      cases hknown
    · refine iff_of_true (hput person.id) ?_
      by_cases hsame : s.env.get? personKey = base.get? personKey
      · exact .inr ((hderives hsame).mp hpersonal)
      · exact .inl hsame
  · have hother : ¬s'.env.Derives text := hother
    refine (or_iff_left_of_imp fun hbase => ?_).symm
    intro hsame
    exact hother ((hderives hsame).mpr hbase)

theorem Resolves.keeping (h : Resolves mode directory app image s references s')
    (hkeeping : Keeping directory app base.userId? s.env base) :
    Keeping directory app base.userId? s'.env base := by
  induction h with
  | nil s => exact hkeeping
  | cons h value admitted hrest ih => exact ih (ofText_keeping hkeeping h)

theorem Resolves.fills (h : Resolves mode directory app image s references s')
    (hkeeping : Keeping directory app base.userId? s.env base) (hvacant : base.Vacant) :
    s'.env.get? personKey ≠ base.get? personKey ↔
      s.env.get? personKey ≠ base.get? personKey ∨ ∃ earlier ∈ references, base.Derives earlier := by
  induction h with
  | nil s => simp
  | cons h value admitted hrest ih =>
    rw [ih (ofText_keeping hkeeping h), ofText_fills hkeeping h hvacant, or_assoc]
    simp

theorem Resolves.split {before after : List String}
    (h : Resolves mode directory app image s (before ++ text :: after) s') :
    ∃ mid next found, Resolves mode directory app image s before mid ∧
      Runs (ofText directory app text) mid found next ∧ image text = found.getD .null ∧
      (found = none → mode = .null) := by
  induction before generalizing s with
  | nil =>
    obtain _ | ⟨h, value, admitted, hrest⟩ := h
    exact ⟨s, _, _, .nil s, h, value, admitted⟩
  | cons first rest ih =>
    obtain _ | ⟨h, value, admitted, hrest⟩ := h
    obtain ⟨mid, next, found, hbefore, hown⟩ := ih hrest
    exact ⟨mid, next, found, .cons h value admitted hbefore, hown⟩

end

/-- What substitution puts in for a reference is what resolving it alone, in the
environment at the start, gives, unless the reference is forestalled; then it is
the id of the linked person. -/
theorem substitute_alone_iff {mode : UnresolvedMode} {directory : Directory} {app : String}
    {q result : Query} {s s' : Session}
    (h : Runs (substitute mode directory app q) s result s') :
    ∃ image, q.Replaced image result ∧ ∀ text ∈ q.references,
      ((∃ last, Runs (ofReference mode directory app text) s (image text) last) ↔
        ¬s.env.Forestalled q.references text) ∧
      (s.env.Forestalled q.references text →
        directory.Links app s.env.userId? (image text)) := by
  obtain ⟨image, hresolves, hreplaced⟩ := substitute_runs.mp h
  refine ⟨image, hreplaced, fun text ht => ?_⟩
  by_cases hforestalled : s.env.Forestalled q.references text
  · obtain ⟨hpath, hvacant, before, after, he, hearlier⟩ := hforestalled
    rw [he] at hresolves
    obtain ⟨mid, next, found, hbefore, hown, hvalue, -⟩ := hresolves.split
    have hkeeping := hbefore.keeping (.refl s.env)
    have hdiffers := (hbefore.fills (.refl s.env) hvacant).mpr (.inr hearlier)
    obtain ⟨id, hlinked, rfl⟩ := ofText_kept hkeeping hown hpath hdiffers
    rw [Option.getD_some] at hvalue
    refine ⟨iff_of_false ?_ ?_, fun _ => hvalue ▸ hlinked⟩
    · rintro ⟨last, hlast⟩
      obtain ⟨other, hother, hsame, -⟩ := ofReference_runs.mp hlast
      obtain ⟨user, person, -, -, rfl⟩ := hlinked
      -- Alone the reference has no value, and a person's id is a text.
      rw [ofText_vacant hvacant hpath hother, hvalue] at hsame
      cases hsame
    · exact not_not_intro ⟨hpath, hvacant, before, after, he, hearlier⟩
  · refine ⟨iff_of_true ?_ hforestalled, fun hf => absurd hf hforestalled⟩
    obtain ⟨before, after, he⟩ := List.append_of_mem ht
    rw [he] at hresolves
    obtain ⟨mid, next, found, hbefore, hown, hvalue, hadmitted⟩ := hresolves.split
    -- Nothing before it has filled the name of the person.
    have hfree : reference? text = some personKey → s.env.Vacant →
        mid.env.get? personKey = s.env.get? personKey := by
      intro hpath hvacant
      by_contra hdiffers
      rcases (hbefore.fills (.refl s.env) hvacant).mp hdiffers with hnone | hearlier
      · exact hnone rfl
      · exact hforestalled ⟨hpath, hvacant, before, after, he, hearlier⟩
    obtain ⟨last, hlast⟩ := ofText_alone (hbefore.keeping (.refl s.env)) hown hfree s.lookups
    exact ⟨last, ofReference_runs.mpr ⟨found, hlast, hvalue, hadmitted⟩⟩

/-- The owner's reference leads to the sentinel, and the person's comes after it. -/
theorem substitute_alone_handover :
    let directory := Directory.ofStore ⟨[.linked]⟩
    ∃ result s', Runs (substitute .null directory "app" .handover) .owned result s' ∧
      ∃ image, Query.handover.Replaced image result ∧
        (∃ last, Runs (ofReference .null directory "app" "env.owner") .owned (image "env.owner")
          last) ∧
        directory.Links "app" (some "u-1") (image "env.personId") := by
  intro directory
  have hruns : ∃ result s', Runs (substitute .null directory "app" .handover) .owned result s' :=
    ⟨_, _, rfl⟩
  obtain ⟨result, s', h⟩ := hruns
  obtain ⟨image, hreplaced, halone⟩ := substitute_alone_iff h
  have hreferences : Query.handover.references = ["env.owner", "env.personId"] := by decide
  obtain ⟨howner, -⟩ := halone "env.owner" (by simp [hreferences])
  obtain ⟨-, hreviewer⟩ := halone "env.personId" (by simp [hreferences])
  refine ⟨result, s', h, image, hreplaced, howner.mpr ?_, hreviewer ?_⟩
  · rintro ⟨hpath, -⟩
    revert hpath
    decide
  · refine ⟨by rfl, .inl (by rfl), ["env.owner"], [], hreferences, "env.owner", by simp, ?_⟩
    exact ⟨"owner", .string "personId", by rfl, by rfl, by rfl⟩

/-- Alone the person's reference has no value. -/
theorem substitute_not_alone :
    let directory := Directory.ofStore ⟨[.linked]⟩
    (∃ result s', Runs (substitute .null directory "app" .handover) .owned result s' ∧
      result.get? "reviewer" = some (.literal (.string "p-1"))) ∧
    ∀ value last, Runs (ofReference .null directory "app" "env.personId") .owned value last →
      value = .null := by
  intro directory
  refine ⟨⟨_, _, rfl, by rfl⟩, fun value last h => ?_⟩
  have hnull : Runs (ofReference .null directory "app" "env.personId") .owned .null .owned := by rfl
  have he := h.symm.trans hnull
  cases he
  rfl

end Resolution

end QueryGuard
