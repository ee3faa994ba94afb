import QueryGuard.Proofs.KeyOrder

/-!
# Merging again

A query absorbs a clause that it says already: merging the clause leaves the
query as it is. A merged query absorbs every group of the access-control query
and every plain clause that is in force in it. So a second merge leaves the
query of the first exactly if the first overruled no clause, and without
conflicts it reports something only where the access-control query's plain
clauses disagree with its own groups.
-/

namespace QueryGuard

open Query

namespace Query

/-- What merging the clause would bring is there. -/
inductive Absorbs (q : Query) : String → Node → Prop
  /-- The top level has no other clause for the field. -/
  | plain {key : String} {node : Node} (plain : node.isGroup = false)
      (top : ∀ own, q.get? key = some own → own.same node = true) (force : q.InForce key node) :
      Absorbs q key node
  | conjunction {children existing : List Query} (group : q.group? .and = some existing)
      (told : ∀ child ∈ children, child.isIn existing = true ∨
        isImplied (existing.flatMap fields) child = true) :
      Absorbs q Logical.and.key (.group .and children)
  /-- The alternatives count as said. -/
  | covered {own others : List Query} (group : q.group? .or = some own)
      (covers : Covers own others) : Absorbs q Logical.or.key (.group .or others)
  /-- The conjunction has the alternatives as a whole. -/
  | conjoined {own others existing : List Query} (group : q.group? .or = some own)
      (conjunction : q.group? .and = some existing)
      (told : (alternatives others).isIn existing = true) :
      Absorbs q Logical.or.key (.group .or others)

/-- The access-control query's plain clauses agree with those of its own groups
that join the merged query. -/
def Consistent (caller access : Query) : Prop :=
  ∀ clause ∈ access.fields, ∀ op, (op = .or → caller.group? .or = none) →
    Agrees (access.childrenOf op) clause.1 clause.2

-- ---------------------------------------------------------------------------
-- Clauses that are absorbed
-- ---------------------------------------------------------------------------

section
variable {q result : Query} {found : List Conflict} {key field : String} {node clause : Node}
  {op : Logical} {children existing : List Query} {child : Query}

theorem isImplied_mono (hsub : existing ⊆ children)
    (h : isImplied (existing.flatMap fields) child = true) :
    isImplied (children.flatMap fields) child = true := by
  refine List.all_eq_true.mpr fun clause hm => ?_
  obtain ⟨own, ho, hlike⟩ := List.any_eq_true.mp (List.all_eq_true.mp h clause hm)
  refine List.any_eq_true.mpr ⟨own, ?_, hlike⟩
  simp only [requestedFor, List.mem_map, List.mem_filter, List.mem_flatMap] at ho ⊢
  obtain ⟨held, ⟨⟨other, hother, hheld⟩, hkey⟩, he⟩ := ho
  exact ⟨held, ⟨⟨other, hsub hother, hheld⟩, hkey⟩, he⟩

theorem covers_self (hc : ∀ child ∈ children, child.WellFormed) : Covers children children :=
  ⟨rfl, fun child hm => isIn_of_mem (hc child hm).distinct hm⟩

theorem withGroup_self (hq : q.Keyed) (h : q.group? op = some children) :
    q.withGroup op children = q :=
  (withGroup_eq hq h).trans (put_self ((group?_eq_some_iff hq).mp h))

theorem mergeField_of_inForce {m : Merging} (hq : m.query.WellFormed) (hn : node.Distinct)
    (htop : ∀ own, m.query.get? key = some own → own.same node = true)
    (hforce : m.query.InForce key node) : (mergeField key node m).query = m.query := by
  unfold mergeField
  dsimp only
  cases hg : m.query.get? key with
  | some own => simp [htop own hg]
  | none =>
    have hsaid : m.query.Says key node := by
      refine hforce.resolve_left ?_
      rintro ⟨own, hown, -⟩
      rw [hg] at hown
      cases hown
    simp [(implied_iff hq hn).mpr hsaid]

theorem Absorbs.mergeClause {m : Merging} (h : m.query.Absorbs key node) (hq : m.query.WellFormed)
    (hn : node.Distinct) : (Query.mergeClause m key node).query = m.query := by
  cases h with
  | plain plain top force =>
    rw [mergeClause_plain plain]
    exact mergeField_of_inForce hq hn top force
  | @conjunction children existing group told =>
    have hnone : ((children.filter fun child => !child.isIn existing).filter
        fun child => !isImplied (existing.flatMap fields) child) = [] := by
      simp only [List.filter_eq_nil_iff, List.mem_filter, Bool.not_eq_true']
      rintro child ⟨hc, hin⟩
      simpa [hin] using told child hc
    simp [Query.mergeClause, group, crossCheck, hnone, withGroup_self hq.keyed group]
  | @covered own others group covers =>
    have hcheck : (own.length == others.length &&
        (others.filter fun child => !child.isIn own).isEmpty) = true := by
      simpa [Covers] using covers
    simp only [Query.mergeClause, group, Option.isSome_some, ↓reduceIte, crossCheck,
      Option.getD_some, hcheck]
  | @conjoined own others existing group conjunction told =>
    have hsame : m.query.conjoin (empty.insertGroup .or others) = m.query := by
      simp only [conjoin, conjunction]
      exact if_pos told
    simp [Query.mergeClause, group, crossCheck, hsame]

-- ---------------------------------------------------------------------------
-- Groups across a step
-- ---------------------------------------------------------------------------

theorem MergeStep.absorbs_group (h : MergeStep q found key (.group op children) result)
    (hr : result.Keyed) (hn : (Node.group op children).WellFormed key) :
    result.Absorbs key (.group op children) := by
  have hchildren := (wellFormed_group.mp hn).2
  cases h with
  | agreed plain | implied plain | added plain | replaced plain => cases plain
  | installed _ stored =>
    have hgroup := (group?_eq_some_iff hr).mpr stored
    cases op with
    | and => exact .conjunction hgroup fun child hc => .inl (isIn_of_mem (hchildren child hc).distinct hc)
    | or => exact .covered hgroup (covers_self hchildren)
  | extended _ grown _ told =>
    refine .conjunction (grown.group_and hr) fun child hc => ?_
    rcases told child hc with hin | himplied | hadded
    · exact .inl (isIn_mono (List.subset_append_left ..) hin)
    · exact .inr (isImplied_mono (List.subset_append_left ..) himplied)
    · exact .inl (isIn_of_mem (hchildren child hc).distinct (List.mem_append_right _ hadded))
  | covered group covers => exact .covered group covers
  | conjoined group _ grown told =>
    have halt : (alternatives children).WellFormed := wellFormed_empty.insertGroup hchildren
    have hgroup := (group?_congr (grown.rest Logical.or.key (by decide))).trans group
    exact .conjoined hgroup (grown.group_and hr) (told.elim (isIn_of_mem halt.distinct) id)

theorem Absorbs.of_step (h : q.Absorbs field (.group op children))
    (hstep : MergeStep q found key node result) (hq : q.Keyed) (hr : result.Keyed)
    (hn : node.Keyed key) : result.Absorbs field (.group op children) := by
  have hor : ∀ {own}, q.group? .or = some own → result.group? .or = some own := by
    intro own hg
    rw [hstep.group_or hq hr hn fun _ => by simp [hg], hg]
  cases h with
  | plain plain => cases plain
  | conjunction group told =>
    obtain ⟨more, hmore, hsub⟩ := hstep.keeps_children hq hr hn group
    exact .conjunction hmore fun child hc => (told child hc).imp (isIn_mono hsub) (isImplied_mono hsub)
  | covered group covers => exact .covered (hor group) covers
  | conjoined group conjunction told =>
    obtain ⟨more, hmore, hsub⟩ := hstep.keeps_children hq hr hn conjunction
    exact .conjoined (hor group) hmore (isIn_mono hsub told)

theorem MergeStep.top (h : MergeStep q found key node result) (hn : node.Distinct)
    (hp : node.isGroup = false) : ∀ own, result.get? key = some own → own.same node = true := by
  intro own hg
  cases h with
  | agreed _ held like =>
    obtain rfl := Option.some.inj (held.symm.trans hg)
    exact like
  | implied _ absent =>
    rw [absent] at hg
    cases hg
  | added | replaced =>
    rw [get?_put_self] at hg
    cases hg
    exact Node.same_refl hn
  | installed | extended | covered | conjoined => cases hp

theorem MergeStep.keeps_inForce (h : MergeStep q [] key node result) (hq : q.Keyed)
    (hr : result.Keyed) (hn : node.Keyed key) (hf : Logical.ofKey? field = none)
    (hne : field ≠ key) (hs : q.InForce field clause) : result.InForce field clause := by
  refine hs.imp ?_ (h.keeps_said hq hr hn)
  rintro ⟨own, hg, hlike⟩
  have hp := plain_of_keyed (hq.of_get? hg) hf
  refine ⟨own, (h.get?_plain_iff hf hne hp).mpr ⟨hg, ?_⟩, hlike⟩
  rintro ⟨op, children, rfl, hlacks, hcontra⟩
  -- Only a group that is installed removes clauses, and it reports each of them.
  cases h with
  | agreed plain | implied plain | added plain | replaced plain => cases plain
  | installed _ _ _ silent => exact silent rfl field own hg hp hcontra
  | extended group | covered group | conjoined group => simp [hlacks] at group

end

-- ---------------------------------------------------------------------------
-- What a merged query absorbs
-- ---------------------------------------------------------------------------

section
variable {caller access q : Query} {key field : String} {node clause : Node} {op : Logical}
  {children : List Query}

/-- What the step of a clause brings about and later steps keep holds in the end.
The steps may use that what they report is among what is reported in all. -/
theorem merging_of_mem {holds : Query → Prop} {reported : List Conflict} (hc : caller.WellFormed)
    (ha : access.WellFormed) (hm : (field, clause) ∈ access.clauses)
    (hall : (merging caller access).conflicts ⊆ reported)
    (own : ∀ {q result found}, MergeStep q found field clause result → q.WellFormed →
      result.WellFormed → found ⊆ reported → holds result)
    (later : ∀ {q result found key node}, MergeStep q found key node result → q.WellFormed →
      result.WellFormed → node.WellFormed key → field ≠ key → found ⊆ reported → holds q →
      holds result) :
    holds (merging caller access).query := by
  induction ha using WellFormed.induct with
  | nil => simp [empty] at hm
  | append clauses key node ha hn hnew ih =>
    obtain ⟨found, hconflicts, hstep, hq, hr⟩ := merging_step hc ha hn
    rw [hconflicts] at hall
    obtain ⟨hinit, hfound⟩ := List.append_subset.mp hall
    rcases List.mem_append.mp hm with hold | hlast
    · have hne : field ≠ key := fun he => hnew (he ▸ Members.mem_names hold)
      exact later hstep hq hr hn hne hfound (ih hold hinit)
    · cases List.mem_singleton.mp hlast
      exact own hstep hq hr hfound

theorem merging_absorbs_group (hc : caller.WellFormed) (ha : access.WellFormed)
    (hm : (key, Node.group op children) ∈ access.clauses) :
    (merging caller access).query.Absorbs key (.group op children) :=
  merging_of_mem hc ha hm (List.Subset.refl _)
    (fun hstep _ hr _ => hstep.absorbs_group hr.keyed (ha.of_mem hm))
    fun hstep hq hr hn _ _ h => h.of_step hstep hq.keyed hr.keyed hn.keyed

theorem merging_top (hc : caller.WellFormed) (ha : access.WellFormed)
    (hm : (field, clause) ∈ access.clauses) (hp : clause.isGroup = false) :
    ∀ own, (merging caller access).query.get? field = some own → own.same clause = true := by
  have hn := ha.of_mem hm
  refine merging_of_mem hc ha hm (List.Subset.refl _)
    (fun hstep _ _ _ => hstep.top hn.distinct hp) fun hstep _ hr _ hne _ htop own hg => ?_
  have hf := keyed_plain hn.keyed hp
  have hown := plain_of_keyed (hr.keyed.of_get? hg) hf
  exact htop own ((hstep.get?_plain_iff hf hne hown).mp hg).1

theorem merging_inForce_of_nil (hc : caller.WellFormed) (ha : access.WellFormed)
    (hnone : (merging caller access).conflicts = []) (hm : (field, clause) ∈ access.clauses)
    (hp : clause.isGroup = false) : (merging caller access).query.InForce field clause := by
  have hn := ha.of_mem hm
  refine merging_of_mem hc ha hm (List.Subset.refl _)
    (fun hstep hq _ _ => hstep.inForce hq hn hp) fun hstep hq hr hn' hne hfound hforce => ?_
  obtain rfl := List.subset_nil.mp (hnone ▸ hfound)
  exact hstep.keeps_inForce hq.keyed hr.keyed hn'.keyed (keyed_plain hn.keyed hp) hne hforce

theorem merging_of_absorbs (hq : q.WellFormed) (ha : access.WellFormed)
    (h : ∀ clause ∈ access.clauses, q.Absorbs clause.1 clause.2) :
    (merging q access).query = q := by
  induction ha using WellFormed.induct with
  | nil => rfl
  | append clauses key node ha hn hnew ih =>
    have ih : (merging q ⟨clauses⟩).query = q :=
      ih fun clause hm => h clause (List.mem_append_left _ hm)
    have hlast := h (key, node) (by simp)
    rw [← ih] at hlast hq
    rw [merging_append, hlast.mergeClause hq hn.distinct, ih]

theorem merging_group?_ne_none (hc : caller.WellFormed) (ha : access.WellFormed)
    (h : access.group? op = some children) : (merging caller access).query.group? op ≠ none := by
  have habsorbs := merging_absorbs_group hc ha ((group?_eq_some_iff_mem ha.keyed).mp h)
  generalize hkey : op.key = key at habsorbs
  cases habsorbs with
  | plain plain => cases plain
  | conjunction group | covered group | conjoined group => simp [group]

theorem not_overruled_of_hasConflicts_eq_false (hc : caller.WellFormed) (ha : access.WellFormed)
    (h : (mergeInto (some caller) access).1.hasConflicts = false) :
    ∀ clause ∈ access.fields, ¬Overruled caller access clause.1 clause.2 := by
  intro clause hm
  obtain ⟨hm, hp⟩ := mem_fields.mp hm
  rcases mergeInto_hasConflicts.mp h with hsame | hnone
  · have hlike : Alike caller access := ⟨hc, ha, hsame⟩
    refine not_overruled_of_groups ha fun op children hg hnone => ?_
    rw [hlike.group?_none hnone] at hg
    cases hg
  · exact (merging_inForce_iff hc ha hm hp).mp (merging_inForce_of_nil hc ha hnone hm hp)

-- ---------------------------------------------------------------------------
-- The second merge
-- ---------------------------------------------------------------------------

/-- Where the first merge overruled nothing, a second one finds all of it. -/
theorem merging_twice (hc : caller.WellFormed) (ha : access.WellFormed)
    (h : ∀ clause ∈ access.fields, ¬Overruled caller access clause.1 clause.2) :
    (merging (merging caller access).query access).query = (merging caller access).query := by
  refine merging_of_absorbs (merging_wellFormed hc ha) ha ?_
  rintro ⟨key, node⟩ hm
  obtain hp | ⟨op, children, rfl, rfl⟩ := plain_or_group (ha.of_mem hm)
  · have hforce := (merging_inForce_iff hc ha hm hp).mpr (h _ (mem_fields.mpr ⟨hm, hp⟩))
    exact .plain hp (merging_top hc ha hm hp) hforce
  · exact merging_absorbs_group hc ha hm

theorem mergeInto_wellFormed (hc : caller.WellFormed) (ha : access.WellFormed) :
    (mergeInto (some caller) access).2.WellFormed := by
  rcases mergeInto_cases caller access with ⟨-, he⟩ | ⟨-, -, he⟩ | he <;> rw [he]
  · exact hc
  · exact hc
  · exact merging_wellFormed hc ha

theorem mergeInto_merging_same_iff (hc : caller.WellFormed) (ha : access.WellFormed) :
    (mergeInto (some (merging caller access).query) access).2.same
        (merging caller access).query = true ↔
      ∀ clause ∈ access.fields, ¬Overruled caller access clause.1 clause.2 := by
  have hq := merging_wellFormed hc ha
  constructor
  · intro hsame clause hm
    obtain ⟨hm, hp⟩ := mem_fields.mp hm
    -- In a second merge all groups meet groups, so that nothing is overruled.
    have hagain := (mergeInto_inForce_iff hq ha hm hp).mpr
      (not_overruled_of_groups ha fun op children => merging_group?_ne_none hc ha)
    rw [← merging_inForce_iff hc ha hm hp]
    exact hagain.of_same (mergeInto_wellFormed hq ha).keyed hq.keyed hsame
  · intro h
    rcases mergeInto_cases (merging caller access).query access with
      ⟨-, he⟩ | ⟨-, -, he⟩ | he <;> rw [he]
    · exact same_refl hq.distinct
    · exact same_refl hq.distinct
    · rw [merging_twice hc ha h]
      exact same_refl hq.distinct

theorem merging_agrees_childrenOf_iff (hc : caller.WellFormed) (ha : access.WellFormed)
    (hf : Logical.ofKey? field = none) :
    Agrees ((merging caller access).query.childrenOf op) field node ↔
      Agrees (caller.childrenOf op) field node ∧
        ((op = .or → caller.group? .or = none) → Agrees (access.childrenOf op) field node) := by
  rw [merging_agrees_iff hc ha hf]
  refine and_congr_right fun _ => ?_
  cases hg : access.group? op with
  | none =>
    rw [childrenOf_of_none hg]
    refine iff_of_true (fun children hm => ?_) fun _ => agrees_nil
    rw [(group?_eq_some_iff_mem ha.keyed).mpr hm] at hg
    cases hg
  | some own =>
    rw [childrenOf_of_group? hg]
    refine ⟨fun h => h own ((group?_eq_some_iff_mem ha.keyed).mp hg), fun h children hm => ?_⟩
    obtain rfl := Option.some.inj (((group?_eq_some_iff_mem ha.keyed).mpr hm).symm.trans hg)
    exact h

theorem childrenOf_of_merging_none (hc : caller.WellFormed) (ha : access.WellFormed)
    (h : (merging caller access).query.group? op = none) : access.childrenOf op = [] := by
  cases hg : access.group? op with
  | none => exact childrenOf_of_none hg
  | some children => exact absurd h (merging_group?_ne_none hc ha hg)

theorem Compatible.merging (hc : caller.WellFormed) (ha : access.WellFormed)
    (hcompatible : Compatible caller access) (h : Consistent caller access) :
    Compatible (Query.merging caller access).query access where
  top clause hm := by
    obtain ⟨hm, hp⟩ := mem_fields.mp hm
    exact merging_top hc ha hm hp
  grouped clause hm op := by
    obtain ⟨hmem, hp⟩ := mem_fields.mp hm
    rw [merging_agrees_childrenOf_iff hc ha (keyed_plain (ha.of_mem hmem).keyed hp)]
    exact ⟨hcompatible.grouped clause hm op, h clause hm op⟩
  crossed op field node hm hp hcontra := by
    obtain ⟨child, hchild, hg⟩ := mem_named.mp hm
    have hf := keyed_plain ((ha.childrenOf child hchild).keyed.of_get? hg) hp
    -- The clause is in the merged group, unless the alternatives met the caller's.
    have hkept : op = .or ∧ caller.group? .or ≠ none := by
      by_contra hjoins
      have hsaid := (merging_isIn_named hc ha hf).mpr
        (.inr ⟨fun hop => of_not_not fun hg => hjoins ⟨hop, hg⟩, isIn_of_mem_named ha.childrenOf hm⟩)
      rw [hcontra.2] at hsaid
      cases hsaid
    obtain ⟨rfl, hgroup⟩ := hkept
    rw [childrenOf, merging_group_or hc ha fun _ => hgroup] at hcontra
    exact hcompatible.crossed .or field node hm hp hcontra
  alternatives hlacks clause _ := by
    rw [childrenOf_of_merging_none hc ha hlacks]
    exact not_contradicts_nil

theorem undisputed_merging (hc : caller.WellFormed) (ha : access.WellFormed)
    (hcompatible : Compatible caller access) (h : Consistent caller access) :
    Undisputed (merging caller access).query access where
  toCompatible := hcompatible.merging hc ha h
  own clause hm op hjoins := by
    cases op with
    | and => exact h clause hm .and fun hop => absurd hop (by decide)
    | or =>
      rw [childrenOf_of_merging_none hc ha (hjoins rfl)]
      exact agrees_nil
  conjunction hlacks clause _ := by
    rw [childrenOf_of_merging_none hc ha hlacks]
    exact not_contradicts_nil

theorem merging_twice_nil_iff (hc : caller.WellFormed) (ha : access.WellFormed)
    (hnone : (merging caller access).conflicts = []) :
    (merging (merging caller access).query access).conflicts = [] ↔ Consistent caller access := by
  have hq := merging_wellFormed hc ha
  constructor
  · intro h clause hm op
    obtain ⟨hmem, hp⟩ := mem_fields.mp hm
    have hf := keyed_plain (ha.of_mem hmem).keyed hp
    have hagrees := (compatible_of_merging_nil hq ha h).grouped clause hm op
    exact ((merging_agrees_childrenOf_iff hc ha hf).mp hagrees).2
  · intro h
    have hcompatible := compatible_of_merging_nil hc ha hnone
    exact merging_nil_of_undisputed hq ha (undisputed_merging hc ha hcompatible h)

theorem consistent_of_same (hc : caller.WellFormed) (ha : access.WellFormed)
    (hnone : (merging caller access).conflicts = [])
    (hsame : (merging caller access).query.same caller = true) : Consistent caller access := by
  intro clause hm op
  obtain ⟨hmem, hp⟩ := mem_fields.mp hm
  have hlike : Alike (merging caller access).query caller := ⟨merging_wellFormed hc ha, hc, hsame⟩
  have hagrees := (compatible_of_merging_nil hc ha hnone).grouped clause hm op
  rw [← hlike.agrees, merging_agrees_childrenOf_iff hc ha
    (keyed_plain (ha.of_mem hmem).keyed hp)] at hagrees
  exact hagrees.2

theorem mergeInto_eq_unchanged_iff : (mergeInto (some q) access).1 = .unchanged ↔
    q.same access = true ∨
      (merging q access).conflicts = [] ∧ (merging q access).query.same q = true := by
  rcases mergeInto_cases q access with ⟨hsame, he⟩ | ⟨hnone, hlike, he⟩ | he
  · rw [he]
    exact iff_of_true rfl (.inl hsame)
  · rw [he]
    exact iff_of_true rfl (.inr ⟨hnone, hlike⟩)
  · rw [he]
    refine iff_of_false nofun ?_
    rintro (hsame | ⟨hnone, hlike⟩)
    · rw [mergeInto, if_pos hsame] at he
      cases he
    · simp only [mergeInto, hnone, hlike] at he
      split at he <;> cases he

theorem mergeInto_again_same_iff (hc : caller.WellFormed) (ha : access.WellFormed) :
    (mergeInto (some (mergeInto (some caller) access).2) access).2.same
        (mergeInto (some caller) access).2 = true ↔
      ∀ clause ∈ access.fields, ¬Overruled caller access clause.1 clause.2 := by
  have hkept : (mergeInto (some caller) access).1.hasConflicts = false →
      ∀ clause ∈ access.fields, ¬Overruled caller access clause.1 clause.2 :=
    not_overruled_of_hasConflicts_eq_false hc ha
  have hrefl := same_refl hc.distinct
  rcases mergeInto_cases caller access with ⟨-, he⟩ | ⟨-, -, he⟩ | he <;> simp only [he] at hkept ⊢
  · exact iff_of_true hrefl (hkept rfl)
  · exact iff_of_true hrefl (hkept rfl)
  · exact mergeInto_merging_same_iff hc ha

theorem mergeInto_again_unchanged_iff (hc : caller.WellFormed) (ha : access.WellFormed)
    (hnone : (mergeInto (some caller) access).1.hasConflicts = false) :
    (mergeInto (some (mergeInto (some caller) access).2) access).1 = .unchanged ↔
      (mergeInto (some caller) access).2.same access = true ∨ Consistent caller access := by
  rcases mergeInto_cases caller access with ⟨hsame, he⟩ | ⟨hempty, hlike, he⟩ | he
  · simp [he, hsame]
  · simp [he, consistent_of_same hc ha hempty hlike]
  · have htwice := merging_twice hc ha (not_overruled_of_hasConflicts_eq_false hc ha hnone)
    have hempty : (merging caller access).conflicts = [] := by
      rw [he] at hnone
      simpa [MergeOutcome.hasConflicts, MergeOutcome.conflicts] using hnone
    have hlike := same_refl (merging_wellFormed hc ha).distinct
    simp only [he]
    rw [mergeInto_eq_unchanged_iff, htwice, and_iff_left hlike, merging_twice_nil_iff hc ha hempty]

end

end Query

/-- A second merge succeeds. It leaves the query as the first left it exactly if
the first overruled no clause of the access-control query, which it never does
without conflicts. After a merge without conflicts it finds nothing to do
exactly if the merged query is the same as the access-control query, or that is
consistent. -/
theorem RequestContext.merge_again_iff {ctx after : RequestContext} {outcome : MergeOutcome}
    (ha : ∀ access ∈ ctx.accessQuery, access.WellFormed)
    (hc : ∀ caller ∈ ctx.query, caller.WellFormed) (h : ctx.merge = .ok (outcome, after)) :
    ∃ outcome' again, after.merge = .ok (outcome', again) ∧
      (Option.Rel (fun a b => a.same b = true) again.query after.query ↔
        ∀ access ∈ ctx.accessQuery, ∀ caller ∈ ctx.query, ∀ clause ∈ access.fields,
          ¬Overruled caller access clause.1 clause.2) ∧
      (outcome.hasConflicts = false →
        Option.Rel (fun a b => a.same b = true) again.query after.query ∧
        (outcome' = .unchanged ↔ ∀ access ∈ ctx.accessQuery, ∀ caller ∈ ctx.query,
          (∃ merged ∈ after.query, merged.same access = true) ∨ Consistent caller access)) := by
  cases haccess : ctx.accessQuery with
  | none =>
    have hmerge : ctx.merge = .ok (.unchanged, ctx) := by simp only [merge, haccess]
    rw [hmerge] at h
    cases h
    have hrefl : Option.Rel (fun a b => Query.same a b = true) ctx.query ctx.query := by
      cases hcaller : ctx.query with
      | none => exact .none
      | some caller => exact .some (same_refl (hc caller hcaller).distinct)
    exact ⟨_, _, hmerge, by simp [hrefl], fun _ => ⟨hrefl, by simp⟩⟩
  | some access =>
    have ha : access.WellFormed := ha access haccess
    have hagain : after.merge = .ok ((mergeInto after.query access).1,
        { after with query := some (mergeInto after.query access).2 }) := by
      simp only [merge, haccess] at h
      split at h
      · cases h
      · next hnone =>
        cases h
        simp only [merge, hnone]
    obtain ⟨rfl, hafter⟩ := RequestContext.merge_eq_ok haccess h
    rw [hafter] at hagain ⊢
    refine ⟨_, _, hagain, ?_⟩
    simp only [Option.rel_some_some]
    cases hcaller : ctx.query with
    | none =>
      have hsame := same_refl ha.distinct
      simp [mergeInto, hsame]
    | some caller =>
      have hc := hc caller hcaller
      have hsame := mergeInto_again_same_iff hc ha
      refine ⟨by simpa using hsame, fun hnone => ?_⟩
      rw [hsame, mergeInto_again_unchanged_iff hc ha hnone]
      exact ⟨not_overruled_of_hasConflicts_eq_false hc ha hnone, by simp⟩

theorem RequestContext.merge_again_disjoint :
    ∃ outcome after again, (RequestContext.ofQueries
        ((ofField "status" .null).insertGroup .or [ofField "owner" .null, ofField "public" .null])
        (ofField "team" .null)).merge = .ok (outcome, after) ∧ outcome.hasConflicts = false ∧
      after.merge = .ok (.unchanged, again) ∧
      Option.Rel (fun a b => a.same b = true) again.query after.query := by
  have hstatus : (ofField "status" .null).WellFormed := wellFormed_ofField rfl (by trivial)
  have howner : (ofField "owner" .null).WellFormed := wellFormed_ofField rfl (by trivial)
  have hpublic : (ofField "public" .null).WellFormed := wellFormed_ofField rfl (by trivial)
  have hmerge : (RequestContext.ofQueries
      ((ofField "status" .null).insertGroup .or [ofField "owner" .null, ofField "public" .null])
      (ofField "team" .null)).merge = .ok (.merged [], RequestContext.ofQueries
        ((ofField "status" .null).insertGroup .or [ofField "owner" .null, ofField "public" .null])
        (((ofField "team" .null).put "status" (.literal .null)).insertGroup .or
          [ofField "owner" .null, ofField "public" .null])) := by
    cbv
  obtain ⟨outcome, again, hagain, -, hsilent⟩ := RequestContext.merge_again_iff
    (by rintro access ⟨⟩; exact hstatus.insertGroup (by simp [howner, hpublic]))
    (by rintro caller ⟨⟩; exact wellFormed_ofField rfl (by trivial)) hmerge
  obtain ⟨hsame, hunchanged⟩ := hsilent rfl
  have houtcome : outcome = .unchanged := by
    refine hunchanged.mpr ?_
    rintro access ⟨⟩ caller ⟨⟩
    refine .inr fun clause hm op _ own hown => ?_
    obtain rfl : clause = ("status", Node.literal .null) := List.mem_singleton.mp hm
    cases op <;> cases hown
  exact ⟨_, _, again, hmerge, rfl, houtcome ▸ hagain, hsame⟩

/-- What a first merge overruled a second one puts back. And of what a first
merge put into a conjunction without a word, a second one reports what the
access-control query says otherwise at its top level. -/
theorem RequestContext.merge_again_differs :
    (∃ outcome after outcome' again first second, (RequestContext.ofQueries
        ((ofField "status" (.string "x")).insertGroup .and [ofField "status" (.string "y")])
        empty).merge = .ok (outcome, after) ∧ after.merge = .ok (outcome', again) ∧
      after.query = some first ∧ again.query = some second ∧ second.same first = false) ∧
    ∃ after again, (RequestContext.ofQueries
        ((ofField "status" (.string "active")).insertGroup .and [ofField "status" (.string "closed")])
        (empty.insertGroup .and [ofField "team" .null])).merge = .ok (.merged [], after) ∧
      after.merge = .ok (.merged [⟨"status", .logical .and, .literal (.string "closed"),
        .literal (.string "active"), false⟩], again) :=
  ⟨⟨_, _, _, _, empty.insertGroup .and [ofField "status" (.string "y")],
    (empty.insertGroup .and [ofField "status" (.string "y")]).put "status" (.literal (.string "x")),
    by cbv, by cbv, by cbv, by cbv, by cbv⟩, _, _, by cbv, by cbv⟩

end QueryGuard
