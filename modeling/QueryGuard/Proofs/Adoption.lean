import QueryGuard.Proofs.Attribution

/-!
# Merging into an empty query

A caller who asks for everything is given the access-control query as it stands,
as long as its clauses say nothing against one another. They are compared as
though the earlier ones were the caller's: `merge_into_empty_iff` says for which
queries that comes to nothing.
-/

namespace QueryGuard

open Query

namespace Query

/-- Merged one after the other, the clauses leave one another alone: no group
contradicts a plain clause before it, and no group has a clause unlike a plain
one after it, nor a conjunction one that is like it. -/
structure Harmonious (access : Query) : Prop where
  above : ∀ earlier op children later,
    access.clauses = earlier ++ (op.key, .group op children) :: later →
      ∀ clause ∈ earlier, clause.2.isGroup = false → ¬Contradicts children clause.1 clause.2
  below : ∀ earlier field node later, access.clauses = earlier ++ (field, node) :: later →
    node.isGroup = false → ∀ op children, (op.key, .group op children) ∈ earlier →
      Agrees children field node ∧ (op = .and → named children field = [])

section
variable {access q : Query} {clauses earlier later : List (String × Node)} {key field : String}
  {node own : Node} {op : Logical} {children : List Query}

-- ---------------------------------------------------------------------------
-- Nothing of the caller's
-- ---------------------------------------------------------------------------

theorem lacks_empty : Lacks empty earlier op :=
  ⟨by cases op <;> rfl, fun _ _ _ h => by cases h⟩

theorem eq_empty_of_length (h : q.clauses.length = 0) : q = empty := by
  obtain ⟨clauses⟩ := q
  exact congrArg Query.mk (List.eq_nil_of_length_eq_zero h)

theorem mergeInto_empty (access : Query) :
    (mergeInto (some empty) access).1.conflicts = (merging empty access).conflicts ∧
      (mergeInto (some empty) access).2 = (merging empty access).query := by
  rcases mergeInto_cases empty access with ⟨hsame, he⟩ | ⟨hnone, hlike, he⟩ | he
  · rw [he, eq_empty_of_length (same_iff.mp hsame).1.symm]
    exact ⟨rfl, rfl⟩
  · rw [he, hnone, eq_empty_of_length (same_iff.mp hlike).1]
    exact ⟨rfl, rfl⟩
  · rw [he]
    exact ⟨rfl, rfl⟩

-- ---------------------------------------------------------------------------
-- Clauses in harmony
-- ---------------------------------------------------------------------------

theorem Harmonious.init (h : Harmonious ⟨clauses ++ [(key, node)]⟩) : Harmonious ⟨clauses⟩ where
  above earlier op children later he :=
    h.above earlier op children (later ++ [(key, node)]) (by simp [show clauses = _ from he])
  below earlier field own later he :=
    h.below earlier field own (later ++ [(key, node)]) (by simp [show clauses = _ from he])

theorem mergeField_added (hq : q.Keyed) (hp : node.isGroup = false) (hnew : key ∉ q.keys)
    (h : ∀ op children, (op.key, .group op children) ∈ q.clauses →
      Agrees children key node ∧ (op = .and → named children key = [])) :
    mergeField key node ⟨q, []⟩ = ⟨⟨q.clauses ++ [(key, node)]⟩, []⟩ := by
  have hfound : ∀ hit ∈ q.findInGroups key, hit.2.same node = true ∧ hit.1 ≠ .and := by
    intro hit hm
    obtain ⟨children, hgroup, hn⟩ := mem_findInGroups_iff.mp hm
    obtain ⟨hagrees, hunsaid⟩ := h hit.1 children ((group?_eq_some_iff_mem hq).mp hgroup)
    refine ⟨hagrees hit.2 hn, fun hop => ?_⟩
    rw [hunsaid hop] at hn
    cases hn
  have habsent : q.get? key = none := Members.get?_eq_none_iff.mpr hnew
  have himplied :
      ((q.findInGroups key).any fun hit => hit.2.same node && hit.1 == .and) = false := by
    simpa using fun op own hm _ => (hfound (op, own) hm).2
  have hdiffering : ((q.findInGroups key).filter fun hit => !hit.2.same node) = [] := by
    simpa using fun op own hm => (hfound (op, own) hm).1
  simp only [mergeField, habsent, himplied, hdiffering, List.map_nil, List.append_nil,
    Bool.false_eq_true, ↓reduceIte, insert_plain hp]
  rw [put_of_new hnew]

theorem prioritise_added (hnew : op.key ∉ q.keys)
    (h : ∀ clause ∈ q.clauses, clause.2.isGroup = false →
      ¬Contradicts children clause.1 clause.2) :
    prioritise op children ⟨q, []⟩ = ⟨⟨q.clauses ++ [(op.key, .group op children)]⟩, []⟩ := by
  have hfound :
      (q.fields.filterMap fun clause => overriddenBy? children clause.1 clause.2) = [] := by
    refine List.filterMap_eq_nil_iff.mpr fun clause hm => Option.eq_none_iff_forall_ne_some.mpr ?_
    intro c hc
    obtain ⟨hm, hp⟩ := mem_fields.mp hm
    exact h clause hm hp (overriddenBy?_eq_some_iff.mp hc).1
  simp only [prioritise, hfound, List.foldl_nil, List.append_nil, insertGroup, put_of_new hnew]

theorem Harmonious.merging (h : Harmonious access) (ha : access.WellFormed) :
    Query.merging empty access = ⟨access, []⟩ := by
  induction ha using WellFormed.induct with
  | nil => rfl
  | append clauses key node ha hn hnew ih =>
    rw [merging_append, ih h.init]
    obtain hp | ⟨op, children, rfl, rfl⟩ := plain_or_group hn
    · rw [mergeClause_plain hp]
      exact mergeField_added ha.keyed hp hnew (h.below clauses key node [] rfl hp)
    · have hnone : Query.group? ⟨clauses⟩ op = none :=
        (group?_eq_none_iff ha.keyed).mpr (Members.get?_eq_none_iff.mpr hnew)
      simp only [mergeClause, hnone]
      exact prioritise_added hnew (h.above clauses op children [] rfl)

theorem not_says_of_same (ha : access.WellFormed)
    (hsame : (Query.merging empty access).query.same access = true)
    (he : access.clauses = earlier ++ (field, node) :: later) (hp : node.isGroup = false) :
    ¬Says ⟨earlier⟩ field node := by
  obtain ⟨clauses⟩ := access
  obtain rfl : clauses = earlier ++ (field, node) :: later := he
  have hback := same_symm (merging_wellFormed wellFormed_empty ha).distinct ha.distinct hsame
  obtain ⟨own, hown, -⟩ := get?_of_same hback (get?_of_mem ha.keyed (by simp : (field, node) ∈ _))
  rcases (stored_of_get? wellFormed_empty ha hp (fun _ h => by cases h) hown).2 with
    ⟨held, hheld, -⟩ | ⟨-, hunsaid⟩
  · cases hheld
  · exact hunsaid

theorem harmonious_of_merging (ha : access.WellFormed)
    (hnone : (Query.merging empty access).conflicts = [])
    (hsame : (Query.merging empty access).query.same access = true) : Harmonious access := by
  have hunopposed := (merging_eq_nil_iff wellFormed_empty ha).mp hnone
  constructor
  · intro earlier op children later he clause hm hp
    obtain ⟨before, after, rfl⟩ := List.append_of_mem hm
    refine (hunopposed _ _ _ he).2 lacks_empty _ _ hp (.inr ⟨rfl, before, after, rfl, ?_, ?_⟩)
    · exact not_says_of_none rfl
    · exact not_says_of_same ha hsame (he.trans (List.append_assoc ..)) hp
  · intro earlier field node later he hp op children hm
    have hagrees := ((unopposed_plain hp).mp (hunopposed _ _ _ he)).2.2 op children hm fun _ => rfl
    refine ⟨hagrees, ?_⟩
    rintro rfl
    by_contra hne
    obtain ⟨hearlier, -⟩ := ha.of_split he
    have hd := (ha.of_mem (by simp [he] : (field, node) ∈ _)).distinct
    exact not_says_of_same ha hsame he hp (says_of_agrees hearlier hd hm hne hagrees)

/-- Clauses in harmony whatever their order: the plain ones agree with the groups,
and the conjunction says nothing of their fields. -/
theorem Consistent.harmonious (ha : access.WellFormed) (h : Consistent empty access)
    (hand : ∀ clause ∈ access.fields, named (access.childrenOf .and) clause.1 = []) :
    Harmonious access := by
  have hagrees : ∀ {field node op children}, (field, node) ∈ access.clauses →
      node.isGroup = false → (op.key, Node.group op children) ∈ access.clauses →
      Agrees children field node ∧ (op = .and → named children field = []) := by
    intro field node op children hm hp hg
    have hfield := mem_fields.mpr ⟨hm, hp⟩
    rw [← childrenOf_of_mem ha.keyed hg]
    refine ⟨h _ hfield op fun _ => rfl, ?_⟩
    rintro rfl
    exact hand _ hfield
  constructor
  · intro earlier op children later he clause hm hp
    have hg : (op.key, Node.group op children) ∈ access.clauses := by simp [he]
    have hm : clause ∈ access.clauses := by simp [he, hm]
    have hchildren := ha.child ((group?_eq_some_iff_mem ha.keyed).mpr hg)
    exact (hagrees hm hp hg).1.not_contradicts hchildren (ha.of_mem hm).distinct
  · intro earlier field node later he hp op children hg
    exact hagrees (by simp [he]) hp (by simp [he, hg])

end

end Query

/-- Merging into an empty query succeeds. It leaves the access-control query and
reports nothing exactly if the clauses of that query are in harmony. -/
theorem RequestContext.merge_into_empty_iff {ctx : RequestContext} {access : Query}
    (ha : access.WellFormed) (haccess : ctx.accessQuery = some access)
    (hcaller : ctx.query = some empty)
    (harray : ∀ clause ∈ access.fields, ∀ items, clause.2 ≠ .literal (.array items)) :
    ∃ outcome after merged, ctx.merge = .ok (outcome, after) ∧ after.query = some merged ∧
      (outcome.conflicts = [] ∧ merged.same access = true ↔ Harmonious access) ∧
      (Harmonious access → merged = access) := by
  have harray : access.arrayClause? = none := by
    refine List.findSome?_eq_none_iff.mpr fun clause hm => ?_
    split
    · next items hnode => exact absurd hnode (harray clause hm items)
    · rfl
  have hmerge : ctx.merge = .ok ((mergeInto ctx.query access).1,
      { ctx with query := some (mergeInto ctx.query access).2 }) := by
    simp only [merge, haccess, harray]
  obtain ⟨hconflicts, hquery⟩ := mergeInto_empty access
  refine ⟨_, _, _, hmerge, rfl, ?_⟩
  rw [hcaller, hconflicts, hquery]
  refine ⟨⟨fun h => harmonious_of_merging ha h.1 h.2, fun h => ?_⟩, fun h => ?_⟩
  · rw [h.merging ha]
    exact ⟨rfl, same_refl ha.distinct⟩
  · rw [h.merging ha]

theorem RequestContext.merge_into_empty_agreed :
    ∃ outcome after merged, (RequestContext.ofQueries
        ((ofField "status" .null).insertGroup .or [ofField "status" .null, ofField "team" .null])
        empty).merge = .ok (outcome, after) ∧ after.query = some merged ∧
      outcome.conflicts = [] ∧ merged =
        (ofField "status" .null).insertGroup .or
          [ofField "status" .null, ofField "team" .null] := by
  have hstatus : (ofField "status" .null).WellFormed := wellFormed_ofField rfl (by trivial)
  have hteam : (ofField "team" .null).WellFormed := wellFormed_ofField rfl (by trivial)
  have haccess : ((ofField "status" .null).insertGroup .or
      [ofField "status" .null, ofField "team" .null]).WellFormed :=
    hstatus.insertGroup (by simp [hstatus, hteam])
  have hfield : ∀ clause ∈ ((ofField "status" .null).insertGroup .or
      [ofField "status" .null, ofField "team" .null]).fields,
      clause = ("status", Node.literal .null) := fun clause hm => List.mem_singleton.mp hm
  obtain ⟨outcome, after, merged, hmerge, hquery, hiff, hadopts⟩ :=
    RequestContext.merge_into_empty_iff haccess
      (rfl : (RequestContext.ofQueries _ empty).accessQuery = _) rfl
      fun clause hm items => hfield clause hm ▸ nofun
  have hconsistent : Consistent empty ((ofField "status" .null).insertGroup .or
      [ofField "status" .null, ofField "team" .null]) := by
    intro clause hm op _ own hown
    rw [hfield clause hm] at hown ⊢
    cases op with
    | and => cases hown
    | or =>
      have hnamed : own ∈ [Node.literal .null] := hown
      rw [List.mem_singleton.mp hnamed]
      cbv
  have hharmony := hconsistent.harmonious haccess fun clause hm => by
    rw [hfield clause hm]
    rfl
  exact ⟨outcome, after, merged, hmerge, hquery, (hiff.mpr hharmony).1, hadopts hharmony⟩

/-- An access-control query that is merged into nothing removes a clause of its
own that its alternatives contradict, and reports it. And it leaves out, without
a word, one that its conjunction says already. -/
theorem RequestContext.merge_into_empty_differs :
    (∃ after merged, (RequestContext.ofQueries
        ((ofField "status" (.string "x")).insertGroup .or
          [ofField "status" (.string "y"), ofField "status" (.string "z")]) empty).merge =
        .ok (.merged [⟨"status", .topLevel, .literal (.string "x"), .literal (.string "y"), true⟩],
          after) ∧ after.query = some merged ∧
      merged.same ((ofField "status" (.string "x")).insertGroup .or
        [ofField "status" (.string "y"), ofField "status" (.string "z")]) = false) ∧
    ∃ after merged, (RequestContext.ofQueries
        ((empty.insertGroup .and [ofField "status" .null]).put "status" (.literal .null))
        empty).merge = .ok (.merged [], after) ∧ after.query = some merged ∧
      merged.same ((empty.insertGroup .and [ofField "status" .null]).put "status"
        (.literal .null)) = false :=
  ⟨⟨_, alternatives [ofField "status" (.string "y"), ofField "status" (.string "z")],
    by cbv, by cbv, by cbv⟩, _, empty.insertGroup .and [ofField "status" .null],
    by cbv, by cbv, by cbv⟩

end QueryGuard
