import Mathlib
import QueryGuard.Proofs.Merge
import QueryGuard.Proofs.Satisfaction
import QueryGuard.Request.Context

/-!
# What a merged query lets through

A merge never loses a document that satisfies both queries, and without
conflicts it lets no document through that the caller's query does not. Nor
does it let one through that the access-control query does not, except where
alternatives of the access-control query are taken for said although the caller
has others besides.
-/

namespace QueryGuard

open Query

namespace Query

/-- Alternatives of an access-control query that a query counts as said. -/
def CountsAsSaid (q : Query) (node : Node) : Prop :=
  ∃ own others, node = .group .or others ∧ q.group? .or = some own ∧ Covers own others

-- ---------------------------------------------------------------------------
-- Look-ups across a step
-- ---------------------------------------------------------------------------

theorem group?_congr {a b : Query} {op : Logical} (h : a.get? op.key = b.get? op.key) :
    a.group? op = b.group? op := by
  simp [group?, h]

section
variable {q result : Query} {found : List Conflict} {key : String} {node : Node}

theorem alternatives_get? (children : List Query) (key : String) :
    (alternatives children).get? key =
      if key = Logical.or.key then some (.group .or children) else none := by
  rw [alternatives, insertGroup, get?_put]
  rfl

theorem MergeStep.group_or (h : MergeStep q found key node result) (hq : q.Keyed)
    (hr : result.Keyed) (hn : node.Keyed key) (hk : key = Logical.or.key → q.group? .or ≠ none) :
    result.group? .or = q.group? .or := by
  cases h with
  | agreed | implied | covered => rfl
  | added plain | replaced plain =>
    exact group?_congr (by rw [get?_put, if_neg (key_ne_of_plain hn plain .or).symm])
  | @installed op children _ lacks _ rest _ =>
    cases op with
    | or => exact absurd lacks (hk rfl)
    | and =>
      apply Option.ext
      intro others
      rw [group?_eq_some_iff hr, group?_eq_some_iff hq, rest _ _ (by decide)]
      simp [Node.isGroup]
  | extended _ grown | conjoined _ _ grown => exact group?_congr (grown.rest _ (by decide))

-- ---------------------------------------------------------------------------
-- Satisfaction across a step
-- ---------------------------------------------------------------------------

variable {meets : String → Node → Prop}

theorem satisfied_group {op : Logical} {children : List Query} (hq : q.Keyed)
    (hs : q.Satisfied meets) (hg : q.group? op = some children) :
    (Node.group op children).Satisfied meets op.key :=
  (satisfied_iff_get? hq).mp hs _ _ ((group?_eq_some_iff hq).mp hg)

theorem satisfied_alternatives {children : List Query} (hc : ∀ child ∈ children, child.Keyed) :
    (alternatives children).Satisfied meets ↔ ∃ child ∈ children, child.Satisfied meets := by
  rw [satisfied_iff_get? (keyed_alternatives hc)]
  constructor
  · intro h
    exact Node.satisfied_or.mp (h Logical.or.key _ (by rw [alternatives_get?, if_pos rfl]))
  · intro h key node hg
    rw [alternatives_get?] at hg
    split at hg
    · cases hg
      exact Node.satisfied_or.mpr h
    · cases hg

theorem satisfied_ofField {field : String} {value : Json} :
    (ofField field value).Satisfied meets ↔ meets field (.literal value) := by
  simp [ofField, Query.put, Members.put, empty, Satisfied, SatisfiedClauses, Node.Satisfied]

theorem Conjoined.satisfied_iff {children : List Query} (h : Conjoined q result children)
    (hq : q.Keyed) (hr : result.Keyed) :
    result.Satisfied meets ↔ q.Satisfied meets ∧ ∀ child ∈ children, child.Satisfied meets := by
  rw [satisfied_iff_get? hq, satisfied_iff_get? hr]
  constructor
  · intro hs
    have hchildren := Node.satisfied_and.mp (hs _ _ h.stored)
    refine ⟨fun key node hg => ?_, hchildren⟩
    by_cases hk : key = Logical.and.key
    · subst hk
      cases hg' : q.group? .and with
      | none => rw [(group?_eq_none_iff hq).mp hg'] at hg; cases hg
      | some existing =>
        rw [(group?_eq_some_iff hq).mp hg'] at hg
        cases hg
        refine Node.satisfied_and.mpr fun child hc => hchildren child ?_
        exact h.kept child (by simpa [hg'] using hc)
    · exact hs key node ((h.rest key hk).trans hg)
  · rintro ⟨hs, hchildren⟩ key node hg
    by_cases hk : key = Logical.and.key
    · subst hk
      rw [h.stored] at hg
      cases hg
      exact Node.satisfied_and.mpr hchildren
    · exact hs key node ((h.rest key hk).symm.trans hg)

theorem MergeStep.satisfied (h : MergeStep q found key node result) (hq : q.Keyed)
    (hr : result.Keyed) (hn : node.Keyed key) (hs : q.Satisfied meets)
    (hnode : node.Satisfied meets key ∨ q.CountsAsSaid node) : result.Satisfied meets := by
  cases h with
  | agreed | implied | covered => exact hs
  | added plain | replaced plain =>
    have hnode : node.Satisfied meets key := by
      rcases hnode with hnode | ⟨own, others, rfl, -⟩
      · exact hnode
      · simp [Node.isGroup] at plain
    rw [satisfied_iff_get? hr]
    intro other own hg
    rw [get?_put] at hg
    split at hg
    · next he => cases hg; exact he ▸ hnode
    · exact (satisfied_iff_get? hq).mp hs other own hg
  | @installed op children _ lacks stored rest _ =>
    rw [satisfied_iff_get? hr]
    intro other own hg
    by_cases ho : other = op.key
    · subst ho
      rw [stored] at hg
      cases hg
      rcases hnode with hnode | ⟨own, others, he, hgroup, -⟩
      · exact hnode
      · cases he
        rw [lacks] at hgroup
        cases hgroup
    · exact (satisfied_iff_get? hq).mp hs other own ((rest other own ho).mp hg).1
  | @extended children existing additions _ group grown asked =>
    refine (grown.satisfied_iff hq hr).mpr ⟨hs, fun child hc => ?_⟩
    rcases List.mem_append.mp hc with hc | hc
    · exact Node.satisfied_and.mp (satisfied_group hq hs group) child hc
    · rcases hnode with hnode | ⟨own, others, he, -⟩
      · exact Node.satisfied_and.mp hnode child (asked child hc)
      · cases he
  | @conjoined own others children _ group uncovered grown told asked =>
    refine (grown.satisfied_iff hq hr).mpr ⟨hs, fun child hc => ?_⟩
    rcases asked child hc with hc | rfl
    · cases hg : q.group? .and with
      | none => simp [hg] at hc
      | some existing =>
        exact Node.satisfied_and.mp (satisfied_group hq hs hg) child (by simpa [hg] using hc)
    -- Alternatives that count as said would not have been conjoined.
    · rcases hnode with hnode | ⟨own', others', he, hgroup, hcovers⟩
      · rw [satisfied_alternatives (keyed_group.mp hn).2]
        exact Node.satisfied_or.mp hnode
      · cases he
        obtain rfl := Option.some.inj (group.symm.trans hgroup)
        exact absurd hcovers uncovered

theorem MergeStep.keeps (h : MergeStep q [] key node result) (hq : q.Keyed) (hr : result.Keyed)
    (hs : result.Satisfied meets) : q.Satisfied meets := by
  cases h with
  | agreed | implied | covered => exact hs
  | replaced plain held reported => exact absurd rfl reported
  | added plain absent =>
    rw [satisfied_iff_get? hq]
    intro other own hg
    refine (satisfied_iff_get? hr).mp hs other own ?_
    rw [get?_put, if_neg]
    · exact hg
    · rintro rfl
      rw [absent] at hg
      cases hg
  | @installed op children _ lacks stored rest silent =>
    rw [satisfied_iff_get? hq]
    intro other own hg
    have ho : other ≠ op.key := by
      rintro rfl
      rw [(group?_eq_none_iff hq).mp lacks] at hg
      cases hg
    refine (satisfied_iff_get? hr).mp hs other own ((rest other own ho).mpr ⟨hg, ?_⟩)
    exact fun hc => silent rfl other own hg hc.1 hc.2
  | extended group grown => exact ((grown.satisfied_iff hq hr).mp hs).1
  | conjoined group uncovered grown => exact ((grown.satisfied_iff hq hr).mp hs).1

theorem satisfied_of_isImplied {existing : List Query} {child : Query} (ht : TreatsAlike meets)
    (he : ∀ own ∈ existing, own.WellFormed) (hc : child.WellFormed)
    (h : isImplied (existing.flatMap fields) child = true)
    (hs : ∀ own ∈ existing, own.Satisfied meets) : child.Satisfied meets := by
  rw [satisfied_iff]
  intro clause hclause
  obtain ⟨own, ho, held, hm, hlike⟩ := exists_of_isImplied h hclause
  rw [Node.satisfied_same ht (hc.of_mem hclause).distinct ((he own ho).of_mem hm).distinct hlike]
  exact satisfied_iff.mp (hs own ho) _ hm

theorem satisfied_of_isIn {existing : List Query} {child : Query} (ht : TreatsAlike meets)
    (he : ∀ own ∈ existing, own.WellFormed) (hc : child.WellFormed)
    (h : child.isIn existing = true) (hs : ∀ own ∈ existing, own.Satisfied meets) :
    child.Satisfied meets := by
  obtain ⟨own, ho, hlike⟩ := List.any_eq_true.mp h
  exact (satisfied_same ht hc.distinct (he own ho).distinct hlike).mpr (hs own ho)

/-- What a step leaves implies the clause, unless it was counted as said. -/
theorem MergeStep.enforces (h : MergeStep q found key node result) (ht : TreatsAlike meets)
    (hq : q.WellFormed) (hr : result.WellFormed) (hn : node.WellFormed key)
    (hs : result.Satisfied meets) : node.Satisfied meets key ∨ q.CountsAsSaid node := by
  have hget := (satisfied_iff_get? hr.keyed).mp hs
  cases h with
  | agreed plain held like =>
    have ho := (hq.of_mem (mem_of_get? held)).distinct
    exact .inl ((Node.satisfied_same ht ho hn.distinct like).mp (hget _ _ held))
  | implied plain absent group mem held like =>
    have hchild := hq.child group _ mem
    have ho := (hchild.of_mem (mem_of_get? held)).distinct
    have hs := Node.satisfied_and.mp (satisfied_group hq.keyed hs group) _ mem
    have hs := (satisfied_iff_get? hchild.keyed).mp hs _ _ held
    exact .inl ((Node.satisfied_same ht ho hn.distinct like).mp hs)
  | added | replaced => exact .inl (hget _ _ get?_put_self)
  | installed lacks stored => exact .inl (hget _ _ stored)
  | @extended children existing additions _ group grown asked told =>
    have hall := ((grown.satisfied_iff hq.keyed hr.keyed).mp hs).2
    have hexisting : ∀ own ∈ existing, own.Satisfied meets :=
      fun own ho => hall own (List.mem_append_left _ ho)
    have hown := hq.child group
    refine .inl (Node.satisfied_and.mpr fun child hc => ?_)
    have hchild := (wellFormed_group.mp hn).2 child hc
    rcases told child hc with hin | himplied | hadded
    · exact satisfied_of_isIn ht hown hchild hin hexisting
    · exact satisfied_of_isImplied ht hown hchild himplied hexisting
    · exact hall child (List.mem_append_right _ hadded)
  | covered group covers => exact .inr ⟨_, _, rfl, group, covers⟩
  | @conjoined own others children _ group uncovered grown told =>
    have hall := ((grown.satisfied_iff hq.keyed hr.keyed).mp hs).2
    have hothers := (wellFormed_group.mp hn).2
    have halt : (alternatives others).WellFormed := wellFormed_empty.insertGroup hothers
    have hchildren := hr.child ((group?_eq_some_iff hr.keyed).mpr grown.stored)
    rw [Node.satisfied_or, ← satisfied_alternatives fun child hc => (hothers child hc).keyed]
    refine .inl ?_
    rcases told with hm | hin
    · exact hall _ hm
    · exact satisfied_of_isIn ht hchildren halt hin hall

end

-- ---------------------------------------------------------------------------
-- Satisfaction across a run
-- ---------------------------------------------------------------------------

section
variable {caller access : Query} {meets : String → Node → Prop}

theorem merging_step {clauses : List (String × Node)} {key : String} {node : Node}
    (hc : caller.WellFormed) (ha : (⟨clauses⟩ : Query).WellFormed) (hn : node.WellFormed key) :
    ∃ found, (merging caller ⟨clauses ++ [(key, node)]⟩).conflicts =
        (merging caller ⟨clauses⟩).conflicts ++ found ∧
      MergeStep (merging caller ⟨clauses⟩).query found key node
        (merging caller ⟨clauses ++ [(key, node)]⟩).query ∧
      (merging caller ⟨clauses⟩).query.WellFormed ∧
      (merging caller ⟨clauses ++ [(key, node)]⟩).query.WellFormed := by
  have hq := merging_wellFormed hc ha
  rw [merging_append]
  obtain ⟨found, hconflicts, hstep⟩ := mergeClause_step hq.keyed hn.keyed
  exact ⟨found, hconflicts, hstep, hq, mergeClause_wellFormed hq hn⟩

theorem merging_group_or (hc : caller.WellFormed) (ha : access.WellFormed)
    (h : Logical.or.key ∈ access.keys → caller.group? .or ≠ none) :
    (merging caller access).query.group? .or = caller.group? .or := by
  induction ha using WellFormed.induct with
  | nil => rfl
  | append clauses key node ha hn hnew ih =>
    obtain ⟨found, -, hstep, hq, hr⟩ := merging_step hc ha hn
    have hkeys : Query.keys ⟨clauses ++ [(key, node)]⟩ = Query.keys ⟨clauses⟩ ++ [key] := by
      simp [keys, Members.names]
    rw [hkeys] at h
    have ih := ih fun hm => h (List.mem_append_left _ hm)
    rw [hstep.group_or hq.keyed hr.keyed hn.keyed, ih]
    rintro rfl
    rw [ih]
    exact h (by simp)

theorem merging_satisfied (hc : caller.WellFormed) (ha : access.WellFormed)
    (hs : caller.Satisfied meets)
    (h : ∀ clause ∈ access.clauses,
      clause.2.Satisfied meets clause.1 ∨ caller.CountsAsSaid clause.2) :
    (merging caller access).query.Satisfied meets := by
  induction ha using WellFormed.induct with
  | nil => exact hs
  | append clauses key node ha hn hnew ih =>
    obtain ⟨found, -, hstep, hq, hr⟩ := merging_step hc ha hn
    have ih := ih fun clause hm => h clause (List.mem_append_left _ hm)
    refine hstep.satisfied hq.keyed hr.keyed hn.keyed ih ?_
    refine (h (key, node) (by simp)).imp_right ?_
    rintro ⟨own, others, he, hgroup, hcovers⟩
    refine ⟨own, others, he, ?_, hcovers⟩
    rw [merging_group_or hc ha fun _ => by simp [hgroup], hgroup]

theorem merging_keeps (hc : caller.WellFormed) (ha : access.WellFormed)
    (hnone : (merging caller access).conflicts = [])
    (hs : (merging caller access).query.Satisfied meets) : caller.Satisfied meets := by
  induction ha using WellFormed.induct with
  | nil => exact hs
  | append clauses key node ha hn hnew ih =>
    obtain ⟨found, hconflicts, hstep, hq, hr⟩ := merging_step hc ha hn
    obtain ⟨hinit, rfl⟩ := List.append_eq_nil_iff.mp (hconflicts.symm.trans hnone)
    exact ih hinit (hstep.keeps hq.keyed hr.keyed hs)

theorem merging_enforces (ht : TreatsAlike meets) (hc : caller.WellFormed) (ha : access.WellFormed)
    (hnone : (merging caller access).conflicts = [])
    (hs : (merging caller access).query.Satisfied meets) :
    ∀ clause ∈ access.clauses,
      clause.2.Satisfied meets clause.1 ∨ caller.CountsAsSaid clause.2 := by
  induction ha using WellFormed.induct with
  | nil => simp [empty]
  | append clauses key node ha hn hnew ih =>
    obtain ⟨found, hconflicts, hstep, hq, hr⟩ := merging_step hc ha hn
    obtain ⟨hinit, rfl⟩ := List.append_eq_nil_iff.mp (hconflicts.symm.trans hnone)
    intro clause hm
    rcases List.mem_append.mp hm with hm | hm
    · exact ih hinit (hstep.keeps hq.keyed hr.keyed hs) clause hm
    · obtain rfl := List.mem_singleton.mp hm
      refine (hstep.enforces ht hq hr hn hs).imp_right ?_
      rintro ⟨own, others, rfl, hgroup, hcovers⟩
      obtain ⟨rfl, -⟩ := keyed_group.mp hn.keyed
      refine ⟨own, others, rfl, ?_, hcovers⟩
      rw [← hgroup, merging_group_or hc ha fun hk => absurd hk hnew]

-- ---------------------------------------------------------------------------
-- What a merge into a caller's query comes to
-- ---------------------------------------------------------------------------

theorem mergeInto_satisfied (hc : caller.WellFormed) (ha : access.WellFormed)
    (hs : caller.Satisfied meets) (hs' : access.Satisfied meets) :
    (mergeInto (some caller) access).2.Satisfied meets := by
  rcases mergeInto_cases caller access with ⟨-, he⟩ | ⟨-, -, he⟩ | he <;> rw [he]
  · exact hs
  · exact hs
  · exact merging_satisfied hc ha hs fun clause hm => .inl (satisfied_iff.mp hs' clause hm)

theorem mergeInto_keeps (hc : caller.WellFormed) (ha : access.WellFormed)
    (hnone : (mergeInto (some caller) access).1.conflicts = [])
    (hs : (mergeInto (some caller) access).2.Satisfied meets) : caller.Satisfied meets := by
  rcases mergeInto_cases caller access with ⟨-, he⟩ | ⟨-, -, he⟩ | he <;> rw [he] at hs hnone
  · exact hs
  · exact hs
  · exact merging_keeps hc ha hnone hs

end

end Query

/-- A request with a caller's query and what was gathered for it. -/
def RequestContext.ofQueries (access caller : Query) : RequestContext :=
  { RequestContext.ofApp "app" with query := some caller, accessQuery := some access }

theorem RequestContext.merge_eq_ok {ctx after : RequestContext} {outcome : MergeOutcome}
    {access : Query} (ha : ctx.accessQuery = some access) (h : ctx.merge = .ok (outcome, after)) :
    outcome = (mergeInto ctx.query access).1 ∧
      after.query = some (mergeInto ctx.query access).2 := by
  simp only [merge, ha] at h
  split at h
  · cases h
  · simp only [Except.ok.injEq, Prod.mk.injEq] at h
    obtain ⟨rfl, rfl⟩ := h
    exact ⟨rfl, rfl⟩

/-- Merging two documents loses no document that satisfies both, and without
conflicts it adds none that does not satisfy the caller's. -/
theorem RequestContext.merge_between {ctx after : RequestContext} {outcome : MergeOutcome}
    {a c : Json} {access caller : Query} (hda : a.Distinct) (hdc : c.Distinct)
    (ha : Query.ofJson a = .ok access) (hc : Query.ofJson c = .ok caller)
    (haccess : ctx.accessQuery = some access) (hcaller : ctx.query = some caller)
    (h : ctx.merge = .ok (outcome, after)) :
    ∃ merged, after.query = some merged ∧ ∀ meets : String → Node → Prop,
      (caller.Satisfied meets → access.Satisfied meets → merged.Satisfied meets) ∧
      (outcome.conflicts = [] → merged.Satisfied meets → caller.Satisfied meets) := by
  obtain ⟨rfl, hafter⟩ := RequestContext.merge_eq_ok haccess h
  have hwa := ofJson_wellFormed hda ha
  have hwc := ofJson_wellFormed hdc hc
  rw [hcaller] at hafter ⊢
  exact ⟨_, hafter, fun meets => ⟨mergeInto_satisfied hwc hwa, mergeInto_keeps hwc hwa⟩⟩

theorem RequestContext.merge_between_disjoint :
    ∃ after merged,
      (RequestContext.ofQueries (ofField "owner" .null) (ofField "team" .null)).merge =
        .ok (.merged [], after) ∧ after.query = some merged ∧ ∀ meets : String → Node → Prop,
      ((ofField "team" .null).Satisfied meets → (ofField "owner" .null).Satisfied meets →
        merged.Satisfied meets) ∧
      (merged.Satisfied meets → (ofField "team" .null).Satisfied meets) := by
  have hmerge : (RequestContext.ofQueries (ofField "owner" .null) (ofField "team" .null)).merge =
      .ok (.merged [], RequestContext.ofQueries (ofField "owner" .null)
        ((ofField "team" .null).put "owner" (.literal .null))) := by
    cbv
  obtain ⟨merged, hq, hall⟩ := RequestContext.merge_between
    (a := .object [("owner", .null)]) (c := .object [("team", .null)])
    (Json.distinct_object.mpr ⟨by simp [Members.Distinct, Members.names], by simp [Json.Distinct]⟩)
    (Json.distinct_object.mpr ⟨by simp [Members.Distinct, Members.names], by simp [Json.Distinct]⟩)
    rfl rfl rfl rfl hmerge
  exact ⟨_, merged, hmerge, hq, fun meets => ⟨(hall meets).1, (hall meets).2 rfl⟩⟩

-- ---------------------------------------------------------------------------
-- Alternatives that count as said
-- ---------------------------------------------------------------------------

namespace Query

/-- The access-control query's alternatives count as said, but the caller has
one that is none of them. -/
def Widens (caller access : Query) : Prop :=
  ∃ own others, caller.group? .or = some own ∧ access.group? .or = some others ∧
    Covers own others ∧ ∃ child ∈ own, child.isIn others = false

/-- Each value of the first list has a partner in a second one that is no
longer, and no two share one: then no value of the second is left over. -/
theorem exists_partner {α β : Type} {like : α → β → Prop} {first : List α} {second : List β}
    (h : ∀ a ∈ first, ∃ b ∈ second, like a b)
    (hapart : first.Pairwise fun a a' => ∀ b ∈ second, like a b → ¬like a' b)
    (hl : second.length ≤ first.length) : ∀ b ∈ second, ∃ a ∈ first, like a b := by
  induction first generalizing second with
  | nil => simp [List.length_eq_zero_iff.mp (Nat.le_zero.mp hl)]
  | cons a rest ih =>
    obtain ⟨b, hb, hlike⟩ := h a (by simp)
    obtain ⟨hhead, htail⟩ := List.pairwise_cons.mp hapart
    obtain ⟨before, after, rfl⟩ := List.append_of_mem hb
    -- The partner of the head is nobody else's, so the rest is matched without it.
    have hrest : ∀ a' ∈ rest, ∃ b' ∈ before ++ after, like a' b' := by
      intro a' ha'
      obtain ⟨b', hb', hlike'⟩ := h a' (List.mem_cons_of_mem _ ha')
      refine ⟨b', ?_, hlike'⟩
      rcases List.mem_append.mp hb' with hm | hm
      · exact List.mem_append_left _ hm
      · rcases List.mem_cons.mp hm with rfl | hm
        · exact absurd hlike' (hhead a' ha' b' hb hlike)
        · exact List.mem_append_right _ hm
    have hsub : ∀ b' ∈ before ++ after, b' ∈ before ++ b :: after := by
      intro b' hb'
      rcases List.mem_append.mp hb' with hm | hm
      · exact List.mem_append_left _ hm
      · exact List.mem_append_right _ (List.mem_cons_of_mem _ hm)
    have hpartner := ih hrest
      (htail.imp fun hp b' hb' => hp b' (hsub b' hb')) (by simp at hl ⊢; omega)
    intro b' hb'
    rcases List.mem_append.mp hb' with hm | hm
    · obtain ⟨a', ha', hlike'⟩ := hpartner b' (List.mem_append_left _ hm)
      exact ⟨a', List.mem_cons_of_mem _ ha', hlike'⟩
    · rcases List.mem_cons.mp hm with rfl | hm
      · exact ⟨a, by simp, hlike⟩
      · obtain ⟨a', ha', hlike'⟩ := hpartner b' (List.mem_append_right _ hm)
        exact ⟨a', List.mem_cons_of_mem _ ha', hlike'⟩

theorem Widens.repeats {caller access : Query} (hc : caller.WellFormed) (ha : access.WellFormed)
    (h : Widens caller access) :
    ∃ others, access.group? .or = some others ∧ ¬others.Pairwise fun a b => a.same b = false := by
  obtain ⟨own, others, hown, hothers, ⟨hlength, hcovers⟩, child, hchild, hout⟩ := h
  refine ⟨others, hothers, fun hapart => ?_⟩
  have hwo := hc.child hown
  have hwa := ha.child hothers
  have hpartner : ∀ b ∈ own, ∃ a ∈ others, a.same b = true := by
    refine exists_partner (fun a ha => by simpa [isIn] using hcovers a ha) ?_ (Nat.le_of_eq hlength)
    refine hapart.imp_of_mem fun {a a'} hma hma' hne b hb hlike hlike' => ?_
    have hback := same_symm (hwa a' hma').distinct (hwo b hb).distinct hlike'
    simp [same_trans hlike hback] at hne
  obtain ⟨a, hma, hlike⟩ := hpartner child hchild
  have hin : child.isIn others = true :=
    List.any_eq_true.mpr ⟨a, hma, same_symm (hwa a hma).distinct (hwo child hchild).distinct hlike⟩
  simp [hin] at hout

theorem satisfied_remove_or {q : Query} {meets : String → Node → Prop} (hq : q.Keyed) :
    (q.remove Logical.or.key).Satisfied meets ↔
      ∀ clause ∈ q.clauses, clause.1 ≠ Logical.or.key → clause.2.Satisfied meets clause.1 := by
  rw [satisfied_iff_get? (hq.remove _)]
  constructor
  · intro h clause hm hne
    exact h _ _ ((get?_remove_of_ne hne).trans (get?_of_mem hq hm))
  · intro h key node hg
    by_cases hk : key = Logical.or.key
    · subst hk
      rw [get?_remove_self hq] at hg
      cases hg
    · rw [get?_remove_of_ne hk] at hg
      exact h (key, node) (mem_of_get? hg) hk

theorem satisfied_of_countsAsSaid {caller access : Query} {meets : String → Node → Prop}
    (ht : TreatsAlike meets) (hc : caller.WellFormed) (ha : access.WellFormed)
    (hw : ¬Widens caller access) (hs : caller.Satisfied meets) {clause : String × Node}
    (hm : clause ∈ access.clauses) (h : caller.CountsAsSaid clause.2) :
    clause.2.Satisfied meets clause.1 := by
  obtain ⟨key, node⟩ := clause
  obtain ⟨own, others, rfl, hown, hcovers⟩ := h
  obtain ⟨rfl, -⟩ := wellFormed_group.mp (ha.of_mem hm)
  have hothers := (group?_eq_some_iff_mem ha.keyed).mpr hm
  obtain ⟨child, hchild, hsat⟩ := Node.satisfied_or.mp (satisfied_group hc.keyed hs hown)
  have hin : child.isIn others = true := by
    by_contra hout
    exact hw ⟨own, others, hown, hothers, hcovers, child, hchild, by simpa using hout⟩
  obtain ⟨other, ho, hlike⟩ := List.any_eq_true.mp hin
  have hsame := satisfied_same ht (hc.child hown child hchild).distinct
    (ha.child hothers other ho).distinct hlike
  exact Node.satisfied_or.mpr ⟨other, ho, hsame.mp hsat⟩

theorem mergeInto_narrows_iff {caller access : Query} (hc : caller.WellFormed)
    (ha : access.WellFormed) (hnone : (mergeInto (some caller) access).1.conflicts = []) :
    (∀ meets, TreatsAlike meets →
      (mergeInto (some caller) access).2.Satisfied meets → access.Satisfied meets) ↔
    (Widens caller access → ∀ meets, TreatsAlike meets → caller.Satisfied meets →
      (access.remove Logical.or.key).Satisfied meets → access.Satisfied meets) := by
  constructor
  · rintro hnarrow ⟨own, others, hown, hothers, hcovers, -⟩ meets ht hs hrest
    refine hnarrow meets ht ?_
    rcases mergeInto_cases caller access with ⟨-, he⟩ | ⟨-, -, he⟩ | he <;> rw [he]
    · exact hs
    · exact hs
    · refine merging_satisfied hc ha hs fun clause hm => ?_
      by_cases hk : clause.1 = Logical.or.key
      · have hg := get?_of_mem ha.keyed hm
        rw [hk, (group?_eq_some_iff ha.keyed).mp hothers] at hg
        exact .inr ⟨own, others, (Option.some.inj hg).symm, hown, hcovers⟩
      · exact .inl ((satisfied_remove_or ha.keyed).mp hrest clause hm hk)
  · intro hopening meets ht hs
    have hcaller := mergeInto_keeps hc ha hnone hs
    rcases mergeInto_cases caller access with ⟨hlike, -⟩ | hmerged
    · exact (satisfied_same ht hc.distinct ha.distinct hlike).mp hcaller
    have hmerging : (merging caller access).conflicts = [] ∧
        (merging caller access).query.Satisfied meets := by
      rcases hmerged with ⟨hempty, hlike, -⟩ | he
      · have hd := (merging_wellFormed hc ha).distinct
        exact ⟨hempty, (satisfied_same ht hd hc.distinct hlike).mpr hcaller⟩
      · rw [he] at hnone hs
        exact ⟨hnone, hs⟩
    have henforced := merging_enforces ht hc ha hmerging.1 hmerging.2
    -- Only alternatives that counted as said are not enforced, and only these can widen.
    by_cases hw : Widens caller access
    · refine hopening hw meets ht hcaller ?_
      refine (satisfied_remove_or ha.keyed).mpr fun clause hm hk => ?_
      rcases henforced clause hm with hsat | ⟨own, others, he, -⟩
      · exact hsat
      · have hn : clause.2.WellFormed clause.1 := ha.of_mem hm
        rw [he] at hn
        exact absurd (wellFormed_group.mp hn).1 hk
    · rw [satisfied_iff]
      intro clause hm
      rcases henforced clause hm with hsat | hcount
      · exact hsat
      · exact satisfied_of_countsAsSaid ht hc ha hw hcaller hm hcount

end Query

/-- Without conflicts, what satisfies the merged query satisfies the
access-control query, exactly unless alternatives that count as said leave an
opening; and they can only do so where two of them are the same. -/
theorem RequestContext.merge_narrows_iff {ctx after : RequestContext} {outcome : MergeOutcome}
    {access caller : Query} (ha : access.WellFormed) (hc : caller.WellFormed)
    (haccess : ctx.accessQuery = some access) (hcaller : ctx.query = some caller)
    (h : ctx.merge = .ok (outcome, after)) (hnone : outcome.conflicts = []) :
    ∃ merged, after.query = some merged ∧
      ((∀ meets, TreatsAlike meets → merged.Satisfied meets → access.Satisfied meets) ↔
        (Widens caller access → ∀ meets, TreatsAlike meets → caller.Satisfied meets →
          (access.remove Logical.or.key).Satisfied meets → access.Satisfied meets)) ∧
      (Widens caller access →
        ∃ others, access.group? .or = some others ∧
          ¬others.Pairwise fun a b => a.same b = false) := by
  obtain ⟨rfl, hafter⟩ := RequestContext.merge_eq_ok haccess h
  rw [hcaller] at hafter hnone
  exact ⟨_, hafter, mergeInto_narrows_iff hc ha hnone, Widens.repeats hc ha⟩

theorem RequestContext.merge_narrows_reordered :
    ∃ after merged, (RequestContext.ofQueries
        ((ofField "team" .null).insertGroup .or [ofField "owner" .null, ofField "public" .null])
        (alternatives [ofField "public" .null, ofField "owner" .null])).merge =
          .ok (.merged [], after) ∧ after.query = some merged ∧
      ∀ meets, TreatsAlike meets → merged.Satisfied meets →
        ((ofField "team" .null).insertGroup .or
          [ofField "owner" .null, ofField "public" .null]).Satisfied meets := by
  have howner : (ofField "owner" .null).WellFormed := wellFormed_ofField rfl (by trivial)
  have hpublic : (ofField "public" .null).WellFormed := wellFormed_ofField rfl (by trivial)
  have hteam : (ofField "team" .null).WellFormed := wellFormed_ofField rfl (by trivial)
  have hmerge : (RequestContext.ofQueries
      ((ofField "team" .null).insertGroup .or [ofField "owner" .null, ofField "public" .null])
      (alternatives [ofField "public" .null, ofField "owner" .null])).merge =
        .ok (.merged [], RequestContext.ofQueries
          ((ofField "team" .null).insertGroup .or [ofField "owner" .null, ofField "public" .null])
          ((alternatives [ofField "public" .null, ofField "owner" .null]).put
            "team" (.literal .null))) := by
    cbv
  obtain ⟨merged, hq, hiff, hrepeats⟩ := RequestContext.merge_narrows_iff
    (hteam.insertGroup (by simp [howner, hpublic]))
    (wellFormed_empty.insertGroup (by simp [howner, hpublic])) rfl rfl hmerge rfl
  refine ⟨_, merged, hmerge, hq, hiff.mpr fun hw => ?_⟩
  obtain ⟨others, hothers, hsame⟩ := hrepeats hw
  rw [group?_insertGroup_self] at hothers
  cases hothers
  exact (hsame (List.pairwise_pair.mpr (by cbv))).elim

/-- Alternatives that say one thing twice count as said by a caller who asks for
that or for something else. -/
theorem RequestContext.merge_widens_repeated :
    (RequestContext.ofQueries (alternatives [ofField "owner" .null, ofField "owner" .null])
        (alternatives [ofField "owner" .null, ofField "public" .null])).merge =
      .ok (.unchanged,
        RequestContext.ofQueries (alternatives [ofField "owner" .null, ofField "owner" .null])
          (alternatives [ofField "owner" .null, ofField "public" .null])) ∧
    ∃ meets, TreatsAlike meets ∧
      (alternatives [ofField "owner" .null, ofField "public" .null]).Satisfied meets ∧
      ¬(alternatives [ofField "owner" .null, ofField "owner" .null]).Satisfied meets := by
  have hkeyed : ∀ field, Logical.ofKey? field = none → (ofField field .null).Keyed :=
    fun field hf => (wellFormed_ofField hf (by trivial)).keyed
  refine ⟨by cbv, fun field _ => field = "public", fun _ _ _ _ _ _ => Iff.rfl, ?_, ?_⟩
  · rw [satisfied_alternatives (by simp [hkeyed "owner" rfl, hkeyed "public" rfl])]
    simp [satisfied_ofField]
  · rw [satisfied_alternatives (by simp [hkeyed "owner" rfl])]
    simp [satisfied_ofField]

end QueryGuard
