import Mathlib.Data.List.Sort
import QueryGuard.Proofs.Silence

/-!
# The order of keys

The keys of an access-control query come in the order in which policies were
accumulated, and equal queries may hold them in different orders. `Passable`
says when some order of them lets the caller's query pass without a conflict,
and `Undisputed` when every order does; between the two the decision depends on
the order.
-/

namespace QueryGuard

open Query

namespace Query

/-- The access-control query's conjunction can meet one: the caller's, or the
one that its own alternatives make when they join the caller's. -/
def MeetsConjunction (caller access : Query) : Prop :=
  caller.group? .and ≠ none ∨ ∃ own others, caller.group? .or = some own ∧
    access.group? .or = some others ∧ ¬Covers own others

/-- What is compared in every order comes out alike. -/
structure Compatible (caller access : Query) : Prop where
  top : ∀ clause ∈ access.fields, ∀ own, caller.get? clause.1 = some own →
    own.same clause.2 = true
  grouped : ∀ clause ∈ access.fields, ∀ op, Agrees (caller.childrenOf op) clause.1 clause.2
  crossed : ∀ op field node, node ∈ named (access.childrenOf op) field → node.isGroup = false →
    ¬Contradicts (caller.childrenOf op) field node
  alternatives : caller.group? .or = none → ∀ clause ∈ caller.fields,
    ¬Contradicts (access.childrenOf .or) clause.1 clause.2

/-- Some order lets the caller's query pass. The conjunction either meets
another or contradicts no plain clause. The alternatives, where the caller has
none, contradict no plain clause of the access-control query, unless by then a
conjunction can have said it, so that it does not stand at the top level. -/
structure Passable (caller access : Query) : Prop extends Compatible caller access where
  conjunction : MeetsConjunction caller access ∨
    ∀ clause, clause ∈ caller.fields ∨ clause ∈ access.fields →
      ¬Contradicts (access.childrenOf .and) clause.1 clause.2
  disjunction : caller.group? .or = none → ∀ clause ∈ access.fields,
    caller.get? clause.1 = none → ¬Contradicts (access.childrenOf .or) clause.1 clause.2 ∨
      caller.Says clause.1 clause.2 ∨ (named (access.childrenOf .and) clause.1 ≠ [] ∧
        Agrees (access.childrenOf .and) clause.1 clause.2)

/-- Every order lets the caller's query pass: the access-control query's own
groups agree with its plain clauses, and its conjunction contradicts none of the
caller's unless the caller has a conjunction. -/
structure Undisputed (caller access : Query) : Prop extends Compatible caller access where
  own : ∀ clause ∈ access.fields, ∀ op, (op = .or → caller.group? .or = none) →
    Agrees (access.childrenOf op) clause.1 clause.2
  conjunction : caller.group? .and = none → ∀ clause ∈ caller.fields,
    ¬Contradicts (access.childrenOf .and) clause.1 clause.2

-- ---------------------------------------------------------------------------
-- Equal queries
-- ---------------------------------------------------------------------------

section
variable {a b caller : Query} {field : String} {node : Node} {op : Logical}
  {children others : List Query}

theorem group?_of_same (ha : a.Keyed) (hb : b.Keyed) (h : a.same b = true)
    (hg : a.group? op = some children) : ∃ others, b.group? op = some others ∧
      List.Forall₂ (fun a b => a.same b = true) children others := by
  obtain ⟨own, hown, hlike⟩ := get?_of_same h ((group?_eq_some_iff ha).mp hg)
  cases own with
  | group op' others =>
    obtain ⟨rfl, hall⟩ := same_group.mp hlike
    exact ⟨others, (group?_eq_some_iff hb).mpr hown, hall⟩
  | _ => simp [Node.same] at hlike

theorem named_of_same (ha : a.Keyed) (hb : b.Keyed) (h : a.same b = true)
    (hm : node ∈ named (a.childrenOf op) field) :
    ∃ own ∈ named (b.childrenOf op) field, node.same own = true := by
  have hg := group?_childrenOf (ne_nil_of_mem_named hm)
  obtain ⟨others, hothers, hall⟩ := group?_of_same ha hb h hg
  obtain ⟨child, hc, hn⟩ := mem_named.mp hm
  obtain ⟨other, ho, hsame⟩ := exists_of_forall₂_left hall hc
  obtain ⟨own, hown, hlike⟩ := get?_of_same hsame hn
  rw [childrenOf_of_group? hothers]
  exact ⟨own, mem_named.mpr ⟨other, ho, hown⟩, hlike⟩

/-- Two well-formed queries that are the same, so that either may stand for the
other. -/
structure Alike (a b : Query) : Prop where
  left : a.WellFormed
  right : b.WellFormed
  same : a.same b = true

theorem Alike.symm (h : Alike a b) : Alike b a :=
  ⟨h.right, h.left, same_symm h.left.distinct h.right.distinct h.same⟩

theorem Alike.exists_like (h : Alike a b) {clause : String × Node} (hm : clause ∈ b.fields) :
    ∃ own, (clause.1, own) ∈ a.fields ∧ clause.2.same own = true ∧ own.same clause.2 = true := by
  obtain ⟨hm, hp⟩ := mem_fields.mp hm
  obtain ⟨own, hown, hlike⟩ := get?_of_same h.symm.same (get?_of_mem h.right.keyed hm)
  have hplain : own.isGroup = false := Node.isGroup_of_same hlike ▸ hp
  have hmem := mem_of_get? hown
  exact ⟨own, mem_fields.mpr ⟨hmem, hplain⟩, hlike,
    Node.same_symm (h.right.of_mem hm).distinct (h.left.of_mem hmem).distinct hlike⟩

theorem Alike.isIn_named (h : Alike a b) : node.isIn (named (a.childrenOf op) field) = true ↔
    node.isIn (named (b.childrenOf op) field) = true := by
  have hstep : ∀ {a b : Query}, Alike a b →
      node.isIn (named (a.childrenOf op) field) = true →
      node.isIn (named (b.childrenOf op) field) = true := by
    intro a b h hin
    obtain ⟨own, hown, hlike⟩ := List.any_eq_true.mp hin
    obtain ⟨other, ho, hsame⟩ := named_of_same h.left.keyed h.right.keyed h.same hown
    exact List.any_eq_true.mpr ⟨other, ho, Node.same_trans hlike hsame⟩
  exact ⟨hstep h, hstep h.symm⟩

theorem Alike.contradicts (h : Alike a b) : Contradicts (a.childrenOf op) field node ↔
    Contradicts (b.childrenOf op) field node :=
  contradicts_congr h.left.childrenOf h.right.childrenOf fun _ => h.isIn_named

theorem Alike.agrees (h : Alike a b) : Agrees (a.childrenOf op) field node ↔
    Agrees (b.childrenOf op) field node := by
  rw [agrees_iff h.left.childrenOf, agrees_iff h.right.childrenOf]
  exact forall_congr' fun _ => imp_congr_left h.isIn_named

theorem Alike.group?_none (h : Alike a b) (hnone : a.group? op = none) : b.group? op = none := by
  cases hg : b.group? op with
  | none => rfl
  | some others =>
    obtain ⟨children, hc, -⟩ := group?_of_same h.right.keyed h.left.keyed h.symm.same hg
    rw [hnone] at hc
    cases hc

theorem Agrees.of_same {own : Node} (h : Agrees children field node)
    (hlike : node.same own = true) : Agrees children field own :=
  fun other ho => Node.same_trans (h other ho) hlike

theorem Covers.of_same {own : List Query} (h : Covers own children)
    (hall : List.Forall₂ (fun a b => a.same b = true) children others)
    (hc : ∀ child ∈ children, child.WellFormed) (ho : ∀ other ∈ others, other.WellFormed) :
    Covers own others := by
  refine ⟨h.1.trans hall.length_eq, fun other hm => ?_⟩
  obtain ⟨child, hchild, hlike⟩ := exists_of_forall₂_right hall hm
  have hback := same_symm (hc child hchild).distinct (ho other hm).distinct hlike
  obtain ⟨mine, hmine, hsame⟩ := List.any_eq_true.mp (h.2 child hchild)
  exact List.any_eq_true.mpr ⟨mine, hmine, same_trans hback hsame⟩

theorem MeetsConjunction.of_alike (h : Alike a b) (hm : MeetsConjunction caller a) :
    MeetsConjunction caller b := by
  refine hm.imp_right ?_
  rintro ⟨own, children, hown, hg, hcovers⟩
  obtain ⟨others, hothers, hall⟩ := group?_of_same h.left.keyed h.right.keyed h.same hg
  refine ⟨own, others, hown, hothers, fun hc => hcovers ?_⟩
  have hwc := h.left.child hg
  have hwo := h.right.child hothers
  refine hc.of_same (forall₂_symm hall fun child hc other ho => ?_) hwo hwc
  exact same_symm (hwc child hc).distinct (hwo other ho).distinct

theorem Compatible.of_alike (h : Alike a b) (hcompatible : Compatible caller a) :
    Compatible caller b where
  top clause hm own hown := by
    obtain ⟨like, hlike, -, hback⟩ := h.exists_like hm
    exact Node.same_trans (hcompatible.top _ hlike own hown) hback
  grouped clause hm op := by
    obtain ⟨like, hlike, -, hback⟩ := h.exists_like hm
    exact (hcompatible.grouped _ hlike op).of_same hback
  crossed op field node hm hp hcontra := by
    obtain ⟨own, hown, hlike⟩ := named_of_same h.right.keyed h.left.keyed h.symm.same hm
    exact hcompatible.crossed op field own hown (Node.isGroup_of_same hlike ▸ hp)
      (hcontra.of_same hlike)
  alternatives hnone clause hm := by
    rw [← h.contradicts]
    exact hcompatible.alternatives hnone clause hm

theorem Passable.of_alike (h : Alike a b) (hpass : Passable caller a) : Passable caller b where
  toCompatible := hpass.toCompatible.of_alike h
  conjunction := by
    refine hpass.conjunction.imp (.of_alike h) fun hnone clause hm hcontra => ?_
    rw [← h.contradicts] at hcontra
    rcases hm with hm | hm
    · exact hnone clause (.inl hm) hcontra
    · obtain ⟨own, hown, hlike, -⟩ := h.exists_like hm
      exact hnone _ (.inr hown) (hcontra.of_same hlike)
  disjunction hnone clause hm hfree := by
    obtain ⟨own, hown, hlike, hback⟩ := h.exists_like hm
    rw [← h.contradicts, ← h.agrees]
    rcases hpass.disjunction hnone _ hown hfree with hcontra | hsaid | ⟨hne, hagrees⟩
    · exact .inl fun hc => hcontra (hc.of_same hlike)
    · obtain ⟨other, ho, hsame⟩ := List.any_eq_true.mp hsaid
      exact .inr (.inl (List.any_eq_true.mpr ⟨other, ho, Node.same_trans hlike hsame⟩))
    · refine .inr (.inr ⟨?_, hagrees.of_same hback⟩)
      obtain ⟨other, ho⟩ := List.exists_mem_of_ne_nil _ hne
      obtain ⟨like, hm, -⟩ := named_of_same h.left.keyed h.right.keyed h.same ho
      exact List.ne_nil_of_mem hm

theorem Undisputed.of_alike (h : Alike a b) (hall : Undisputed caller a) :
    Undisputed caller b where
  toCompatible := hall.toCompatible.of_alike h
  own clause hm op hjoins := by
    obtain ⟨own, hown, -, hback⟩ := h.exists_like hm
    rw [← h.agrees]
    exact (hall.own _ hown op hjoins).of_same hback
  conjunction hnone clause hm := by
    rw [← h.contradicts]
    exact hall.conjunction hnone clause hm

end

-- ---------------------------------------------------------------------------
-- Clauses in their order
-- ---------------------------------------------------------------------------

section
variable {caller access : Query} {earlier later clauses others : List (String × Node)}
  {clause other : String × Node} {key : String} {node : Node} {op : Logical}
  {rank : String × Node → Nat}

theorem unopposed_plain (hp : node.isGroup = false) : Unopposed caller earlier key node ↔
    (∀ own, caller.get? key = some own → own.same node = true) ∧
    (∀ op, Agrees (caller.childrenOf op) key node) ∧
    ∀ op children, (op.key, Node.group op children) ∈ earlier →
      (op = .or → caller.group? .or = none) → Agrees children key node := by
  cases node with
  | group => cases hp
  | _ => exact Iff.rfl

theorem before_or_after (he : clauses = earlier ++ clause :: later) (hm : other ∈ clauses)
    (hne : other ≠ clause) :
    other ∈ earlier ∨ ∃ before after, clauses = before ++ other :: after ∧ clause ∈ before := by
  rw [he] at hm
  rcases List.mem_append.mp hm with hm | hm
  · exact .inl hm
  · obtain ⟨between, after, rfl⟩ := List.append_of_mem ((List.mem_cons.mp hm).resolve_left hne)
    exact .inr ⟨earlier ++ clause :: between, after, by simp [he], by simp⟩

theorem alike_of_perm (hq : (⟨clauses⟩ : Query).WellFormed) (hp : others.Perm clauses) :
    Alike ⟨others⟩ ⟨clauses⟩ := by
  obtain ⟨hd, hk⟩ := keyed_iff.mp hq.keyed
  have hdistinct : Members.Distinct others := hd.perm hp.symm
  have hmem : ∀ clause ∈ others, clause.2.WellFormed clause.1 :=
    fun clause hm => hq.of_mem (hp.mem_iff.mp hm)
  have hw : (⟨others⟩ : Query).WellFormed :=
    ⟨keyed_iff.mpr ⟨hdistinct, fun clause hm => (hmem clause hm).keyed⟩,
      distinct_iff.mpr ⟨hdistinct, fun clause hm => (hmem clause hm).distinct⟩⟩
  refine ⟨hw, hq, same_iff.mpr ⟨hp.length_eq, fun clause hm => ?_⟩⟩
  exact ⟨clause.2, Members.get?_of_mem hd (hp.mem_iff.mp hm), Node.same_refl (hmem clause hm).distinct⟩

/-- The clauses in the order of their ranks. -/
def arranged (q : Query) (rank : String × Node → Nat) : Query :=
  ⟨q.clauses.mergeSort fun a b => rank a ≤ rank b⟩

theorem arranged_perm (q : Query) (rank : String × Node → Nat) :
    (q.arranged rank).clauses.Perm q.clauses :=
  List.mergeSort_perm ..

theorem arranged_alike (hq : access.WellFormed) (rank : String × Node → Nat) :
    Alike (access.arranged rank) access := by
  obtain ⟨clauses⟩ := access
  exact alike_of_perm hq (arranged_perm ⟨clauses⟩ rank)

theorem arranged_group? (hq : access.WellFormed) (rank : String × Node → Nat) :
    (access.arranged rank).group? op = access.group? op := by
  apply Option.ext
  intro children
  rw [group?_eq_some_iff_mem (arranged_alike hq rank).left.keyed, group?_eq_some_iff_mem hq.keyed]
  exact (arranged_perm access rank).mem_iff

theorem arranged_sorted (q : Query) (rank : String × Node → Nat) :
    (q.arranged rank).clauses.Pairwise fun a b => rank a ≤ rank b := by
  have hsorted := @List.pairwise_mergeSort _ (fun a b => decide (rank a ≤ rank b))
    (fun a b c => by simpa using Nat.le_trans) (fun a b => by simpa using Nat.le_total _ _) q.clauses
  simpa [arranged] using hsorted

theorem mem_earlier_of_lt (hsorted : clauses.Pairwise fun a b => rank a ≤ rank b)
    (he : clauses = earlier ++ clause :: later) (hm : other ∈ clauses)
    (hlt : rank other < rank clause) : other ∈ earlier := by
  subst he
  obtain ⟨-, hlater, -⟩ := List.pairwise_append.mp hsorted
  rcases List.mem_append.mp hm with hm | hm
  · exact hm
  · rcases List.mem_cons.mp hm with rfl | hm
    · exact absurd hlt (Nat.lt_irrefl _)
    · exact absurd hlt (Nat.not_lt.mpr (List.rel_of_pairwise_cons hlater hm))

theorem rank_le_of_mem_earlier (hsorted : clauses.Pairwise fun a b => rank a ≤ rank b)
    (he : clauses = earlier ++ clause :: later) (hm : other ∈ earlier) :
    rank other ≤ rank clause := by
  subst he
  exact (List.pairwise_append.mp hsorted).2.2 other hm clause List.mem_cons_self

end

-- ---------------------------------------------------------------------------
-- Every order
-- ---------------------------------------------------------------------------

section
variable {caller access other : Query} {earlier later : List (String × Node)}
  {key field : String} {node : Node} {op : Logical} {children : List Query}

theorem plain_or_group (hn : node.WellFormed key) :
    node.isGroup = false ∨ ∃ op children, key = op.key ∧ node = .group op children := by
  cases node with
  | group op children => exact .inr ⟨op, children, (wellFormed_group.mp hn).1, rfl⟩
  | _ => exact .inl rfl

theorem childrenOf_of_mem (hq : access.Keyed)
    (hm : (op.key, Node.group op children) ∈ access.clauses) : access.childrenOf op = children :=
  childrenOf_of_group? ((group?_eq_some_iff_mem hq).mpr hm)

theorem merging_nil_of_undisputed (hc : caller.WellFormed) (ha : access.WellFormed)
    (h : Undisputed caller access) : (merging caller access).conflicts = [] := by
  refine (merging_eq_nil_iff hc ha).mpr ?_
  rintro earlier ⟨key, node⟩ later he
  have hearlier : ∀ clause ∈ earlier, clause ∈ access.clauses := by
    intro clause hm
    simp [he, hm]
  have hm : (key, node) ∈ access.clauses := by simp [he]
  obtain hp | ⟨op, children, rfl, rfl⟩ := plain_or_group (ha.of_mem hm)
  · have hfield := mem_fields.mpr ⟨hm, hp⟩
    refine (unopposed_plain hp).mpr ⟨h.top _ hfield, h.grouped _ hfield, fun op children hg hjoins => ?_⟩
    rw [← childrenOf_of_mem ha.keyed (hearlier _ hg)]
    exact h.own _ hfield op hjoins
  · rw [← childrenOf_of_mem ha.keyed hm]
    refine ⟨h.crossed op, fun hlacks field own hp hstanding => ?_⟩
    rcases hstanding.mem with hg | hg
    · have hfield := mem_fields.mpr ⟨mem_of_get? hg, hp⟩
      cases op with
      | and => exact h.conjunction hlacks.1 _ hfield
      | or => exact h.alternatives hlacks.1 _ hfield
    · have hg := hearlier _ hg
      have hagrees := h.own _ (mem_fields.mpr ⟨hg, hp⟩) op fun he => he ▸ hlacks.1
      exact hagrees.not_contradicts ha.childrenOf (ha.of_mem hg).distinct

-- ---------------------------------------------------------------------------
-- Some order
-- ---------------------------------------------------------------------------

theorem compatible_of_merging_nil (hc : caller.WellFormed) (ha : access.WellFormed)
    (h : (merging caller access).conflicts = []) : Compatible caller access := by
  have hunopposed := (merging_eq_nil_iff hc ha).mp h
  have hplain : ∀ clause ∈ access.fields, ∃ earlier, Unopposed caller earlier clause.1 clause.2 := by
    intro clause hm
    obtain ⟨earlier, later, he⟩ := List.append_of_mem (mem_fields.mp hm).1
    exact ⟨earlier, hunopposed _ _ _ he⟩
  have hgroup : ∀ op field node, node ∈ named (access.childrenOf op) field → ∃ earlier,
      Unopposed caller earlier op.key (.group op (access.childrenOf op)) := by
    intro op field node hm
    have hg := group?_childrenOf (ne_nil_of_mem_named hm)
    obtain ⟨earlier, later, he⟩ := List.append_of_mem ((group?_eq_some_iff_mem ha.keyed).mp hg)
    exact ⟨earlier, hunopposed _ _ _ he⟩
  constructor
  · intro clause hm
    obtain ⟨earlier, hclause⟩ := hplain clause hm
    exact ((unopposed_plain (mem_fields.mp hm).2).mp hclause).1
  · intro clause hm
    obtain ⟨earlier, hclause⟩ := hplain clause hm
    exact ((unopposed_plain (mem_fields.mp hm).2).mp hclause).2.1
  · intro op field node hm
    obtain ⟨earlier, hcrossed, -⟩ := hgroup op field node hm
    exact hcrossed field node hm
  · intro hnone clause hm hcontra
    obtain ⟨own, ho⟩ := List.exists_mem_of_ne_nil _ hcontra.1
    obtain ⟨earlier, -, hstanding⟩ := hgroup .or _ _ ho
    obtain ⟨hm, hp⟩ := mem_fields.mp hm
    exact hstanding ⟨hnone, nofun⟩ _ _ hp (.inl (get?_of_mem hc.keyed hm)) hcontra

theorem not_contradicts_of_group?_none (h : access.group? op = none) :
    ¬Contradicts (access.childrenOf op) field node := by
  simp [childrenOf_of_none h]

theorem not_says_of_none (h : caller.group? .and = none) : ¬caller.Says field node := by
  simp [Says, h, named, Node.isIn]

theorem standing_of_mem (hw : (⟨earlier⟩ : Query).WellFormed)
    (hnew : Logical.and.key ∉ keys ⟨earlier⟩) (hnone : caller.group? .and = none)
    {clause : String × Node} (hm : clause ∈ earlier) (hfree : caller.get? clause.1 = none) :
    Standing caller earlier clause.1 clause.2 := by
  obtain ⟨before, after, rfl⟩ := List.append_of_mem hm
  refine .inr ⟨hfree, before, after, rfl, not_says_of_none hnone, not_says_of_none ?_⟩
  have hlate : Logical.and.key ∉ keys ⟨before⟩ := fun hm =>
    hnew (by simpa [keys, Members.names] using Or.inl hm)
  exact (group?_eq_none_iff (hw.of_split rfl).1.keyed).mpr (Members.get?_eq_none_iff.mpr hlate)

theorem not_contradicts_of_merging_nil (hc : caller.WellFormed) (ha : access.WellFormed)
    (h : (merging caller access).conflicts = []) (hmeets : ¬MeetsConjunction caller access)
    {clause : String × Node} (hm : clause ∈ caller.fields ∨ clause ∈ access.fields) :
    ¬Contradicts (access.childrenOf .and) clause.1 clause.2 := by
  intro hcontra
  have hunopposed := (merging_eq_nil_iff hc ha).mp h
  have hgroup := (group?_eq_some_iff_mem ha.keyed).mp (group?_childrenOf hcontra.ne_nil)
  obtain ⟨earlier, later, he⟩ := List.append_of_mem hgroup
  obtain ⟨hearlier, hnew⟩ := ha.of_split he
  simp only [MeetsConjunction, not_or, not_not, not_exists, not_and] at hmeets
  obtain ⟨hnone, hcovers⟩ := hmeets
  have hlacks : Lacks caller earlier .and := by
    refine ⟨hnone, fun _ own others hown hm => hcovers own others hown ?_⟩
    exact (group?_eq_some_iff_mem ha.keyed).mpr (by simp [he, hm])
  have hstanding := (hunopposed _ _ _ he).2 hlacks
  rcases hm with hm | hm
  · obtain ⟨hm, hp⟩ := mem_fields.mp hm
    exact hstanding _ _ hp (.inl (get?_of_mem hc.keyed hm)) hcontra
  · obtain ⟨hmem, hp⟩ := mem_fields.mp hm
    have hdistinct := (ha.of_mem hmem).distinct
    have hne : clause ≠ (Logical.and.key, .group .and (access.childrenOf .and)) := by
      rintro rfl
      cases hp
    rcases before_or_after he hmem hne with hbefore | ⟨before, after, he', hbefore⟩
    · cases hown : caller.get? clause.1 with
      | some own =>
        have hlike := (compatible_of_merging_nil hc ha h).top clause hm own hown
        have ho := (hc.of_mem (mem_of_get? hown)).distinct
        exact hstanding _ own (Node.isGroup_of_same hlike ▸ hp) (.inl hown)
          (hcontra.of_same (Node.same_symm ho hdistinct hlike))
      | none =>
        exact hstanding _ _ hp (standing_of_mem hearlier hnew hnone hbefore hown) hcontra
    · have hagrees := ((unopposed_plain hp).mp (hunopposed _ _ _ he')).2.2 _ _ hbefore nofun
      exact hagrees.not_contradicts ha.childrenOf hdistinct hcontra

theorem passable_of_merging_nil (hc : caller.WellFormed) (ha : access.WellFormed)
    (h : (merging caller access).conflicts = []) : Passable caller access where
  toCompatible := compatible_of_merging_nil hc ha h
  conjunction := or_iff_not_imp_left.mpr fun hmeets _ hm =>
    not_contradicts_of_merging_nil hc ha h hmeets hm
  disjunction hnone clause hm hfree := by
    have hunopposed := (merging_eq_nil_iff hc ha).mp h
    obtain ⟨hmem, hp⟩ := mem_fields.mp hm
    have hearlier : ∀ {op children before after}, access.clauses = before ++ clause :: after →
        (op.key, Node.group op children) ∈ before → (op = .or → caller.group? .or = none) →
        access.childrenOf op = children ∧ Agrees children clause.1 clause.2 := by
      intro op children before after he hbefore hjoins
      exact ⟨childrenOf_of_mem ha.keyed (by simp [he, hbefore]),
        ((unopposed_plain hp).mp (hunopposed _ _ _ he)).2.2 op children hbefore hjoins⟩
    cases hg : access.group? .or with
    | none => exact .inl (not_contradicts_of_group?_none hg)
    | some children =>
      rw [childrenOf_of_group? hg]
      obtain ⟨earlier, later, he⟩ := List.append_of_mem ((group?_eq_some_iff_mem ha.keyed).mp hg)
      have hne : clause ≠ (Logical.or.key, .group .or children) := by
        rintro rfl
        cases hp
      rcases before_or_after he hmem hne with hbefore | ⟨before, after, he', hbefore⟩
      · obtain ⟨before, after, rfl⟩ := List.append_of_mem hbefore
        -- A clause before the alternatives stands at the top level unless a conjunction says it.
        by_cases hsaid : caller.Says clause.1 clause.2 ∨ Says ⟨before⟩ clause.1 clause.2
        · refine .inr (hsaid.imp_right fun hsaid => ?_)
          obtain ⟨conjuncts, hconjuncts, -⟩ := says_iff.mp hsaid
          have hwell := ((ha.of_split he).1.of_split rfl).1
          have hin := (group?_eq_some_iff_mem hwell.keyed).mp hconjuncts
          have he : access.clauses =
              before ++ clause :: (after ++ (Logical.or.key, .group .or children) :: later) := by
            rw [he, List.append_assoc, List.cons_append]
          obtain ⟨rfl, hagrees⟩ := hearlier he hin fun hor => absurd hor (by decide)
          refine ⟨?_, hagrees⟩
          rw [Says, hconjuncts, Node.isIn] at hsaid
          obtain ⟨own, ho, -⟩ := List.any_eq_true.mp hsaid
          exact List.ne_nil_of_mem ho
        · obtain ⟨hcaller, hsaid⟩ := not_or.mp hsaid
          have hstanding := (hunopposed _ _ _ he).2 ⟨hnone, fun hand => absurd hand (by decide)⟩
          exact .inl (hstanding _ _ hp (.inr ⟨hfree, before, after, rfl, hcaller, hsaid⟩))
      · have hagrees := (hearlier he' hbefore fun _ => hnone).2
        exact .inl (hagrees.not_contradicts (ha.child hg) (ha.of_mem hmem).distinct)

open Classical in
/-- An order in which a passable query passes: alternatives that meet the
caller's come before the conjunction, so that it meets one; clauses that the
conjunction says come after it, and alternatives that meet none come last. -/
noncomputable def passingRank (caller : Query) (conjuncts : List Query) : String × Node → Nat
  | (_, .group .and _) => 2
  | (_, .group .or _) => if caller.group? .or = none then 4 else 1
  | (field, node) => if named conjuncts field ≠ [] ∧ Agrees conjuncts field node then 3 else 0

theorem passingRank_and {conjuncts : List Query} :
    passingRank caller conjuncts (key, .group .and children) = 2 := rfl

open Classical in
theorem passingRank_or {conjuncts : List Query} :
    passingRank caller conjuncts (key, .group .or children) =
      if caller.group? .or = none then 4 else 1 := rfl

theorem passingRank_plain (caller : Query) (conjuncts : List Query) (key : String)
    (hp : node.isGroup = false) :
    passingRank caller conjuncts (key, node) = 3 ∧ named conjuncts key ≠ [] ∧
        Agrees conjuncts key node ∨
      passingRank caller conjuncts (key, node) = 0 ∧
        ¬(named conjuncts key ≠ [] ∧ Agrees conjuncts key node) := by
  by_cases h : named conjuncts key ≠ [] ∧ Agrees conjuncts key node
  · refine .inl ⟨?_, h⟩
    cases node with
    | group => cases hp
    | _ => exact if_pos h
  · refine .inr ⟨?_, h⟩
    cases node with
    | group => cases hp
    | _ => exact if_neg h

theorem says_of_agrees (hq : access.WellFormed) (hn : node.Distinct)
    (hg : (Logical.and.key, .group .and children) ∈ access.clauses)
    (hne : named children field ≠ []) (h : Agrees children field node) :
    access.Says field node := by
  have hgroup := (group?_eq_some_iff_mem hq.keyed).mpr hg
  obtain ⟨own, ho⟩ := List.exists_mem_of_ne_nil _ hne
  obtain ⟨child, hc, hheld⟩ := mem_named.mp ho
  have hd := distinct_of_mem_named (hq.child hgroup) ho
  exact says_iff.mpr ⟨children, hgroup, child, hc, own, hheld, Node.same_symm hd hn (h own ho)⟩

theorem unopposed_plain_of_passable (ha : access.WellFormed) (h : Passable caller access)
    (hsorted : access.clauses.Pairwise fun a b =>
      passingRank caller (access.childrenOf .and) a ≤ passingRank caller (access.childrenOf .and) b)
    (he : access.clauses = earlier ++ (key, node) :: later) (hp : node.isGroup = false) :
    Unopposed caller earlier key node := by
  have hfield : (key, node) ∈ access.fields := mem_fields.mpr ⟨by simp [he], hp⟩
  refine (unopposed_plain hp).mpr ⟨h.top _ hfield, h.grouped _ hfield, fun op children hg hjoins => ?_⟩
  have hm : (op.key, Node.group op children) ∈ access.clauses := by simp [he, hg]
  have hle := rank_le_of_mem_earlier hsorted he hg
  have hrank := passingRank_plain caller (access.childrenOf .and) key hp
  cases op with
  | and =>
    rw [passingRank_and] at hle
    rw [← childrenOf_of_mem ha.keyed hm]
    rcases hrank with ⟨-, -, hagrees⟩ | ⟨hzero, -⟩
    · exact hagrees
    · omega
  | or =>
    rw [passingRank_or, if_pos (hjoins rfl)] at hle
    omega

theorem unopposed_group_of_passable (ha : access.WellFormed) (h : Passable caller access)
    (hsorted : access.clauses.Pairwise fun a b =>
      passingRank caller (access.childrenOf .and) a ≤ passingRank caller (access.childrenOf .and) b)
    (he : access.clauses = earlier ++ (op.key, .group op children) :: later) :
    Unopposed caller earlier op.key (.group op children) := by
  have hearlier : ∀ clause ∈ earlier, clause ∈ access.clauses := by
    intro clause hm
    simp [he, hm]
  have hgroup : ∀ {op children}, access.group? op = some children →
      (op.key, .group op children) ∈ access.clauses := (group?_eq_some_iff_mem ha.keyed).mp
  have hm : (op.key, Node.group op children) ∈ access.clauses := by simp [he]
  rw [← childrenOf_of_mem ha.keyed hm]
  refine ⟨h.crossed op, fun hlacks field own hp hstanding => ?_⟩
  cases op with
  | and =>
    -- Alternatives that bring a conjunction in come before the one that meets it.
    have hmeets : ¬MeetsConjunction caller access := by
      rintro (hg | ⟨own, others, hown, hothers, hcovers⟩)
      · exact hg hlacks.1
      · have hbefore := mem_earlier_of_lt hsorted he (hgroup hothers) (by
          rw [passingRank_and, passingRank_or, if_neg (by simp [hown])]
          decide)
        exact hcovers (hlacks.2 rfl own others hown hbefore)
    refine h.conjunction.resolve_left hmeets (field, own) ?_
    refine hstanding.mem.imp (fun hg => ?_) fun hm => mem_fields.mpr ⟨hearlier _ hm, hp⟩
    exact mem_fields.mpr ⟨mem_of_get? hg, hp⟩
  | or =>
    rcases hstanding with hg | ⟨hfree, before, after, rfl, hcaller, hsaid⟩
    · exact h.alternatives hlacks.1 _ (mem_fields.mpr ⟨mem_of_get? hg, hp⟩)
    · have hm := hearlier (field, own) (by simp)
      rcases h.disjunction hlacks.1 _ (mem_fields.mpr ⟨hm, hp⟩) hfree with
        hcontra | hcontra | ⟨hne, hagrees⟩
      · exact hcontra
      · exact absurd hcontra hcaller
      · -- The conjunction comes before what it agrees with, so that it says it.
        refine absurd ?_ hsaid
        have hsplit : access.clauses =
            before ++ (field, own) :: (after ++ (Logical.or.key, .group .or children) :: later) := by
          rw [he, List.append_assoc, List.cons_append]
        obtain ⟨conjunct, hconjunct⟩ := List.exists_mem_of_ne_nil _ hne
        have hg := group?_childrenOf (ne_nil_of_mem_named hconjunct)
        have hbefore := mem_earlier_of_lt hsorted hsplit (hgroup hg) (by
          rcases passingRank_plain caller (access.childrenOf .and) field hp with
            ⟨hrank, -⟩ | ⟨-, hnot⟩
          · rw [passingRank_and, hrank]
            decide
          · exact absurd ⟨hne, hagrees⟩ hnot)
        exact says_of_agrees (ha.of_split hsplit).1 (ha.of_mem hm).distinct hbefore hne hagrees

theorem merging_nil_of_passable (hc : caller.WellFormed) (ha : access.WellFormed)
    (h : Passable caller access) (hsorted : access.clauses.Pairwise fun a b =>
      passingRank caller (access.childrenOf .and) a ≤ passingRank caller (access.childrenOf .and) b) :
    (merging caller access).conflicts = [] := by
  refine (merging_eq_nil_iff hc ha).mpr ?_
  rintro earlier ⟨key, node⟩ later he
  have hm : (key, node) ∈ access.clauses := by simp [he]
  obtain hp | ⟨op, children, rfl, rfl⟩ := plain_or_group (ha.of_mem hm)
  · exact unopposed_plain_of_passable ha h hsorted he hp
  · exact unopposed_group_of_passable ha h hsorted he

-- ---------------------------------------------------------------------------
-- One order that stands for all
-- ---------------------------------------------------------------------------

/-- The conjunction first, then the alternatives, then the plain clauses. -/
def groupsFirst : String × Node → Nat
  | (_, .group .and _) => 0
  | (_, .group .or _) => 1
  | _ => 2

/-- With the groups before the plain clauses, everything is compared that is
compared in some order. -/
theorem undisputed_of_merging_nil (hc : caller.WellFormed) (ha : access.WellFormed)
    (hsorted : access.clauses.Pairwise fun a b => groupsFirst a ≤ groupsFirst b)
    (h : (merging caller access).conflicts = []) : Undisputed caller access where
  toCompatible := compatible_of_merging_nil hc ha h
  own clause hm op hjoins := by
    have hunopposed := (merging_eq_nil_iff hc ha).mp h
    obtain ⟨hm, hp⟩ := mem_fields.mp hm
    cases hg : access.group? op with
    | none => simp [childrenOf_of_none hg]
    | some children =>
      obtain ⟨earlier, later, he⟩ := List.append_of_mem hm
      have hlast : groupsFirst clause = 2 := by
        obtain ⟨key, node⟩ := clause
        cases node with
        | group => cases hp
        | _ => rfl
      have hbefore := mem_earlier_of_lt hsorted he ((group?_eq_some_iff_mem ha.keyed).mp hg) (by
        rw [hlast]
        cases op
        · exact Nat.two_pos
        · exact Nat.one_lt_two)
      rw [childrenOf_of_group? hg]
      exact ((unopposed_plain hp).mp (hunopposed _ _ _ he)).2.2 op children hbefore hjoins
  conjunction hnone clause hm := by
    obtain ⟨hm, hp⟩ := mem_fields.mp hm
    intro hcontra
    have hg := group?_childrenOf hcontra.ne_nil
    obtain ⟨earlier, later, he⟩ := List.append_of_mem ((group?_eq_some_iff_mem ha.keyed).mp hg)
    have hlacks : Lacks caller earlier .and := by
      refine ⟨hnone, fun _ own others _ hm => ?_⟩
      exact absurd (rank_le_of_mem_earlier hsorted he hm) (Nat.not_succ_le_zero 0)
    have hstanding := ((merging_eq_nil_iff hc ha).mp h _ _ _ he).2 hlacks
    exact hstanding _ _ hp (.inl (get?_of_mem hc.keyed hm)) hcontra

/-- All orders of an access-control query decide alike, unless some order lets
the caller's query pass and another finds something against it. -/
theorem merging_decides_alike_iff (hc : caller.WellFormed) (ha : access.WellFormed) :
    (∀ other, Alike other access →
        ((merging caller other).conflicts = [] ↔ (merging caller access).conflicts = [])) ↔
      (Passable caller access → Undisputed caller access) := by
  constructor
  · intro halike hpass
    let passing := passingRank caller (access.childrenOf .and)
    have hlike := arranged_alike ha passing
    have hchildren : (access.arranged passing).childrenOf .and = access.childrenOf .and := by
      rw [childrenOf, childrenOf, arranged_group? ha]
    have hpasses := merging_nil_of_passable hc hlike.left (hpass.of_alike hlike.symm) (by
      rw [hchildren]
      exact arranged_sorted access passing)
    have hfirst := arranged_alike ha groupsFirst
    have hsilent := (halike _ hfirst).mpr ((halike _ hlike).mp hpasses)
    exact (undisputed_of_merging_nil hc hfirst.left (arranged_sorted ..) hsilent).of_alike hfirst
  · intro h other hlike
    constructor
    · intro hsilent
      have hpass := (passable_of_merging_nil hc hlike.left hsilent).of_alike hlike
      exact merging_nil_of_undisputed hc ha (h hpass)
    · intro hsilent
      have hall := h (passable_of_merging_nil hc ha hsilent)
      exact merging_nil_of_undisputed hc hlike.left (hall.of_alike hlike.symm)

-- ---------------------------------------------------------------------------
-- Whether a conflict is reported
-- ---------------------------------------------------------------------------

theorem undisputed_of_same (hlike : Alike caller access) (h : Compatible caller access) :
    Undisputed caller access where
  toCompatible := h
  own clause hm op _ := hlike.agrees.mp (h.grouped clause hm op)
  conjunction hnone _ _ := not_contradicts_of_group?_none (hlike.group?_none hnone)

theorem mergeInto_hasConflicts : (mergeInto (some caller) access).1.hasConflicts = false ↔
    caller.same access = true ∨ (merging caller access).conflicts = [] := by
  rcases mergeInto_cases caller access with ⟨hsame, he⟩ | ⟨hnone, -, he⟩ | he
  · rw [he]
    exact iff_of_true rfl (.inl hsame)
  · rw [he]
    exact iff_of_true rfl (.inr hnone)
  · rw [he]
    simp only [MergeOutcome.hasConflicts, MergeOutcome.conflicts, Bool.not_eq_false',
      List.isEmpty_iff, iff_or_self]
    intro hsame
    rw [mergeInto, if_pos hsame] at he
    cases he

theorem mergeInto_decides_alike_iff (hc : caller.WellFormed) (ha : access.WellFormed) :
    (∀ other, Alike other access → (mergeInto (some caller) other).1.hasConflicts =
        (mergeInto (some caller) access).1.hasConflicts) ↔
      (Passable caller access → Undisputed caller access) := by
  by_cases hsame : caller.same access = true
  · have hlike : Alike caller access := ⟨hc, ha, hsame⟩
    refine iff_of_true (fun other hother => ?_) fun h => undisputed_of_same hlike h.toCompatible
    rw [mergeInto_hasConflicts.mpr (.inl hsame),
      mergeInto_hasConflicts.mpr (.inl (same_trans hsame hother.symm.same))]
  · rw [← merging_decides_alike_iff hc ha]
    refine forall_congr' fun other => imp_congr_right fun hother => ?_
    have hunlike : ¬caller.same other = true := fun h => hsame (same_trans h hother.same)
    rw [← mergeInto_hasConflicts.trans (or_iff_right hunlike),
      ← mergeInto_hasConflicts.trans (or_iff_right hsame), Bool.eq_false_iff, Bool.eq_false_iff,
      not_iff_not, Bool.eq_iff_iff]

theorem Alike.arrayClause?_eq_none (h : Alike other access) (hnone : access.arrayClause? = none) :
    other.arrayClause? = none := by
  rw [arrayClause?, List.findSome?_eq_none_iff] at hnone ⊢
  intro clause hm
  obtain ⟨own, hown, hlike, -⟩ := h.symm.exists_like hm
  have harray := hnone _ hown
  obtain ⟨key, node⟩ := clause
  cases node with
  | literal value =>
    cases value with
    | array items =>
      cases own with
      | literal value =>
        cases value with
        | array => cases harray
        | _ => simp [Json.same] at hlike
      | _ => simp [Node.same] at hlike
    | _ => rfl
  | _ => rfl

end

end Query

/-- Whether a conflict is reported is the same for all orders of the gathered
query, exactly unless some order lets the caller's query pass and some other
does not. -/
theorem RequestContext.merge_decision_iff {ctx after : RequestContext} {outcome : MergeOutcome}
    {access caller : Query} (ha : access.WellFormed) (hc : caller.WellFormed)
    (haccess : ctx.accessQuery = some access) (hcaller : ctx.query = some caller)
    (h : ctx.merge = .ok (outcome, after)) :
    (∀ other : Query, other.WellFormed → other.same access = true →
      ∃ outcome' after', { ctx with accessQuery := some other }.merge = .ok (outcome', after') ∧
        outcome'.hasConflicts = outcome.hasConflicts) ↔
      (Passable caller access → Undisputed caller access) := by
  obtain ⟨rfl, -⟩ := RequestContext.merge_eq_ok haccess h
  have harray : access.arrayClause? = none := by
    simp only [merge, haccess] at h
    split at h
    · cases h
    · assumption
  rw [hcaller, ← mergeInto_decides_alike_iff hc ha]
  constructor
  · intro halike other hlike
    obtain ⟨outcome, after, hmerge, he⟩ := halike other hlike.left hlike.same
    obtain ⟨rfl, -⟩ := RequestContext.merge_eq_ok rfl hmerge
    exact he
  · intro halike other hother hsame
    have hlike : Alike other access := ⟨hother, ha, hsame⟩
    have hmerge : { ctx with accessQuery := some other }.merge =
        .ok ((mergeInto ctx.query other).1,
          { ctx with accessQuery := some other, query := some (mergeInto ctx.query other).2 }) := by
      simp only [merge, hlike.arrayClause?_eq_none harray]
    rw [hcaller] at hmerge
    exact ⟨_, _, hmerge, halike other hlike⟩

theorem RequestContext.merge_decision_disjoint :
    ∃ outcome after, (RequestContext.ofQueries
        ((ofField "status" .null).insertGroup .or [ofField "owner" .null, ofField "public" .null])
        (ofField "team" .null)).merge = .ok (outcome, after) ∧
      ∀ other : Query, other.WellFormed →
        other.same ((ofField "status" .null).insertGroup .or
          [ofField "owner" .null, ofField "public" .null]) = true →
        ∃ outcome' after', (RequestContext.ofQueries other (ofField "team" .null)).merge =
            .ok (outcome', after') ∧ outcome'.hasConflicts = outcome.hasConflicts := by
  have hstatus : (ofField "status" .null).WellFormed := wellFormed_ofField rfl (by trivial)
  have howner : (ofField "owner" .null).WellFormed := wellFormed_ofField rfl (by trivial)
  have hpublic : (ofField "public" .null).WellFormed := wellFormed_ofField rfl (by trivial)
  have hmerge : (RequestContext.ofQueries
      ((ofField "status" .null).insertGroup .or [ofField "owner" .null, ofField "public" .null])
      (ofField "team" .null)).merge = .ok (.merged [], RequestContext.ofQueries
        ((ofField "status" .null).insertGroup .or [ofField "owner" .null, ofField "public" .null])
        (((ofField "team" .null).put "status" (.literal .null)).insertGroup .or
          [ofField "owner" .null, ofField "public" .null])) := by
    cbv
  refine ⟨_, _, hmerge, (RequestContext.merge_decision_iff
    (hstatus.insertGroup (by simp [howner, hpublic])) (wellFormed_ofField rfl (by trivial))
    rfl rfl hmerge).mpr fun _ => ?_⟩
  have hfield : ∀ clause ∈ ((ofField "status" .null).insertGroup .or
      [ofField "owner" .null, ofField "public" .null]).fields,
      clause = ("status", Node.literal .null) := fun clause hm => List.mem_singleton.mp hm
  have hteam : ∀ clause ∈ (ofField "team" .null).fields, clause = ("team", Node.literal .null) :=
    fun clause hm => List.mem_singleton.mp hm
  refine ⟨⟨?_, ?_, ?_, ?_⟩, ?_, ?_⟩
  · intro clause hm own hown
    obtain rfl := hfield clause hm
    cases hown
  · intro clause hm op own hown
    cases op <;> cases hown
  · rintro op field node hm hp ⟨hne, -⟩
    cases op <;> exact hne rfl
  · rintro - clause hm ⟨hne, -⟩
    obtain rfl := hteam clause hm
    exact hne rfl
  · intro clause hm op _ own hown
    obtain rfl := hfield clause hm
    cases op <;> cases hown
  · rintro - clause hm ⟨hne, -⟩
    exact hne rfl

/-- Alternatives that come first leave the caller with a conjunction, and then
the access-control query's is not compared with the caller's top-level clauses. -/
theorem RequestContext.merge_decision_depends_on_order :
    ((alternatives [ofField "b" .null]).insertGroup .and [ofField "status" (.string "active")]).same
        ((empty.insertGroup .and [ofField "status" (.string "active")]).insertGroup .or
          [ofField "b" .null]) = true ∧
      (∃ after, (RequestContext.ofQueries
          ((alternatives [ofField "b" .null]).insertGroup .and
            [ofField "status" (.string "active")])
          ((alternatives [ofField "a" .null]).put "status" (.literal (.string "closed")))).merge =
            .ok (.merged [], after)) ∧
      ∃ after, (RequestContext.ofQueries
          ((empty.insertGroup .and [ofField "status" (.string "active")]).insertGroup .or
            [ofField "b" .null])
          ((alternatives [ofField "a" .null]).put "status" (.literal (.string "closed")))).merge =
            .ok (.merged [⟨"status", .topLevel, .literal (.string "closed"),
              .literal (.string "active"), true⟩], after) :=
  ⟨by cbv, ⟨_, by cbv⟩, ⟨_, by cbv⟩⟩

end QueryGuard
