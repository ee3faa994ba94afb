import QueryGuard.Proofs.Repetition

/-!
# Whose clauses a conflict is about

The enforced clause of a conflict is one of the access-control query's, and the
requested one is another clause for the field at the reported place. It need not
be the caller's: clauses are compared with the query built so far, and that has
clauses of the access-control query too. `MeetsOwn` says when these differ from
one another where they meet, and `merge_blames_iff` that exactly then some
conflict is not about the caller.
-/

namespace QueryGuard

open Query

namespace Query

/-- What a query holds for a field at a place. -/
def heldAt (q : Query) (field : String) : Conflict.Location → List Node
  | .topLevel => (q.get? field).toList
  | .logical op => named (q.childrenOf op) field

/-- What holds of every conflict: two clauses for a field that differ, the
enforced one of the access-control query, the requested one of either side. -/
structure Disputes (caller access : Query) (c : Conflict) : Prop where
  enforced : access.Gives c.field c.enforced
  unlike : c.requested.same c.enforced = false
  requested : c.requested.isIn (caller.heldAt c.field c.location) = true ∨
    c.requested.isIn (access.heldAt c.field c.location) = true

/-- What a conflict tells the caller: the requested clause is one of theirs, and
it is gone where it was overridden. -/
structure Concerns (caller merged : Query) (c : Conflict) : Prop where
  requested : c.requested.isIn (caller.heldAt c.field c.location) = true
  gone : c.overridden = true → c.requested.isIn (merged.heldAt c.field .topLevel) = false

/-- A plain clause that the caller has none like comes to stand at the top level:
the caller's clause for the field is still there, or no conjunction says it by
then. -/
def Stored (caller : Query) (before : List (String × Node)) (field : String)
    (node : Node) : Prop :=
  (∃ own, caller.get? field = some own ∧ ¬Ousted caller before field own) ∨
    ¬caller.Says field node ∧ ¬Says ⟨before⟩ field node

/-- In the query built so far the access-control query meets clauses of its own
that differ. -/
inductive MeetsOwn (caller access : Query) : Prop
  /-- A plain clause meets another one in a group that was merged before it, of
  which the caller's group has none like. -/
  | grouped {earlier later : List (String × Node)} {field : String} {node own : Node}
      {op : Logical} {children : List Query}
      (split : access.clauses = earlier ++ (field, node) :: later) (plain : node.isGroup = false)
      (group : (op.key, .group op children) ∈ earlier) (joins : op = .or → caller.group? .or = none)
      (held : own ∈ named children field) (unlike : own.same node = false)
      (foreign : own.isIn (named (caller.childrenOf op) field) = false)
  /-- A group that meets none contradicts a plain clause that was stored before
  it, and that the caller has none like. -/
  | ousted {before between after : List (String × Node)} {field : String} {node : Node}
      {op : Logical} {children : List Query}
      (split : access.clauses =
        before ++ (field, node) :: (between ++ (op.key, .group op children) :: after))
      (plain : node.isGroup = false)
      (foreign : ∀ own, caller.get? field = some own → own.same node = false)
      (stored : Stored caller before field node)
      (lacks : Lacks caller (before ++ (field, node) :: between) op)
      (contra : Contradicts children field node)

-- ---------------------------------------------------------------------------
-- Places
-- ---------------------------------------------------------------------------

section
variable {q caller access : Query} {earlier later before : List (String × Node)}
  {field key : String} {node own : Node} {op : Logical} {children : List Query} {c : Conflict}

theorem isIn_topLevel : node.isIn (q.heldAt field .topLevel) = true ↔
    ∃ own, q.get? field = some own ∧ node.same own = true := by
  cases hg : q.get? field <;> simp [heldAt, hg, Node.isIn]

theorem isIn_of_get? (hq : q.WellFormed) (h : q.get? field = some node) :
    node.isIn (q.heldAt field .topLevel) = true :=
  isIn_topLevel.mpr ⟨node, h, Node.same_refl (hq.of_mem (mem_of_get? h)).distinct⟩

theorem isIn_of_same {nodes : List Node} (hlike : node.same own = true)
    (h : own.isIn nodes = true) : node.isIn nodes = true := by
  obtain ⟨other, ho, hsame⟩ := List.any_eq_true.mp h
  exact List.any_eq_true.mpr ⟨other, ho, Node.same_trans hlike hsame⟩

theorem Contradicts.unlike (h : Contradicts children field node)
    (hm : own ∈ named children field) : node.same own = false := by
  by_contra hlike
  have hin : node.isIn (named children field) = true :=
    List.any_eq_true.mpr ⟨own, hm, Bool.of_not_eq_false hlike⟩
  simp [h.2] at hin

theorem childrenOf_of_split (ha : access.WellFormed) (he : access.clauses = earlier ++ later)
    (h : node.isIn (named (childrenOf ⟨earlier⟩ op) field) = true) :
    (op.key, .group op (access.childrenOf op)) ∈ earlier ∧
      node.isIn (named (access.childrenOf op) field) = true := by
  have hearlier : (⟨earlier⟩ : Query).WellFormed :=
    ha.of_sublist (he ▸ List.sublist_append_left ..)
  obtain ⟨own, ho, -⟩ := List.any_eq_true.mp h
  have hm := (group?_eq_some_iff_mem hearlier.keyed).mp (group?_childrenOf (ne_nil_of_mem_named ho))
  rw [childrenOf_of_mem ha.keyed (he ▸ List.mem_append_left _ hm)]
  exact ⟨hm, h⟩

theorem merging_stored_iff (hc : caller.WellFormed)
    (ha : (⟨before ++ [(field, node)]⟩ : Query).WellFormed) (hp : node.isGroup = false)
    (hforeign : ∀ own, caller.get? field = some own → own.same node = false) :
    (merging caller ⟨before ++ [(field, node)]⟩).query.get? field = some own ↔
      own = node ∧ Stored caller before field node := by
  obtain ⟨hbefore, hnew⟩ := ha.of_split rfl
  have hn : node.WellFormed field := ha.of_mem (by simp)
  have hf := keyed_plain hn.keyed hp
  have hheld : ∀ {own}, (merging caller ⟨before⟩).query.get? field = some own ↔
      caller.get? field = some own ∧ ¬Ousted caller before field own :=
    merging_get?_of_new hc hbefore hf hnew
  rw [merging_append, mergeClause_plain hp,
    mergeField_get?_iff (merging_wellFormed hc hbefore) hn hp, merging_says_iff hc hbefore hf,
    Option.eq_none_iff_forall_ne_some]
  simp only [ne_eq, hheld, Stored]
  constructor
  · rintro (⟨⟨hcaller, -⟩, hlike⟩ | ⟨rfl, ⟨held, hcaller, -⟩ | ⟨-, hunsaid⟩⟩)
    · simp [hforeign own hcaller] at hlike
    · exact ⟨rfl, .inl ⟨held, hcaller⟩⟩
    · exact ⟨rfl, .inr (not_or.mp hunsaid)⟩
  · rintro ⟨rfl, hstored⟩
    refine .inr ⟨rfl, ?_⟩
    by_cases htop : ∃ held, caller.get? field = some held ∧ ¬Ousted caller before field held
    · obtain ⟨held, hcaller⟩ := htop
      exact .inl ⟨held, hcaller, hforeign held hcaller.1⟩
    · exact .inr ⟨fun held h => htop ⟨held, h⟩, not_or.mpr (hstored.resolve_left htop)⟩

theorem stored_of_get? (hc : caller.WellFormed)
    (ha : (⟨before ++ (field, node) :: later⟩ : Query).WellFormed) (hp : node.isGroup = false)
    (hforeign : ∀ own, caller.get? field = some own → own.same node = false)
    (h : (merging caller ⟨before ++ (field, node) :: later⟩).query.get? field = some own) :
    own = node ∧ Stored caller before field node := by
  have hsplit : before ++ (field, node) :: later = (before ++ [(field, node)]) ++ later := by simp
  obtain ⟨hlater, hnew⟩ := ha.of_rest rfl
  have hfirst : (⟨before ++ [(field, node)]⟩ : Query).WellFormed :=
    ha.of_sublist (hsplit ▸ List.sublist_append_left ..)
  have hf := keyed_plain (hfirst.of_mem (by simp : (field, node) ∈ _)).keyed hp
  rw [hsplit, merging_split] at h
  have hstored := ((merging_get?_of_new (merging_wellFormed hc hfirst) hlater hf hnew).mp h).1
  exact (merging_stored_iff hc hfirst hp hforeign).mp hstored

theorem merging_get?_origin (hc : caller.WellFormed) (ha : access.WellFormed)
    (hf : Logical.ofKey? field = none)
    (h : (merging caller access).query.get? field = some own)
    (hforeign : ¬own.isIn (caller.heldAt field .topLevel) = true) :
    ∃ before after, access.clauses = before ++ (field, own) :: after ∧
      (∀ mine, caller.get? field = some mine → mine.same own = false) ∧
      Stored caller before field own := by
  have hold : field ∈ access.keys := by
    by_contra hnew
    exact hforeign (isIn_of_get? hc ((merging_get?_of_new hc ha hf hnew).mp h).1)
  obtain ⟨node, hg⟩ := Members.exists_get?_of_mem_names hold
  have hm := Members.mem_of_get? hg
  have hp := plain_of_keyed (ha.of_mem hm).keyed hf
  have hlike := merging_top hc ha hm hp own h
  have hunlike : ∀ mine, caller.get? field = some mine → mine.same node = false := by
    intro mine hmine
    rw [Node.same_comm (hc.of_mem (mem_of_get? hmine)).distinct (ha.of_mem hm).distinct]
    by_contra hsame
    have hsame := Node.same_trans hlike (Bool.of_not_eq_false hsame)
    exact hforeign (isIn_topLevel.mpr ⟨mine, hmine, hsame⟩)
  obtain ⟨clauses⟩ := access
  obtain ⟨before, after, rfl⟩ := List.append_of_mem hm
  obtain ⟨rfl, hstored⟩ := stored_of_get? hc ha hp hunlike h
  exact ⟨before, after, rfl, hunlike, hstored⟩

theorem not_contradicts_of_get? (hc : caller.WellFormed) (ha : access.WellFormed)
    (he : access.clauses = earlier ++ (op.key, .group op children) :: later)
    (hlacks : (merging caller ⟨earlier⟩).query.group? op = none)
    (hf : Logical.ofKey? field = none) (hnew : field ∉ Query.keys ⟨later⟩)
    (h : (merging caller access).query.get? field = some own) :
    ¬Contradicts children field own := by
  have hsplit : access = ⟨(earlier ++ [(op.key, .group op children)]) ++ later⟩ := by
    cases access
    simpa using he
  have hn := ha.of_mem (by simp [he] : (op.key, .group op children) ∈ _)
  obtain ⟨found, -, hstep, -, hr⟩ := merging_step hc (ha.of_split he).1 hn
  rw [hsplit, merging_split] at h
  have hkept := ((merging_get?_of_new hr (ha.of_rest he).1 hf hnew).mp h).1
  have hne : field ≠ op.key := by
    rintro rfl
    simp at hf
  have hp := plain_of_keyed (hr.keyed.of_get? hkept) hf
  intro hcontra
  exact ((hstep.get?_plain_iff hf hne hp).mp hkept).2 ⟨op, children, rfl, hlacks, hcontra⟩

-- ---------------------------------------------------------------------------
-- Conflicts of one clause
-- ---------------------------------------------------------------------------

theorem Brings.enforced (ha : access.WellFormed)
    (he : access.clauses = earlier ++ (key, node) :: later) (hq : q.WellFormed)
    (h : Brings q key node c) :
    access.Gives c.field c.enforced ∧ c.requested.same c.enforced = false := by
  have hm : (key, node) ∈ access.clauses := by simp [he]
  have hn := ha.of_mem hm
  cases h with
  | differs _ _ unlike | grouped _ _ _ unlike => exact ⟨.inl (get?_of_mem ha.keyed hm), unlike⟩
  | @overridden op _ _ _ _ children _ _ _ contra first =>
    obtain ⟨rfl, -⟩ := wellFormed_group.mp hn
    have hfirst := List.mem_of_head? first
    refine ⟨.inr ⟨op, ?_⟩, contra.unlike hfirst⟩
    rwa [childrenOf_of_mem ha.keyed hm]
  | @crossed op _ _ node requested children existing group held plain contra first =>
    obtain ⟨rfl, hchildren⟩ := wellFormed_group.mp hn
    refine ⟨.inr ⟨op, ?_⟩, ?_⟩
    · rwa [childrenOf_of_mem ha.keyed hm]
    · have hfirst := List.mem_of_head? first
      rw [Node.same_comm (distinct_of_mem_named (hq.child group) hfirst)
        (distinct_of_mem_named hchildren held)]
      exact contra.unlike hfirst

theorem Brings.requested (hc : caller.WellFormed) (ha : access.WellFormed)
    (he : access.clauses = earlier ++ (key, node) :: later)
    (h : Brings (merging caller ⟨earlier⟩).query key node c) :
    c.requested.isIn (caller.heldAt c.field c.location) = true ∨
      c.requested.isIn (access.heldAt c.field c.location) = true ∧ MeetsOwn caller access := by
  obtain ⟨hearlier, hnew⟩ := ha.of_split he
  have hm : (key, node) ∈ access.clauses := by simp [he]
  have hn := ha.of_mem hm
  have hq := merging_wellFormed hc hearlier
  cases h with
  | differs plain held =>
    have hf := keyed_plain hn.keyed plain
    exact .inl (isIn_of_get? hc ((merging_get?_of_new hc hearlier hf hnew).mp held).1)
  | @grouped _ op _ own existing plain group held unlike =>
    have hf := keyed_plain hn.keyed plain
    have hsaid := isIn_of_mem_named (hq.child group) held
    rw [← childrenOf_of_group? group, merging_isIn_named hc hearlier hf] at hsaid
    by_cases hcaller : own.isIn (named (caller.childrenOf op) key) = true
    · exact .inl hcaller
    · obtain ⟨hjoins, hown⟩ := hsaid.resolve_left hcaller
      obtain ⟨hgroup, hin⟩ := childrenOf_of_split ha he hown
      obtain ⟨other, hother, hlike⟩ := List.any_eq_true.mp hin
      refine .inr ⟨hin, .grouped he plain hgroup hjoins hother ?_ ?_⟩
      · by_contra hsame
        simp [Node.same_trans hlike (Bool.of_not_eq_false hsame)] at unlike
      · by_contra hsame
        exact hcaller (isIn_of_same hlike (Bool.of_not_eq_false hsame))
  | @overridden op _ field own enforced children lacks held plain contra first =>
    obtain ⟨rfl, -⟩ := wellFormed_group.mp hn
    have hf := keyed_plain (hq.keyed.of_get? held) plain
    by_cases hcaller : own.isIn (caller.heldAt field .topLevel) = true
    · exact .inl hcaller
    · -- What stands there and is not the caller's was stored by an earlier clause.
      obtain ⟨before, between, rfl, hforeign, hstored⟩ :=
        merging_get?_origin hc hearlier hf held hcaller
      have hsplit : access.clauses =
          before ++ (field, own) :: (between ++ (op.key, .group op children) :: later) := by
        simp [he]
      have hown := isIn_of_get? ha (get?_of_mem ha.keyed (by simp [hsplit] : (field, own) ∈ _))
      have hlacks := (merging_group?_eq_none_iff hc hearlier op hnew).mp lacks
      exact .inr ⟨hown, .ousted hsplit plain hforeign hstored hlacks contra⟩
  | @crossed op _ field node requested children existing group held plain contra first =>
    obtain ⟨rfl, hchildren⟩ := wellFormed_group.mp hn
    have hf : Logical.ofKey? field = none := by
      obtain ⟨child, hchild, hg⟩ := mem_named.mp held
      exact keyed_plain ((hchildren child hchild).keyed.of_get? hg) plain
    have hsaid := isIn_of_mem_named (hq.child group) (List.mem_of_head? first)
    rw [← childrenOf_of_group? group, merging_isIn_named hc hearlier hf] at hsaid
    -- Before its own group is merged, the access-control query has said nothing in it.
    refine .inl (hsaid.resolve_right ?_)
    rintro ⟨-, hown⟩
    have hgroup := (childrenOf_of_split ha he hown).1
    exact hnew (Members.mem_names hgroup)

theorem Brings.gone (hc : caller.WellFormed) (ha : access.WellFormed)
    (he : access.clauses = earlier ++ (key, node) :: later)
    (h : Brings (merging caller ⟨earlier⟩).query key node c) (hover : c.overridden = true) :
    c.requested.isIn ((merging caller access).query.heldAt c.field .topLevel) = false ∨
      MeetsOwn caller access := by
  obtain ⟨hearlier, hnew⟩ := ha.of_split he
  have hm : (key, node) ∈ access.clauses := by simp [he]
  have hn := ha.of_mem hm
  refine or_iff_not_imp_left.mpr fun hkept => ?_
  obtain ⟨own, hown, hlike⟩ := isIn_topLevel.mp (Bool.of_not_eq_false hkept)
  cases h with
  | grouped | crossed => cases hover
  | differs plain held unlike =>
    have htop := merging_top hc ha hm plain own hown
    simp [Node.same_trans hlike htop] at unlike
  | @overridden op _ field requested enforced children lacks held plain contra first =>
    obtain ⟨rfl, -⟩ := wellFormed_group.mp hn
    have hf := keyed_plain ((merging_wellFormed hc hearlier).keyed.of_get? held) plain
    -- What the group contradicts stays away unless a later clause puts it back.
    have hback : field ∈ Query.keys ⟨later⟩ := by
      by_contra hnew
      exact not_contradicts_of_get? hc ha he lacks hf hnew hown (contra.of_same hlike)
    obtain ⟨hlater, -⟩ := ha.of_rest he
    obtain ⟨node, hg⟩ := Members.exists_get?_of_mem_names hback
    have hmem := Members.mem_of_get? hg
    obtain ⟨between, after, rfl⟩ := List.append_of_mem hmem
    have hnode := plain_of_keyed (hlater.of_mem hmem).keyed hf
    have hlacks := ((merging_group?_eq_none_iff hc hearlier op hnew).mp lacks).1
    have hsplit : access.clauses =
        (earlier ++ (op.key, .group op children) :: between) ++ (field, node) :: after := by
      simp [he]
    have htop := merging_top hc ha (by simp [hsplit] : (field, node) ∈ _) hnode own hown
    have hcontra := contra.of_same (Node.same_trans hlike htop)
    have hfirst := List.mem_of_head? first
    refine .grouped hsplit hnode (by simp) (fun hop => hop ▸ hlacks) hfirst ?_ ?_
    · rw [Node.same_comm (distinct_of_mem_named (wellFormed_group.mp hn).2 hfirst)
        (hlater.of_mem hmem).distinct]
      exact hcontra.unlike hfirst
    · rw [childrenOf_of_none hlacks]
      rfl

-- ---------------------------------------------------------------------------
-- Conflicts of the access-control query with itself
-- ---------------------------------------------------------------------------

theorem merging_finds_grouped (hc : caller.WellFormed) (ha : access.WellFormed)
    (he : access.clauses = earlier ++ (field, node) :: later) (hp : node.isGroup = false)
    (hgroup : (op.key, .group op children) ∈ earlier)
    (hjoins : op = .or → caller.group? .or = none) (hown : own ∈ named children field)
    (hunlike : own.same node = false) :
    ∃ c ∈ (merging caller access).conflicts, c.field = field ∧ c.location = .logical op ∧
      own.same c.requested = true := by
  obtain ⟨hearlier, -⟩ := ha.of_split he
  have hf := keyed_plain (ha.of_mem (by simp [he] : (field, node) ∈ _)).keyed hp
  have hgiven := (group?_eq_some_iff_mem hearlier.keyed).mpr hgroup
  have hsaid : own.isIn (named (childrenOf ⟨earlier⟩ op) field) = true := by
    rw [childrenOf_of_group? hgiven]
    exact isIn_of_mem_named (hearlier.child hgiven) hown
  obtain ⟨other, hother, hlike⟩ :=
    List.any_eq_true.mp ((merging_isIn_named hc hearlier hf).mpr (.inr ⟨hjoins, hsaid⟩))
  have hdiffers : other.same node = false := by
    by_contra hsame
    simp [Node.same_trans hlike (Bool.of_not_eq_false hsame)] at hunlike
  refine ⟨⟨field, .logical op, other, node, false⟩, ?_, rfl, rfl, hlike⟩
  exact (merging_brings_iff hc ha).mpr ⟨earlier, _, later, he,
    .grouped hp (group?_childrenOf (ne_nil_of_mem_named hother)) hother hdiffers⟩

theorem merging_finds_ousted {between after : List (String × Node)} (hc : caller.WellFormed)
    (ha : access.WellFormed) (he : access.clauses =
      before ++ (field, node) :: (between ++ (op.key, .group op children) :: after))
    (hp : node.isGroup = false)
    (hforeign : ∀ own, caller.get? field = some own → own.same node = false)
    (hstored : Stored caller before field node)
    (hlacks : Lacks caller (before ++ (field, node) :: between) op)
    (hcontra : Contradicts children field node) :
    ∃ c ∈ (merging caller access).conflicts, c.field = field ∧ c.location = .topLevel ∧
      c.requested = node := by
  have hsplit : access = ⟨(before ++ [(field, node)]) ++
      (between ++ (op.key, .group op children) :: after)⟩ := by
    cases access
    simpa using he
  subst hsplit
  have hf := keyed_plain (ha.of_mem (by simp : (field, node) ∈ _)).keyed hp
  have hfirst : (⟨before ++ [(field, node)]⟩ : Query).WellFormed :=
    ha.of_sublist (List.sublist_append_left ..)
  obtain ⟨hrest, hnew⟩ := ha.of_rest he
  have hq := merging_wellFormed hc hfirst
  have hheld := (merging_stored_iff hc hfirst hp hforeign).mpr ⟨rfl, hstored⟩
  -- The group meets none in what is left to merge either.
  have hlacks : Lacks (merging caller ⟨before ++ [(field, node)]⟩).query between op := by
    obtain ⟨hbetween, hkey⟩ := hrest.of_split rfl
    obtain ⟨hall, hkeyall⟩ := ha.of_split (he.trans (List.append_assoc _ (_ :: between) _).symm)
    have hnone := (merging_group?_eq_none_iff hc hall op hkeyall).mpr hlacks
    rw [List.append_cons, merging_split] at hnone
    exact (merging_group?_eq_none_iff hq hbetween op hkey).mp hnone
  obtain ⟨c, hm, hc⟩ := merging_ousted hq hrest hf hnew hheld
    ⟨between, op, children, after, rfl, hlacks, hcontra⟩
  refine ⟨c, ?_, hc⟩
  rw [merging_split]
  exact List.mem_append_right _ hm

theorem not_blamed_of_meetsOwn (hc : caller.WellFormed) (ha : access.WellFormed)
    (h : MeetsOwn caller access) : ∃ c ∈ (merging caller access).conflicts,
      c.requested.isIn (caller.heldAt c.field c.location) = false := by
  cases h with
  | grouped split plain group joins held unlike foreign =>
    obtain ⟨c, hm, rfl, hat, hlike⟩ :=
      merging_finds_grouped hc ha split plain group joins held unlike
    refine ⟨c, hm, ?_⟩
    by_contra hin
    rw [hat] at hin
    have hown := isIn_of_same hlike (Bool.of_not_eq_false hin)
    rw [heldAt, foreign] at hown
    cases hown
  | ousted split plain foreign stored lacks contra =>
    obtain ⟨c, hm, rfl, hat, rfl⟩ :=
      merging_finds_ousted hc ha split plain foreign stored lacks contra
    refine ⟨c, hm, ?_⟩
    by_contra hin
    rw [hat] at hin
    obtain ⟨own, hown, hlike⟩ := isIn_topLevel.mp (Bool.of_not_eq_false hin)
    have hd := (ha.of_mem (by simp [split] : (c.field, c.requested) ∈ _)).distinct
    rw [Node.same_comm hd (hc.of_mem (mem_of_get? hown)).distinct, foreign own hown] at hlike
    cases hlike

-- ---------------------------------------------------------------------------
-- All conflicts
-- ---------------------------------------------------------------------------

theorem merging_disputes (hc : caller.WellFormed) (ha : access.WellFormed)
    (hm : c ∈ (merging caller access).conflicts) : Disputes caller access c := by
  obtain ⟨earlier, ⟨key, node⟩, later, he, hbrings⟩ := (merging_brings_iff hc ha).mp hm
  obtain ⟨henforced, hunlike⟩ := hbrings.enforced ha he (merging_wellFormed hc (ha.of_split he).1)
  exact ⟨henforced, hunlike, (hbrings.requested hc ha he).imp_right And.left⟩

theorem merging_concerns_iff (hc : caller.WellFormed) (ha : access.WellFormed) :
    (∀ c ∈ (merging caller access).conflicts, Concerns caller (merging caller access).query c) ↔
      ¬MeetsOwn caller access := by
  constructor
  · intro hall hmeets
    obtain ⟨c, hm, hforeign⟩ := not_blamed_of_meetsOwn hc ha hmeets
    simp [(hall c hm).requested] at hforeign
  · intro hpeace c hm
    obtain ⟨earlier, ⟨key, node⟩, later, he, hbrings⟩ := (merging_brings_iff hc ha).mp hm
    exact ⟨(hbrings.requested hc ha he).resolve_right fun h => hpeace h.2,
      fun hover => (hbrings.gone hc ha he hover).resolve_right hpeace⟩

theorem Alike.not_meetsOwn (h : Alike caller access) : ¬MeetsOwn caller access := by
  intro hmeets
  have hgroup : ∀ {op children}, (op.key, Node.group op children) ∈ access.clauses →
      caller.group? op ≠ none := by
    intro op children hm hnone
    have hgiven := (group?_eq_some_iff_mem h.right.keyed).mpr hm
    rw [h.group?_none hnone] at hgiven
    cases hgiven
  -- All groups meet groups, and these say nothing that the caller's do not.
  cases hmeets with
  | @grouped _ _ field _ own op _ split _ group _ held _ foreign =>
    have hm := split ▸ List.mem_append_left _ group
    rw [← childrenOf_of_mem h.right.keyed hm] at held
    have hin := isIn_of_mem_named h.right.childrenOf held
    rw [← h.isIn_named, foreign] at hin
    cases hin
  | @ousted _ _ _ _ _ op children split _ _ _ lacks =>
    have hm : (op.key, Node.group op children) ∈ access.clauses := by simp [split]
    exact hgroup hm lacks.1

theorem Consistent.not_meetsOwn (ha : access.WellFormed) (h : Consistent caller access) :
    ¬MeetsOwn caller access := by
  intro hmeets
  cases hmeets with
  | @grouped _ _ field node _ op children split plain group joins held unlike =>
    have hm : (field, node) ∈ access.clauses := by simp [split]
    have hg : (op.key, Node.group op children) ∈ access.clauses := by simp [split, group]
    rw [← childrenOf_of_mem ha.keyed hg] at held
    simp [h _ (mem_fields.mpr ⟨hm, plain⟩) op joins _ held] at unlike
  | @ousted _ _ _ field node op children split plain _ _ lacks contra =>
    have hm : (field, node) ∈ access.clauses := by simp [split]
    have hg : (op.key, Node.group op children) ∈ access.clauses := by simp [split]
    rw [← childrenOf_of_mem ha.keyed hg] at contra
    have hagrees := h _ (mem_fields.mpr ⟨hm, plain⟩) op fun hop => hop ▸ lacks.1
    exact hagrees.not_contradicts ha.childrenOf (ha.of_mem hm).distinct contra

end

end Query

/-- Every conflict of a merge is a dispute with a clause of the access-control
query. All of them concern the caller exactly unless that query meets clauses of
its own. -/
theorem RequestContext.merge_blames_iff {ctx after : RequestContext} {outcome : MergeOutcome}
    {access caller : Query} (ha : access.WellFormed) (hc : caller.WellFormed)
    (haccess : ctx.accessQuery = some access) (hcaller : ctx.query = some caller)
    (h : ctx.merge = .ok (outcome, after)) :
    ∃ merged, after.query = some merged ∧ (∀ c ∈ outcome.conflicts, Disputes caller access c) ∧
      ((∀ c ∈ outcome.conflicts, Concerns caller merged c) ↔ ¬MeetsOwn caller access) := by
  obtain ⟨rfl, hafter⟩ := RequestContext.merge_eq_ok haccess h
  refine ⟨_, hafter, ?_⟩
  rw [hcaller]
  rcases mergeInto_cases caller access with ⟨hsame, he⟩ | ⟨hnone, -, he⟩ | he
  · rw [he]
    have hpeace : ¬MeetsOwn caller access := Alike.not_meetsOwn ⟨hc, ha, hsame⟩
    simp [MergeOutcome.conflicts, hpeace]
  · rw [he]
    have hpeace := merging_concerns_iff hc ha
    simp only [hnone] at hpeace
    simp [MergeOutcome.conflicts, ← hpeace]
  · rw [he]
    exact ⟨fun c hm => merging_disputes hc ha hm, merging_concerns_iff hc ha⟩

theorem RequestContext.merge_blames_caller :
    ∃ outcome after merged, (RequestContext.ofQueries
        ((empty.insertGroup .and [ofField "status" (.string "active")]).put "team" (.literal .null))
        (ofField "status" (.string "closed"))).merge = .ok (outcome, after) ∧
      outcome.hasConflicts = true ∧ after.query = some merged ∧
      ∀ c ∈ outcome.conflicts, Concerns (ofField "status" (.string "closed")) merged c := by
  have hactive : (ofField "status" (.string "active")).WellFormed :=
    wellFormed_ofField rfl (by trivial)
  have hclosed : (ofField "status" (.string "closed")).WellFormed :=
    wellFormed_ofField rfl (by trivial)
  have haccess : ((empty.insertGroup .and [ofField "status" (.string "active")]).put "team"
      (.literal .null)).WellFormed :=
    (wellFormed_empty.insertGroup (by simp [hactive])).put
      ⟨(rfl : Logical.ofKey? "team" = none), by trivial⟩
  have hmerge : (RequestContext.ofQueries
      ((empty.insertGroup .and [ofField "status" (.string "active")]).put "team" (.literal .null))
      (ofField "status" (.string "closed"))).merge =
        .ok (.merged [⟨"status", .topLevel, .literal (.string "closed"),
            .literal (.string "active"), true⟩],
          RequestContext.ofQueries
            ((empty.insertGroup .and [ofField "status" (.string "active")]).put "team"
              (.literal .null))
            ((empty.insertGroup .and [ofField "status" (.string "active")]).put "team"
              (.literal .null))) := by
    cbv
  obtain ⟨merged, hmerged, -, hiff⟩ := RequestContext.merge_blames_iff
    haccess hclosed rfl rfl hmerge
  refine ⟨_, _, merged, hmerge, rfl, hmerged, hiff.mpr (Consistent.not_meetsOwn haccess ?_)⟩
  intro clause hm op _ own hown
  obtain rfl : clause = ("team", Node.literal .null) := List.mem_singleton.mp hm
  cases op <;> cases hown

/-- A plain clause of the access-control query is compared with its own
conjunction, whose clause is reported as the caller's. -/
theorem RequestContext.merge_blames_own :
    ∃ after, (RequestContext.ofQueries
        ((empty.insertGroup .and [ofField "status" (.string "y")]).put "status"
          (.literal (.string "x"))) empty).merge =
        .ok (.merged [⟨"status", .logical .and, .literal (.string "y"), .literal (.string "x"),
          false⟩], after) ∧
      empty.heldAt "status" (.logical .and) = [] :=
  ⟨_, by cbv, by cbv⟩

end QueryGuard
