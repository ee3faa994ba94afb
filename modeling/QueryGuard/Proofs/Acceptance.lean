import QueryGuard.Proofs.Clauses

/-!
# The grammar of policy queries

A policy may apply a comparison to a map of fields or to the field around it, and
nothing else may stand under an operator key. `lower?_ok_iff` says that exactly the
fragments that keep to these rules are lowered.
-/

namespace QueryGuard

section
variable {ε α β : Type} {x : Except ε α} {f : α → Except ε β} {a : α}

theorem exists_bind_ok : (∃ b, x >>= f = .ok b) ↔ ∃ a, x = .ok a ∧ ∃ b, f a = .ok b := by
  simp only [bind_ok]
  rw [exists_comm]
  simp only [exists_and_left]

theorem exists_pure_ok : ∃ b, (pure a : Except ε α) = .ok b := ⟨a, rfl⟩

end

/-- What the grammar of policies asks of a clause. -/
structure PolicyClause (scope : Scope) (key : String) (node : Node) : Prop where
  /-- An operator key spells an operator. -/
  known : Key.isOperator key = true →
    (∃ op : Logical, key ∈ op.spellings) ∨ ∃ op : Comparison, key ∈ op.spellings
  /-- A comparison that is not applied to a map belongs to a field. -/
  attached : ∀ op : Comparison, key ∈ op.spellings → node.asConstraint? = none → scope = .field
  /-- The map that a comparison is applied to has fields only. -/
  mapped : scope = .operand → Key.isOperator key = false
  /-- Elsewhere a field is compared with a single value. -/
  single : scope ≠ .operand → Key.isOperator key = false → ∀ items, node ≠ .literal (.array items)

namespace PolicyClause

section
variable {scope : Scope} {key : String} {node : Node} {value : Json} {inner : Query} {op : Logical}
  {children : List Query}

theorem plain (hk : Key.isOperator key = false)
    (hsingle : scope ≠ .operand → ∀ items, node ≠ .literal (.array items)) :
    PolicyClause scope key node where
  known h := absurd h (by simp [hk])
  attached op hop := absurd (Comparison.isOperator_of_mem_spellings hop) (by simp [hk])
  mapped _ := hk
  single hs _ := hsingle hs

theorem operand_iff : PolicyClause .operand key node ↔ Key.isOperator key = false :=
  ⟨fun h => h.mapped rfl, fun hk => .plain hk fun h => absurd rfl h⟩

theorem comparison_of_known (h : PolicyClause scope key node) (hk : Logical.ofKey? key = none)
    (hoperator : Key.isOperator key = true) : ∃ op : Comparison, key ∈ op.spellings := by
  refine (h.known hoperator).resolve_left ?_
  rintro ⟨op, hop⟩
  exact Logical.not_mem_spellings hk op hop

theorem literal_iff (hk : Logical.ofKey? key = none) (hs : scope ≠ .operand) :
    PolicyClause scope key (.literal value) ↔
      if Key.isOperator key then scope = .field ∧ ∃ op : Comparison, key ∈ op.spellings
      else value.asArray? = none := by
  split
  · next hoperator =>
    constructor
    · intro h
      obtain ⟨op, hop⟩ := h.comparison_of_known hk hoperator
      exact ⟨h.attached op hop rfl, op, hop⟩
    · rintro ⟨hfield, hop⟩
      exact ⟨fun _ => .inr hop, fun _ _ _ => hfield, fun h => absurd h hs,
        fun _ h => absurd hoperator (by simp [h])⟩
  · next hplain =>
    have hplain : Key.isOperator key = false := by simpa using hplain
    constructor
    · exact fun h => Json.asArray?_eq_none_iff.mpr fun items he =>
        h.single hs hplain items (he ▸ rfl)
    · exact fun hvalue => .plain hplain fun _ items he =>
        Json.asArray?_eq_none_iff.mp hvalue items (Node.literal.inj he)

theorem constraint_iff (hk : Logical.ofKey? key = none) (hs : scope ≠ .operand) :
    PolicyClause scope key (.constraint inner) ↔
      (Key.isOperator key = true → ∃ op : Comparison, key ∈ op.spellings) := by
  refine ⟨fun h => h.comparison_of_known hk, fun h => ?_⟩
  exact ⟨fun hoperator => .inr (h hoperator), fun _ _ => nofun, fun h => absurd h hs,
    fun _ _ _ => nofun⟩

theorem group (hs : scope ≠ .operand) : PolicyClause scope op.key (.group op children) := by
  refine ⟨fun _ => .inl ⟨op, ?_⟩, fun other hother => ?_, fun h => absurd h hs, fun _ _ _ => nofun⟩
  · exact Logical.ofKey?_eq_some_iff.mp (Logical.ofKey?_key op)
  · exact absurd hother (other.not_mem_spellings op)

end

end PolicyClause

namespace Query

theorem distribute_ok_iff (op : Comparison) (written : String) :
    (∀ q : Query, q.Keyed → ∀ target,
      (∃ result, distribute op written q.clauses target = .ok result) ↔
        q.Throughout PolicyClause .operand) ∧
    ∀ n : Node, ∀ key, n.Keyed key → Key.isOperator key = false →
      ((∃ nested, distributeNode op written n = .ok nested) ↔
        n.Throughout PolicyClause .operand key) := by
  refine induct (fun value key hn hk => ?_) (fun q ih key hn hk => ?_)
    (fun op children _ key hn hk => ?_) fun clauses ih hq target => ?_
  · simp [distributeNode, throughout_literal, PolicyClause.operand_iff, hk]
  · obtain ⟨fields⟩ := q
    rw [distributeNode, ih hn.2 empty, throughout_constraint, PolicyClause.operand_iff,
      Scope.below_operand, and_iff_right hk]
  · obtain ⟨rfl, -⟩ := keyed_group.mp hn
    exact absurd op.head?_key (Key.heads_of_plain hk).2
  · induction clauses generalizing target with
    | nil => simp [distribute, throughout_iff]
    | cons clause rest ihrest =>
      obtain ⟨field, node⟩ := clause
      obtain ⟨hnode, hnodes⟩ := List.forall_mem_cons.mp ih
      obtain ⟨hn, -, hrest⟩ := keyed_cons.mp hq
      rw [distribute, throughout_cons]
      cases hfield : Key.isOperator field with
      | true =>
        refine iff_of_false (by simp) fun h => ?_
        have hplain := PolicyClause.operand_iff.mp h.1.1
        simp [hfield] at hplain
      | false =>
        simp only [Bool.false_eq_true, if_false, exists_bind_ok, ihrest hnodes hrest,
          exists_and_right]
        rw [hnode field hn hfield]

theorem lowerLiteral_ok_iff {inField : Bool} {key : String} {value : Json} {target : Query} :
    (∃ result, lowerLiteral inField key value target = .ok result) ↔
      if Key.isOperator key then
        Scope.ofField inField = .field ∧ ∃ op : Comparison, key ∈ op.spellings
      else value.asArray? = none := by
  unfold lowerLiteral
  split
  · simp only [exists_bind_ok, Comparison.comparisonOf_ok]
    cases inField with
    | false => simp [Scope.ofField]
    | true => simp [Scope.ofField, exists_pure_ok]
  · cases value <;> simp [Json.asArray?]

theorem lowerAll_ok_iff {children : List Query}
    (h : ∀ child ∈ children, (∃ result, lowerClauses false child.clauses empty = .ok result) ↔
      child.Throughout PolicyClause .outside) :
    (∃ lowered, lowerAll children = .ok lowered) ↔
      ∀ child ∈ children, child.Throughout PolicyClause .outside := by
  induction children with
  | nil => simp [lowerAll]
  | cons child rest ih =>
    obtain ⟨hchild, hrest⟩ := List.forall_mem_cons.mp h
    rw [List.forall_mem_cons, ← hchild, ← ih hrest]
    obtain ⟨clauses⟩ := child
    simp only [lowerAll, exists_bind_ok, exists_pure_ok, and_true, exists_and_right]

/-- Lowering succeeds exactly in the grammar of policies. -/
theorem lowering_ok_iff :
    (∀ q : Query, q.Keyed → ∀ inField target,
      (∃ result, lowerClauses inField q.clauses target = .ok result) ↔
        q.Throughout PolicyClause (.ofField inField)) ∧
    ∀ n : Node, ∀ key, n.Keyed key → ∀ inField target,
      (∃ result, lowerNode inField key n target = .ok result) ↔
        n.Throughout PolicyClause (.ofField inField) key := by
  refine induct (fun value key hn inField target => ?_) (fun q ih key hn inField target => ?_)
    (fun op children ih key hn inField target => ?_) fun clauses ih hq inField target => ?_
  · rw [throughout_literal, PolicyClause.literal_iff hn Scope.ofField_ne_operand]
    exact lowerLiteral_ok_iff
  · obtain ⟨inner⟩ := q
    rw [throughout_constraint, PolicyClause.constraint_iff hn.1 Scope.ofField_ne_operand, lowerNode]
    split
    · next hoperator =>
      have hfields (op : Comparison) := (distribute_ok_iff op key).1 ⟨inner⟩ hn.2 empty
      simp only [Scope.below_operator hoperator, hoperator, forall_const, exists_bind_ok,
        exists_pure_ok, and_true, Comparison.comparisonOf_ok, hfields, exists_and_right]
    · next hplain =>
      have hplain : Key.isOperator key = false := by simpa using hplain
      have hfields : (∃ nested, lowerClauses true inner empty = .ok nested) ↔
          (⟨inner⟩ : Query).Throughout PolicyClause .field := ih hn.2 true empty
      rw [Scope.below_field hplain Scope.ofField_ne_operand, and_iff_right (by simp [hplain])]
      simpa only [exists_bind_ok, exists_pure_ok, and_true] using hfields
  · obtain ⟨rfl, hkeyed⟩ := keyed_group.mp hn
    have hall := lowerAll_ok_iff fun child hc => ih child hc (hkeyed child hc) false empty
    rw [throughout_group, and_iff_right (PolicyClause.group Scope.ofField_ne_operand), ← hall]
    simp only [lowerNode, exists_bind_ok, exists_pure_ok, and_true]
  · induction clauses generalizing target with
    | nil => simp [lowerClauses, throughout_iff]
    | cons clause rest ihrest =>
      obtain ⟨key, node⟩ := clause
      obtain ⟨hnode, hnodes⟩ := List.forall_mem_cons.mp ih
      obtain ⟨hn, -, hrest⟩ := keyed_cons.mp hq
      simp only [lowerClauses, exists_bind_ok, ihrest hnodes hrest, exists_and_right,
        hnode key hn, throughout_cons]

end Query

/-- The fragments that can be lowered: null, and those that are read to a query in the
grammar of policies. -/
theorem Json.lower?_ok_iff {fragment : Json} : (∃ lowered, fragment.lower? = .ok lowered) ↔
    fragment = .null ∨ ∃ q, Query.ofJson fragment = .ok q ∧
      ∀ scope key node, q.Has .outside scope key node → PolicyClause scope key node := by
  have hquery : (∃ lowered, fragment.lower? = .ok (some lowered)) ↔
      ∃ q, Query.ofJson fragment = .ok q ∧ q.Throughout PolicyClause .outside := by
    simp only [lower?_eq_some_iff]
    rw [exists_comm]
    refine exists_congr fun q => ?_
    rw [exists_and_left]
    refine and_congr_right fun hread => ?_
    exact Query.lowering_ok_iff.1 q (Query.ofJson_well hread).1 false Query.empty
  rw [Option.exists, lower?_eq_none_iff, hquery]
  rfl

end QueryGuard
