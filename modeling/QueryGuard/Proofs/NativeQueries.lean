import QueryGuard.Proofs.Clauses

/-!
# Native queries

Lowering gives queries in a grammar of their own (`NativeClause`): no operator stands
above fields, and none is spelt as policies spell it. Such a query is lowered to
itself, whatever it came from.
-/

namespace QueryGuard

/-- The clauses of native queries: groups, comparisons inside a field, and fields with
one operand or a constraint. -/
inductive NativeClause : Scope → String → Node → Prop where
  | group {scope : Scope} (op : Logical) (children : List Query) :
      NativeClause scope op.key (.group op children)
  | comparison (op : Comparison) (value : Json) : NativeClause .field op.key (.literal value)
  | operand {scope : Scope} {key : String} {value : Json} (plain : Key.isOperator key = false)
      (single : value.asArray? = none) : NativeClause scope key (.literal value)
  | constraint {scope : Scope} {key : String} (inner : Query) (plain : Key.isOperator key = false) :
      NativeClause scope key (.constraint inner)

namespace NativeClause

variable {scope : Scope} {key : String} {value : Json} {inner : Query} {op : Logical}
  {children : List Query}

theorem literal_iff : NativeClause scope key (.literal value) ↔
    (scope = .field ∧ ∃ op : Comparison, key = op.key) ∨
      Key.isOperator key = false ∧ value.asArray? = none := by
  constructor
  · rintro (_ | ⟨op, -⟩ | ⟨plain, single⟩)
    · exact .inl ⟨rfl, op, rfl⟩
    · exact .inr ⟨plain, single⟩
  · rintro (⟨rfl, op, rfl⟩ | ⟨plain, single⟩)
    · exact .comparison op value
    · exact .operand plain single

theorem constraint_iff :
    NativeClause scope key (.constraint inner) ↔ Key.isOperator key = false :=
  ⟨fun h => by cases h; assumption, .constraint inner⟩

theorem group_iff : NativeClause scope key (.group op children) ↔ key = op.key := by
  constructor
  · rintro ⟨⟩
    rfl
  · rintro rfl
    exact .group op children

end NativeClause

namespace Query

/-- The query is in the native grammar where it stands. -/
abbrev Native (q : Query) (scope : Scope) : Prop := q.Throughout NativeClause scope

-- ---------------------------------------------------------------------------
-- What lowering gives
-- ---------------------------------------------------------------------------

section
variable {target result nested : Query} {scope : Scope} {key : String} {value : Json}
  {inField : Bool}

theorem native_merge :
    (∀ q : Query, ∀ scope target, q.Native scope → target.Native scope →
      (mergeClauses q.clauses target).Native scope) ∧
    ∀ n : Node, ∀ key scope target, n.Throughout NativeClause scope key → target.Native scope →
      (mergeNode key n target).Native scope := by
  refine induct (fun value key scope target hn ht => ?_) (fun q ih key scope target hn ht => ?_)
    (fun op children _ key scope target hn ht => ?_) fun clauses ih scope target hq ht => ?_
  · exact ht.put hn
  · obtain ⟨inner⟩ := q
    obtain ⟨hclause, hinner⟩ := throughout_constraint.mp hn
    rw [mergeNode]
    split
    · next existing hheld =>
      have hexisting := (throughout_constraint.mp (ht.of_get? hheld)).2
      have hplain := NativeClause.constraint_iff.mp hclause
      exact ht.put (throughout_constraint.mpr ⟨.constraint _ hplain, ih _ _ hinner hexisting⟩)
    · exact ht.put hn
  · obtain ⟨hclause, -⟩ := throughout_group.mp hn
    obtain rfl := NativeClause.group_iff.mp hclause
    exact ht.put hn
  · induction clauses generalizing target with
    | nil => exact ht
    | cons clause rest ihrest =>
      obtain ⟨key, node⟩ := clause
      obtain ⟨hnode, hnodes⟩ := List.forall_mem_cons.mp ih
      obtain ⟨hn, hrest⟩ := throughout_cons.mp hq
      exact ihrest hnodes _ hrest (hnode key scope target hn ht)

theorem Native.mergeField (ht : target.Native scope) (hk : Key.isOperator key = false)
    (hs : scope ≠ .operand) (hn : nested.Native .field) :
    (mergeNode key (.constraint nested) target).Native scope := by
  refine native_merge.2 _ key scope target (throughout_constraint.mpr ⟨.constraint _ hk, ?_⟩) ht
  rwa [Scope.below_field hk hs]

theorem native_distribute (op : Comparison) (written : String) :
    (∀ q : Query, ∀ scope target result, scope ≠ .operand →
      distribute op written q.clauses target = .ok result → target.Native scope →
      result.Native scope) ∧
    ∀ n : Node, ∀ nested, distributeNode op written n = .ok nested → nested.Native .field := by
  refine induct (fun value nested h => ?_) (fun q ih nested h => ?_)
    (fun op children _ nested h => ?_) fun clauses ih scope target result hs h ht => ?_
  · cases h
    exact throughout_cons.mpr ⟨throughout_literal.mpr (.comparison op value), throughout_empty⟩
  · obtain ⟨fields⟩ := q
    exact ih .field empty nested (by decide) h throughout_empty
  · cases h
  · induction clauses generalizing target with
    | nil =>
      cases h
      exact ht
    | cons clause rest ihrest =>
      obtain ⟨field, node⟩ := clause
      obtain ⟨hnode, hnodes⟩ := List.forall_mem_cons.mp ih
      rw [distribute] at h
      split at h
      · cases h
      · next hfield =>
        obtain ⟨nested, hnested, h⟩ := bind_ok.mp h
        have hfield : Key.isOperator field = false := by simpa using hfield
        exact ihrest hnodes _ h (ht.mergeField hfield hs (hnode nested hnested))

theorem native_lowerLiteral (h : lowerLiteral inField key value target = .ok result)
    (ht : target.Native (.ofField inField)) : result.Native (.ofField inField) := by
  unfold lowerLiteral at h
  split at h
  · obtain ⟨op, -, h⟩ := bind_ok.mp h
    cases inField with
    | false => cases h
    | true =>
      cases h
      exact ht.put (throughout_literal.mpr (.comparison op value))
  · next hplain =>
    have hplain : Key.isOperator key = false := by simpa using hplain
    split at h
    · cases h
    · next hsingle =>
      cases h
      exact ht.put (throughout_literal.mpr
        (.operand hplain (Json.asArray?_eq_none_iff.mpr hsingle)))

theorem native_lowerAll {children lowered : List Query}
    (hchildren : ∀ child ∈ children, ∀ inField target result,
      lowerClauses inField child.clauses target = .ok result → target.Native (.ofField inField) →
      result.Native (.ofField inField))
    (h : lowerAll children = .ok lowered) : ∀ child ∈ lowered, child.Native .outside := by
  induction children generalizing lowered with
  | nil =>
    cases h
    simp
  | cons child rest ih =>
    obtain ⟨hchild, hrest⟩ := List.forall_mem_cons.mp hchildren
    obtain ⟨clauses⟩ := child
    simp only [lowerAll, bind_ok, pure_ok] at h
    obtain ⟨first, hfirst, others, hothers, rfl⟩ := h
    exact List.forall_mem_cons.mpr
      ⟨hchild false empty first hfirst throughout_empty, ih hrest hothers⟩

theorem native_lowering :
    (∀ q : Query, ∀ inField target result, lowerClauses inField q.clauses target = .ok result →
      target.Native (.ofField inField) → result.Native (.ofField inField)) ∧
    ∀ n : Node, ∀ key inField target result, lowerNode inField key n target = .ok result →
      target.Native (.ofField inField) → result.Native (.ofField inField) := by
  refine induct (fun value key inField target result h ht => ?_)
    (fun q ih key inField target result h ht => ?_)
    (fun op children ih key inField target result h ht => ?_)
    fun clauses ih inField target result h ht => ?_
  · exact native_lowerLiteral h ht
  · obtain ⟨inner⟩ := q
    rw [lowerNode] at h
    split at h
    · simp only [bind_ok, pure_ok] at h
      obtain ⟨op, -, distributed, hd, rfl⟩ := h
      refine native_merge.1 distributed _ target ?_ ht
      exact (native_distribute op key).1 ⟨inner⟩ _ _ _ Scope.ofField_ne_operand hd throughout_empty
    · next hplain =>
      simp only [bind_ok, pure_ok] at h
      obtain ⟨nested, hnested, rfl⟩ := h
      exact ht.mergeField (by simpa using hplain) Scope.ofField_ne_operand
        (ih true empty nested hnested throughout_empty)
  · simp only [lowerNode, bind_ok, pure_ok] at h
    obtain ⟨lowered, hlowered, rfl⟩ := h
    exact ht.put (throughout_group.mpr ⟨.group op lowered, native_lowerAll ih hlowered⟩)
  · induction clauses generalizing target with
    | nil =>
      cases h
      exact ht
    | cons clause rest ihrest =>
      obtain ⟨key, node⟩ := clause
      obtain ⟨hnode, hnodes⟩ := List.forall_mem_cons.mp ih
      obtain ⟨step, hstep, h⟩ := bind_ok.mp h
      exact ihrest hnodes step h (hnode key inField target step hstep ht)

end

-- ---------------------------------------------------------------------------
-- Lowering what is native
-- ---------------------------------------------------------------------------

section
variable {target : Query} {key : String} {value : Json} {inField : Bool}

theorem lowerLiteral_self (h : NativeClause (.ofField inField) key (.literal value)) :
    lowerLiteral inField key value target = .ok (target.put key (.literal value)) := by
  rcases NativeClause.literal_iff.mp h with ⟨hfield, op, rfl⟩ | ⟨hplain, hsingle⟩
  · cases inField with
    | false => cases hfield
    | true =>
      simp only [lowerLiteral, op.isOperator_key, op.comparisonOf_key, if_true]
      rfl
  · cases value <;> simp [lowerLiteral, hplain, Json.asArray?] at hsingle ⊢

theorem lowerAll_self {children : List Query}
    (h : ∀ child ∈ children, lowerClauses false child.clauses empty = .ok ⟨child.clauses⟩) :
    lowerAll children = .ok children := by
  induction children with
  | nil => rfl
  | cons child rest ih =>
    obtain ⟨hchild, hrest⟩ := List.forall_mem_cons.mp h
    obtain ⟨clauses⟩ := child
    rw [lowerAll, hchild, ih hrest]
    rfl

theorem lowering_native :
    (∀ q : Query, ∀ inField target, q.Keyed → q.Native (.ofField inField) →
      (∀ key ∈ Members.names q.clauses, target.get? key = none) →
      lowerClauses inField q.clauses target = .ok ⟨target.clauses ++ q.clauses⟩) ∧
    ∀ n : Node, ∀ key inField target, n.Keyed key →
      n.Throughout NativeClause (.ofField inField) key → target.get? key = none →
      lowerNode inField key n target = .ok (target.put key n) := by
  refine induct (fun value key inField target hk hn hnew => ?_)
    (fun q ih key inField target hk hn hnew => ?_)
    (fun op children ih key inField target hk hn hnew => ?_)
    fun clauses ih inField target hk hq hnew => ?_
  · rw [lowerNode]
    exact lowerLiteral_self (throughout_literal.mp hn)
  · obtain ⟨inner⟩ := q
    obtain ⟨hclause, hinner⟩ := throughout_constraint.mp hn
    have hplain := NativeClause.constraint_iff.mp hclause
    rw [Scope.below_field hplain Scope.ofField_ne_operand] at hinner
    have hnested : lowerClauses true inner empty = .ok ⟨inner⟩ :=
      ih true empty hk.2 hinner fun _ _ => rfl
    simp [lowerNode, hplain, hnested, mergeNode, hnew, bind, Except.bind, pure, Except.pure]
  · obtain ⟨hclause, hchildren⟩ := throughout_group.mp hn
    obtain rfl := NativeClause.group_iff.mp hclause
    have hkeyed := (keyed_group.mp hk).2
    have hlowered : lowerAll children = .ok children := lowerAll_self fun child hc =>
      ih child hc false empty (hkeyed child hc) (hchildren child hc) fun _ _ => rfl
    rw [lowerNode, hlowered]
    rfl
  -- No key of a keyed query stands twice, so each clause is new where it is added.
  · induction clauses generalizing target with
    | nil =>
      cases target
      simp [lowerClauses]
    | cons clause rest ihrest =>
      obtain ⟨key, node⟩ := clause
      obtain ⟨hnode, hnodes⟩ := List.forall_mem_cons.mp ih
      obtain ⟨hn, hrest⟩ := throughout_cons.mp hq
      obtain ⟨hkey, -, hkeyed⟩ := keyed_cons.mp hk
      have hfirst := hnew key (by simp [Members.names])
      have hstep := hnode key inField target hkey hn hfirst
      have hlowered := ihrest hnodes _ hkeyed hrest (hk.unheld_rest hnew)
      simp only [lowerClauses, hstep]
      refine hlowered.trans ?_
      simp [put_of_new (Members.get?_eq_none_iff.mp hfirst)]

end

end Query

-- ---------------------------------------------------------------------------
-- Fragments
-- ---------------------------------------------------------------------------

namespace Json

section
variable {fragment : Json} {q : Query}

theorem native_of_lower? (h : fragment.lower? = .ok (some q)) : q.Keyed ∧ q.Native .outside := by
  obtain ⟨parsed, hread, hlower⟩ := lower?_eq_some_iff.mp h
  refine ⟨(Query.lowering_records.1 parsed (Query.ofJson_well hread).1 false q hlower).1, ?_⟩
  exact Query.native_lowering.1 parsed false Query.empty q hlower Query.throughout_empty

/-- What a fragment is lowered to has no keys in the spelling of policies, and under
every other operator key a group or, inside a field, an operand. No field holds an
array. -/
theorem lower?_native (h : fragment.lower? = .ok (some q)) :
    ∀ scope key node, q.Has .outside scope key node →
      key.toList.head? ≠ some '@' ∧
      (key.toList.head? = some '$' →
        (∃ (op : Logical) (children : List Query), key = op.key ∧ node = .group op children) ∨
          ∃ (op : Comparison) (value : Json), key = op.key ∧ node = .literal value) ∧
      (∀ op : Comparison, key = op.key → scope = .field) ∧
      (key.toList.head? ≠ some '$' → ∀ items, node ≠ .literal (.array items)) := by
  intro scope key node hhas
  cases (native_of_lower? h).2 scope key node hhas with
  | group op children =>
    simp only [op.head?_key]
    refine ⟨by decide, fun _ => .inl ⟨op, children, rfl, rfl⟩, fun other he => ?_, by simp⟩
    exact absurd (he ▸ other.key_mem_spellings) (other.not_mem_spellings op)
  | comparison op value =>
    simp only [op.head?_key]
    exact ⟨by decide, fun _ => .inr ⟨op, value, rfl, rfl⟩, fun _ _ => trivial, by simp⟩
  | operand plain single =>
    obtain ⟨hpolicy, hnative⟩ := Key.heads_of_plain plain
    refine ⟨hpolicy, fun he => absurd he hnative, ?_, ?_⟩
    · rintro op rfl
      exact absurd op.head?_key hnative
    · rintro - items ⟨⟩
      exact asArray?_eq_none_iff.mp single items rfl
  | constraint inner plain =>
    obtain ⟨hpolicy, hnative⟩ := Key.heads_of_plain plain
    refine ⟨hpolicy, fun he => absurd he hnative, ?_, fun _ items => nofun⟩
    rintro op rfl
    exact absurd op.head?_key hnative

theorem lower?_native_alternative :
    let q : Query := .ofClauses [("$or", .group .or
      [.ofClauses [("age", .constraint (.ofField "$gt" (.ofNat 18)))]])]
    (Json.object [("@or", .array [.object [("@gt", .object [("age", .ofNat 18)])]])]).lower? =
        .ok (some q) ∧
      q.Has .outside .field "$gt" (.literal (.ofNat 18)) ∧
      ((∃ (op : Logical) (children : List Query),
          "$gt" = op.key ∧ Node.literal (.ofNat 18) = .group op children) ∨
        ∃ (op : Comparison) (value : Json),
          "$gt" = op.key ∧ Node.literal (.ofNat 18) = .literal value) := by
  intro q
  have hlower : (Json.object [("@or", .array [.object [("@gt", .object
      [("age", .ofNat 18)])]])]).lower? = .ok (some q) := by
    rfl
  have hhas : q.Has .outside .field "$gt" (.literal (.ofNat 18)) :=
    .child List.mem_cons_self List.mem_cons_self
      (.within List.mem_cons_self (.here List.mem_cons_self))
  exact ⟨hlower, hhas, (lower?_native hlower .field "$gt" _ hhas).2.1 (by decide)⟩

/-- A native query is lowered to itself, its keys in their order. -/
theorem lower?_settles (h : fragment.lower? = .ok (some q)) : q.lower = .ok q := by
  obtain ⟨hkeyed, hnative⟩ := native_of_lower? h
  obtain ⟨clauses⟩ := q
  exact Query.lowering_native.1 ⟨clauses⟩ false Query.empty hkeyed hnative fun _ _ => rfl

theorem lower?_settles_range :
    let q : Query := .ofClauses [("age", .constraint
      (.ofClauses [("$gt", .literal (.ofNat 18)), ("$lt", .literal (.ofNat 65))]))]
    (Json.object [("@gt", .object [("age", .ofNat 18)]),
        ("age", .object [("@lt", .ofNat 65)])]).lower? = .ok (some q) ∧ q.lower = .ok q := by
  intro q
  have hlower : (Json.object [("@gt", .object [("age", .ofNat 18)]),
      ("age", .object [("@lt", .ofNat 65)])]).lower? = .ok (some q) := by
    rfl
  exact ⟨hlower, lower?_settles hlower⟩

end

end Json

end QueryGuard
