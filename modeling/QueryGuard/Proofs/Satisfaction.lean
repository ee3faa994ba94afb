import QueryGuard.Proofs.WellFormed

/-!
# Documents that satisfy a query

A document is given by the plain clauses it meets. A query is satisfied when
all its clauses are, a conjunction when all its children are, a disjunction
when one of them is. What a plain clause means is left open: operators, nested
constraints and groups inside them are for whoever reads the plain clause.
-/

namespace QueryGuard

mutual
def Node.Satisfied (meets : String → Node → Prop) (field : String) : Node → Prop
  | .literal value => meets field (.literal value)
  | .constraint query => meets field (.constraint query)
  | .group .and children => Query.SatisfiedAll meets children
  | .group .or children => Query.SatisfiedAny meets children
def Query.Satisfied (meets : String → Node → Prop) : Query → Prop
  | ⟨clauses⟩ => Query.SatisfiedClauses meets clauses
def Query.SatisfiedAll (meets : String → Node → Prop) : List Query → Prop
  | [] => True
  | query :: rest => query.Satisfied meets ∧ Query.SatisfiedAll meets rest
def Query.SatisfiedAny (meets : String → Node → Prop) : List Query → Prop
  | [] => False
  | query :: rest => query.Satisfied meets ∨ Query.SatisfiedAny meets rest
def Query.SatisfiedClauses (meets : String → Node → Prop) : List (String × Node) → Prop
  | [] => True
  | (field, node) :: rest => node.Satisfied meets field ∧ Query.SatisfiedClauses meets rest
end

/-- Nodes that are the same are met by the same documents. Nodes that repeat a
name are no nodes of a query and may be treated in any way. -/
def TreatsAlike (meets : String → Node → Prop) : Prop :=
  ∀ field a b, a.Distinct → b.Distinct → a.same b = true → (meets field a ↔ meets field b)

section
variable {meets : String → Node → Prop}

namespace Query

theorem satisfiedAll_iff {children : List Query} :
    SatisfiedAll meets children ↔ ∀ child ∈ children, child.Satisfied meets := by
  induction children with
  | nil => simp [SatisfiedAll]
  | cons child rest ih => simp [SatisfiedAll, ih]

theorem satisfiedAny_iff {children : List Query} :
    SatisfiedAny meets children ↔ ∃ child ∈ children, child.Satisfied meets := by
  induction children with
  | nil => simp [SatisfiedAny]
  | cons child rest ih => simp [SatisfiedAny, ih]

theorem satisfiedClauses_iff {clauses : List (String × Node)} :
    SatisfiedClauses meets clauses ↔ ∀ clause ∈ clauses, clause.2.Satisfied meets clause.1 := by
  induction clauses with
  | nil => simp [SatisfiedClauses]
  | cons clause rest ih => simp [SatisfiedClauses, ih]

theorem satisfied_iff {q : Query} :
    q.Satisfied meets ↔ ∀ clause ∈ q.clauses, clause.2.Satisfied meets clause.1 := by
  cases q
  simp only [Satisfied, satisfiedClauses_iff]

theorem satisfied_iff_get? {q : Query} (hq : q.Keyed) :
    q.Satisfied meets ↔ ∀ key node, q.get? key = some node → node.Satisfied meets key := by
  rw [satisfied_iff]
  exact ⟨fun h key node hg => h (key, node) (mem_of_get? hg),
    fun h clause hc => h clause.1 clause.2 (get?_of_mem hq hc)⟩

end Query

namespace Node

@[simp] theorem satisfied_and {field : String} {children : List Query} :
    (Node.group .and children).Satisfied meets field ↔
      ∀ child ∈ children, child.Satisfied meets := by
  rw [Satisfied, Query.satisfiedAll_iff]

@[simp] theorem satisfied_or {field : String} {children : List Query} :
    (Node.group .or children).Satisfied meets field ↔
      ∃ child ∈ children, child.Satisfied meets := by
  rw [Satisfied, Query.satisfiedAny_iff]

end Node

-- ---------------------------------------------------------------------------
-- Same queries are satisfied alike
-- ---------------------------------------------------------------------------

theorem Query.satisfied_same_both (ht : TreatsAlike meets) :
    (∀ a : Query, ∀ b, a.Distinct → b.Distinct → a.same b = true →
      b.Satisfied meets → a.Satisfied meets) ∧
    ∀ a : Node, ∀ field b, a.Distinct → b.Distinct → a.same b = true →
      b.Satisfied meets field → a.Satisfied meets field := by
  refine Query.induct (fun v field b ha hb h hs => ?_) (fun q _ field b ha hb h hs => ?_)
    (fun op children ih field b ha hb h hs => ?_) fun clauses ih b ha hb h hs => ?_
  · cases b with
    | literal w => exact (ht field _ _ ha hb h).mpr hs
    | _ => simp [Node.same] at h
  · cases b with
    | constraint r => exact (ht field _ _ ha hb h).mpr hs
    | _ => simp [Node.same] at h
  · cases b with
    | group op' others =>
      obtain ⟨rfl, hlike⟩ := Query.same_group.mp h
      have ha := Query.distinct_group.mp ha
      have hb := Query.distinct_group.mp hb
      have hback : List.Forall₂ (fun b a => b.Satisfied meets → a.Satisfied meets)
          others children :=
        forall₂_symm hlike fun child hc other ho => ih child hc other (ha child hc) (hb other ho)
      cases op with
      | and =>
        rw [Node.satisfied_and] at hs ⊢
        intro child hc
        obtain ⟨other, ho, himp⟩ := exists_of_forall₂_right hback hc
        exact himp (hs other ho)
      | or =>
        rw [Node.satisfied_or] at hs ⊢
        obtain ⟨other, ho, hother⟩ := hs
        obtain ⟨child, hc, himp⟩ := exists_of_forall₂_left hback ho
        exact ⟨child, hc, himp hother⟩
    | _ => simp [Node.same] at h
  · rw [Query.satisfied_iff] at hs ⊢
    intro clause hc
    obtain ⟨hd, hds⟩ := Query.distinct_iff.mp ha
    obtain ⟨hd', hds'⟩ := Query.distinct_iff.mp hb
    obtain ⟨node, hn, hlike⟩ := (Query.same_iff.mp h).2 clause hc
    have hm : (clause.1, node) ∈ b.clauses := Members.mem_of_get? hn
    exact ih clause hc clause.1 node (hds clause hc) (hds' _ hm) hlike (hs _ hm)

theorem Query.satisfied_same {a b : Query} (ht : TreatsAlike meets) (ha : a.Distinct)
    (hb : b.Distinct) (h : a.same b = true) : a.Satisfied meets ↔ b.Satisfied meets :=
  ⟨(Query.satisfied_same_both ht).1 b a hb ha (same_symm ha hb h),
    (Query.satisfied_same_both ht).1 a b ha hb h⟩

theorem Node.satisfied_same {field : String} {a b : Node} (ht : TreatsAlike meets)
    (ha : a.Distinct) (hb : b.Distinct) (h : a.same b = true) :
    a.Satisfied meets field ↔ b.Satisfied meets field :=
  ⟨(Query.satisfied_same_both ht).2 b field a hb ha (same_symm ha hb h),
    (Query.satisfied_same_both ht).2 a field b ha hb h⟩

end

end QueryGuard
