import QueryGuard.Proofs.Grammar
import QueryGuard.Proofs.Lowering

/-!
# The clauses of a query

`Query.Has` finds every clause of a query, at any depth, and tells what encloses it:
nothing, a field, or an operator that is applied to a map of fields. The children of
a group start anew. `Throughout` asks something of all of them.
-/

namespace QueryGuard

-- ---------------------------------------------------------------------------
-- Clauses at any depth
-- ---------------------------------------------------------------------------

/-- What encloses a clause, back to the nearest group. -/
inductive Scope where
  | outside
  | field
  | operand
  deriving DecidableEq

namespace Scope

/-- What encloses the clauses of a constraint under the key. -/
def below (scope : Scope) (key : String) : Scope :=
  if Key.isOperator key || scope = .operand then .operand else .field

/-- The scope of the clauses that are lowered in a field or outside of one. -/
def ofField : Bool → Scope
  | true => .field
  | false => .outside

variable {scope : Scope} {key : String}

theorem below_operator (h : Key.isOperator key = true) : scope.below key = .operand := by
  simp [below, h]

theorem below_operand : Scope.operand.below key = .operand := by
  simp [below]

theorem ofField_ne_operand {inField : Bool} : ofField inField ≠ .operand := by
  cases inField <;> decide

theorem below_field (h : Key.isOperator key = false) (hs : scope ≠ .operand) :
    scope.below key = .field := by
  simp [below, h, hs]

end Scope

/-- The clause stands in the query, at some depth and in the second scope, if the
query itself stands in the first. -/
inductive Query.Has : Query → Scope → Scope → String → Node → Prop where
  | here {q : Query} {scope : Scope} {key : String} {node : Node} (h : (key, node) ∈ q.clauses) :
      Query.Has q scope scope key node
  | within {q inner : Query} {scope own : Scope} {key other : String} {node : Node}
      (h : (key, .constraint inner) ∈ q.clauses)
      (hinner : Query.Has inner (scope.below key) own other node) : Query.Has q scope own other node
  | child {q child : Query} {op : Logical} {children : List Query} {scope own : Scope}
      {key other : String} {node : Node} (h : (key, .group op children) ∈ q.clauses)
      (hc : child ∈ children) (hchild : Query.Has child .outside own other node) :
      Query.Has q scope own other node

/-- What is asked of clauses holds of all clauses of the query. -/
def Query.Throughout (asked : Scope → String → Node → Prop) (q : Query) (scope : Scope) : Prop :=
  ∀ own key node, q.Has scope own key node → asked own key node

/-- The same of one clause and those inside of it. -/
def Node.Throughout (asked : Scope → String → Node → Prop) (node : Node) (scope : Scope)
    (key : String) : Prop :=
  asked scope key node ∧
    match node with
    | .literal _ => True
    | .constraint inner => inner.Throughout asked (scope.below key)
    | .group _ children => ∀ child ∈ children, child.Throughout asked .outside

namespace Query

section
variable {asked : Scope → String → Node → Prop} {q inner : Query} {scope : Scope} {key : String}
  {node : Node} {op : Logical} {children : List Query} {value : Json}

theorem throughout_literal :
    (Node.literal value).Throughout asked scope key ↔ asked scope key (.literal value) :=
  and_iff_left trivial

theorem throughout_constraint : (Node.constraint inner).Throughout asked scope key ↔
    asked scope key (.constraint inner) ∧ inner.Throughout asked (scope.below key) := Iff.rfl

theorem throughout_group : (Node.group op children).Throughout asked scope key ↔
    asked scope key (.group op children) ∧ ∀ child ∈ children, child.Throughout asked .outside :=
  Iff.rfl

theorem throughout_iff : q.Throughout asked scope ↔
    ∀ clause ∈ q.clauses, clause.2.Throughout asked scope clause.1 := by
  constructor
  · rintro h ⟨key, node⟩ hm
    refine ⟨h scope key node (.here hm), ?_⟩
    cases node with
    | literal => trivial
    | constraint inner => exact fun own other node hinner => h own other node (.within hm hinner)
    | group op children =>
      exact fun child hc own other node hchild => h own other node (.child hm hc hchild)
  · intro h own key node hhas
    cases hhas with
    | here hm => exact (h _ hm).1
    | within hm hinner => exact (throughout_constraint.mp (h _ hm)).2 own key node hinner
    | child hm hc hchild => exact (throughout_group.mp (h _ hm)).2 _ hc own key node hchild

theorem throughout_cons {rest : List (String × Node)} :
    (⟨(key, node) :: rest⟩ : Query).Throughout asked scope ↔
      node.Throughout asked scope key ∧ (⟨rest⟩ : Query).Throughout asked scope := by
  simp [throughout_iff]

theorem throughout_empty : empty.Throughout asked scope := by
  simp [throughout_iff, empty]

theorem Throughout.put (hq : q.Throughout asked scope) (hn : node.Throughout asked scope key) :
    (q.put key node).Throughout asked scope := by
  rw [throughout_iff] at hq ⊢
  intro clause hc
  rcases Members.mem_of_mem_put hc with rfl | hc
  · exact hn
  · exact hq clause hc

theorem Throughout.of_get? (hq : q.Throughout asked scope) (h : q.get? key = some node) :
    node.Throughout asked scope key :=
  throughout_iff.mp hq _ (mem_of_get? h)

end

end Query

theorem Json.asArray?_eq_none_iff {value : Json} :
    value.asArray? = none ↔ ∀ items, value ≠ .array items := by
  cases value <;> simp [asArray?]

-- ---------------------------------------------------------------------------
-- Keys that spell operators
-- ---------------------------------------------------------------------------

theorem Key.isOperator_iff {key : String} : Key.isOperator key = true ↔
    key.toList.head? = some '@' ∨ key.toList.head? = some '$' := by
  unfold Key.isOperator
  cases key.toList with
  | nil => simp
  | cons first rest => split <;> simp_all

theorem Key.heads_of_plain {key : String} (h : Key.isOperator key = false) :
    key.toList.head? ≠ some '@' ∧ key.toList.head? ≠ some '$' :=
  not_or.mp (Key.isOperator_iff.not.mp (by simp [h]))

namespace Comparison

/-- The spellings of an operator: that of policies and the native one. -/
def spellings (op : Comparison) : List String := ["@" ++ op.name, op.key]

theorem ofKey?_eq_some_iff {key : String} {op : Comparison} :
    ofKey? key = some op ↔ key ∈ op.spellings := by
  constructor
  · intro h
    obtain ⟨name, hname, hop⟩ := Option.bind_eq_some_iff.mp h
    have hnamed := List.find?_some hop
    simp only [beq_iff_eq] at hnamed
    unfold Key.operatorName? at hname
    split at hname
    · next rest hkey =>
      cases hname
      have hkey : key = "@" ++ op.name := String.toList_injective (by simp [hkey, hnamed])
      simp [spellings, hkey]
    · next rest hkey =>
      cases hname
      have hkey : key = "$" ++ op.name := String.toList_injective (by simp [hkey, hnamed])
      simp [spellings, Comparison.key, hkey]
    · cases hname
  · intro h
    rcases List.mem_pair.mp h with rfl | rfl <;> cases op <;> decide

theorem isOperator_of_mem_spellings {key : String} {op : Comparison} (h : key ∈ op.spellings) :
    Key.isOperator key = true := by
  rcases List.mem_pair.mp h with rfl | rfl <;> cases op <;> decide

theorem key_mem_spellings (op : Comparison) : op.key ∈ op.spellings := by
  simp [spellings]

theorem isOperator_key (op : Comparison) : Key.isOperator op.key = true :=
  isOperator_of_mem_spellings op.key_mem_spellings

theorem head?_key (op : Comparison) : op.key.toList.head? = some '$' := by
  cases op <;> decide

theorem comparisonOf_ok {key : String} {op : Comparison} :
    Query.comparisonOf key = .ok op ↔ key ∈ op.spellings := by
  rw [← ofKey?_eq_some_iff, Query.comparisonOf]
  cases ofKey? key <;> simp

theorem comparisonOf_key (op : Comparison) : Query.comparisonOf op.key = .ok op :=
  comparisonOf_ok.mpr op.key_mem_spellings

end Comparison

theorem Logical.head?_key (op : Logical) : op.key.toList.head? = some '$' := by
  cases op <;> decide

theorem Comparison.not_mem_spellings (op : Comparison) (other : Logical) :
    other.key ∉ op.spellings := by
  cases op <;> cases other <;> decide

end QueryGuard
