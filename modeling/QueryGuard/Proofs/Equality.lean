import Mathlib.Logic.Relation
import QueryGuard.Comparison.Evaluation
import QueryGuard.Proofs.Sameness

/-!
# What sameness sees

Sameness looks the names of one side up in the other. `Json.Equal` and `Query.Equal`
say without look-ups what this comes to where no name stands twice: the kinds agree,
lists agree item by item, and objects and queries have the same names over equal
values. So sameness sees everything but the order of names, at any depth
(`Query.same_laws`).

An array is none of its own items. This is all that the operator learns which compares
its left side with itself (`Comparison.evaluateKey_nin_iff`).
-/

namespace QueryGuard

-- ---------------------------------------------------------------------------
-- Equality without look-ups
-- ---------------------------------------------------------------------------

/-- Equality of values. Doubles are equal as numbers, and no integer is a double. -/
inductive Json.Equal : Json → Json → Prop
  | null : Equal .null .null
  | bool (b : Bool) : Equal (.bool b) (.bool b)
  | integer (n : Int) : Equal (.number (.integer n)) (.number (.integer n))
  | double {d e : Double} (h : d.place = e.place) :
      Equal (.number (.double d)) (.number (.double e))
  | string (text : String) : Equal (.string text) (.string text)
  | array {items others : List Json} (h : List.Forall₂ Equal items others) :
      Equal (.array items) (.array others)
  | object {members others : Members Json}
      (names : ∀ name, name ∈ members.names ↔ name ∈ others.names)
      (values : ∀ name a b, (name, a) ∈ members → (name, b) ∈ others → Equal a b) :
      Equal (.object members) (.object others)

mutual
/-- Nodes of one kind over equal contents; the children of groups in their order. -/
inductive Node.Equal : Node → Node → Prop
  | literal {value other : Json} (h : value.Equal other) :
      Node.Equal (.literal value) (.literal other)
  | constraint {query other : Query} (h : query.Equal other) :
      Node.Equal (.constraint query) (.constraint other)
  | group {op : Logical} {children others : List Query}
      (h : List.Forall₂ Query.Equal children others) :
      Node.Equal (.group op children) (.group op others)
/-- The same keys over equal nodes. -/
inductive Query.Equal : Query → Query → Prop
  | clauses {a b : Query} (keys : ∀ key, key ∈ a.keys ↔ key ∈ b.keys)
      (nodes : ∀ key x y, (key, x) ∈ a.clauses → (key, y) ∈ b.clauses → x.Equal y) :
      Query.Equal a b
end

theorem Number.same_iff_equal {a b : Number} :
    a.same b = true ↔ (Json.number a).Equal (.number b) := by
  cases a <;> cases b <;> simp only [same, beq_iff_eq, Bool.false_eq_true, false_iff]
  case integer.integer m n =>
    constructor
    · rintro rfl
      exact .integer m
    · rintro ⟨⟩
      rfl
  case double.double d e =>
    constructor
    · exact .double
    · rintro ⟨⟩
      assumption
  all_goals rintro ⟨⟩

theorem Json.same_iff_equal {a b : Json} (ha : a.Distinct) (hb : b.Distinct) :
    a.same b = true ↔ a.Equal b := by
  induction a using induct generalizing b with
  | null =>
    cases b with
    | null => exact iff_of_true rfl .null
    | _ => exact iff_of_false (by simp [same]) (by rintro ⟨⟩)
  | bool own =>
    cases b with
    | bool other =>
      rw [same, beq_iff_eq]
      constructor
      · rintro rfl
        exact .bool own
      · rintro ⟨⟩
        rfl
    | _ => exact iff_of_false (by simp [same]) (by rintro ⟨⟩)
  | number own =>
    cases b with
    | number other => rw [same, Number.same_iff_equal]
    | _ => exact iff_of_false (by simp [same]) (by rintro ⟨⟩)
  | string own =>
    cases b with
    | string other =>
      rw [same, beq_iff_eq]
      constructor
      · rintro rfl
        exact .string own
      · rintro ⟨⟩
        rfl
    | _ => exact iff_of_false (by simp [same]) (by rintro ⟨⟩)
  | array items ih =>
    cases b with
    | array others =>
      rw [Distinct, distinctItems_iff] at ha hb
      have hall := forall₂_congr_mem fun item hi other ho => ih item hi (ha item hi) (hb other ho)
      rw [same, sameItems_iff, hall]
      constructor
      · exact .array
      · rintro ⟨⟩
        assumption
    | _ => exact iff_of_false (by simp [same]) (by rintro ⟨⟩)
  | object members ih =>
    cases b with
    | object others =>
      obtain ⟨hd, hs⟩ := distinct_object.mp ha
      obtain ⟨hd', hs'⟩ := distinct_object.mp hb
      have hvalues : (∀ name a b, (name, a) ∈ members → (name, b) ∈ others → a.same b = true) ↔
          ∀ name a b, (name, a) ∈ members → (name, b) ∈ others → a.Equal b :=
        forall₅_congr fun name a b hm ho => ih _ hm (hs _ hm) (hs' _ ho)
      rw [same_object, Members.matched_iff hd hd', hvalues]
      constructor
      · rintro ⟨names, values⟩
        exact .object names values
      · rintro (_ | _ | _ | _ | _ | _ | ⟨names, values⟩)
        exact ⟨names, values⟩
    | _ => exact iff_of_false (by simp [same]) (by rintro ⟨⟩)

namespace Query

theorem same_iff_equal_both :
    (∀ a : Query, ∀ b, a.Distinct → b.Distinct → (a.same b = true ↔ a.Equal b)) ∧
      ∀ a : Node, ∀ b, a.Distinct → b.Distinct → (a.same b = true ↔ a.Equal b) := by
  refine induct (fun value b ha hb => ?_) (fun q ih b ha hb => ?_)
    (fun op children ih b ha hb => ?_) fun clauses ih b ha hb => ?_
  · cases b with
    | literal other =>
      rw [same_literal, Json.same_iff_equal ha hb]
      constructor
      · exact .literal
      · rintro ⟨⟩
        assumption
    | _ => exact iff_of_false (by simp [Node.same]) (by rintro ⟨⟩)
  · cases b with
    | constraint other =>
      rw [same_constraint, ih other ha hb]
      constructor
      · exact .constraint
      · rintro ⟨⟩
        assumption
    | _ => exact iff_of_false (by simp [Node.same]) (by rintro ⟨⟩)
  · cases b with
    | group own others =>
      have ha := distinct_group.mp ha
      have hb := distinct_group.mp hb
      have hall := forall₂_congr_mem fun child hc other ho =>
        ih child hc other (ha child hc) (hb other ho)
      rw [same_group, hall]
      constructor
      · rintro ⟨rfl, h⟩
        exact .group h
      · rintro (_ | _ | h)
        exact ⟨rfl, h⟩
    | _ => exact iff_of_false (by simp [Node.same]) (by rintro ⟨⟩)
  · obtain ⟨hd, hs⟩ := distinct_iff.mp ha
    obtain ⟨hd', hs'⟩ := distinct_iff.mp hb
    have hnodes : (∀ key x y, (key, x) ∈ clauses → (key, y) ∈ b.clauses → x.same y = true) ↔
        ∀ key x y, (key, x) ∈ clauses → (key, y) ∈ b.clauses → x.Equal y :=
      forall₅_congr fun key x y hx hy => ih _ hx y (hs _ hx) (hs' _ hy)
    rw [same_iff, Members.matched_iff hd hd', hnodes]
    constructor
    · rintro ⟨keys, nodes⟩
      exact .clauses keys nodes
    · rintro ⟨keys, nodes⟩
      exact ⟨keys, nodes⟩

theorem same_iff_equal {a b : Query} (ha : a.Distinct) (hb : b.Distinct) :
    a.same b = true ↔ a.Equal b := same_iff_equal_both.1 a b ha hb

end Query

-- ---------------------------------------------------------------------------
-- The order of names
-- ---------------------------------------------------------------------------

/-- The members of one object, at any depth, come in another order. -/
inductive Json.Reordered : Json → Json → Prop
  | here {members others : Members Json} (h : members.Perm others) :
      Reordered (.object members) (.object others)
  | item {before after : List Json} {value other : Json} (h : value.Reordered other) :
      Reordered (.array (before ++ value :: after)) (.array (before ++ other :: after))
  | member {before after : Members Json} {name : String} {value other : Json}
      (h : value.Reordered other) :
      Reordered (.object (before ++ (name, value) :: after))
        (.object (before ++ (name, other) :: after))

/-- The clauses of one query, or the members of one object in an operand, come in
another order, at any depth. -/
inductive Query.Reordered : Query → Query → Prop
  | here {clauses others : Members Node} (h : clauses.Perm others) : Reordered ⟨clauses⟩ ⟨others⟩
  | operand {before after : Members Node} {key : String} {value other : Json}
      (h : value.Reordered other) :
      Reordered ⟨before ++ (key, .literal value) :: after⟩
        ⟨before ++ (key, .literal other) :: after⟩
  | constraint {before after : Members Node} {key : String} {query other : Query}
      (h : query.Reordered other) :
      Reordered ⟨before ++ (key, .constraint query) :: after⟩
        ⟨before ++ (key, .constraint other) :: after⟩
  | child {before after : Members Node} {key : String} {op : Logical} {older younger : List Query}
      {child other : Query} (h : child.Reordered other) :
      Reordered ⟨before ++ (key, .group op (older ++ child :: younger)) :: after⟩
        ⟨before ++ (key, .group op (older ++ other :: younger)) :: after⟩

theorem Json.Reordered.same {a b : Json} (h : a.Reordered b) (ha : a.Distinct) :
    b.Distinct ∧ a.same b = true := by
  induction h with
  | here hp =>
    obtain ⟨hd, hs⟩ := distinct_object.mp ha
    refine ⟨distinct_object.mpr ⟨hd.perm hp, fun member hm => hs member (hp.mem_iff.mpr hm)⟩, ?_⟩
    exact same_object.mpr (Members.matched_of_perm hd hp fun member hm => same_refl (hs member hm))
  | item h ih =>
    rw [Distinct, distinctItems_iff] at ha ⊢
    obtain ⟨hvalue, hothers⟩ := forall_mem_replaced ha
    obtain ⟨hother, hsame⟩ := ih hvalue
    refine ⟨hothers _ hother, ?_⟩
    rw [Json.same, sameItems_iff]
    exact forall₂_replaced hsame fun item hi => same_refl (ha item hi)
  | member h ih =>
    obtain ⟨hd, hs⟩ := distinct_object.mp ha
    obtain ⟨hvalue, hothers⟩ := forall_mem_replaced hs
    obtain ⟨hother, hsame⟩ := ih hvalue
    refine ⟨distinct_object.mpr ⟨hd.replaced, hothers _ hother⟩, ?_⟩
    exact same_object.mpr
      (Members.matched_replaced hd hsame fun member hm => same_refl (hs member hm))

namespace Query

theorem same_replaced {before after : Members Node} {key : String} {node other : Node}
    (hq : (⟨before ++ (key, node) :: after⟩ : Query).Distinct)
    (h : node.Distinct → other.Distinct ∧ node.same other = true) :
    (⟨before ++ (key, other) :: after⟩ : Query).Distinct ∧
      (⟨before ++ (key, node) :: after⟩ : Query).same ⟨before ++ (key, other) :: after⟩ = true := by
  obtain ⟨hd, hs⟩ := distinct_iff.mp hq
  obtain ⟨hnode, hothers⟩ := forall_mem_replaced hs
  obtain ⟨hother, hsame⟩ := h hnode
  refine ⟨distinct_iff.mpr ⟨hd.replaced, hothers _ hother⟩, ?_⟩
  exact same_iff.mpr
    (Members.matched_replaced hd hsame fun clause hc => Node.same_refl (hs clause hc))

theorem Reordered.same {a b : Query} (h : a.Reordered b) (ha : a.Distinct) :
    b.Distinct ∧ a.same b = true := by
  induction h with
  | here hp =>
    obtain ⟨hd, hs⟩ := distinct_iff.mp ha
    refine ⟨distinct_iff.mpr ⟨hd.perm hp, fun clause hc => hs clause (hp.mem_iff.mpr hc)⟩, ?_⟩
    exact same_iff.mpr
      (Members.matched_of_perm hd hp fun clause hc => Node.same_refl (hs clause hc))
  | operand h =>
    refine same_replaced ha fun hv => ?_
    obtain ⟨hother, hsame⟩ := h.same hv
    exact ⟨hother, same_literal.trans hsame⟩
  | constraint h ih =>
    refine same_replaced ha fun hq => ?_
    obtain ⟨hother, hsame⟩ := ih hq
    exact ⟨hother, same_constraint.trans hsame⟩
  | child h ih =>
    refine same_replaced ha fun hg => ?_
    have hchildren := distinct_group.mp hg
    obtain ⟨hchild, hothers⟩ := forall_mem_replaced hchildren
    obtain ⟨hother, hsame⟩ := ih hchild
    refine ⟨distinct_group.mpr (hothers _ hother), same_group.mpr ⟨rfl, ?_⟩⟩
    exact forall₂_replaced hsame fun child hc => same_refl (hchildren child hc)

theorem same_of_reordered {a b : Query} (h : Relation.ReflTransGen Reordered a b)
    (ha : a.Distinct) : b.Distinct ∧ a.same b = true := by
  induction h with
  | refl => exact ⟨ha, same_refl ha⟩
  | tail _ hstep ih =>
    obtain ⟨hd, hsame⟩ := ih
    obtain ⟨hd', hsame'⟩ := hstep.same hd
    exact ⟨hd', same_trans hsame hsame'⟩

theorem same_congr {a a' b b' : Query} (ha : a.Distinct) (hb : b.Distinct)
    (h : Relation.ReflTransGen Reordered a a') (h' : Relation.ReflTransGen Reordered b b') :
    a'.same b' = a.same b := by
  obtain ⟨ha', haa'⟩ := same_of_reordered h ha
  obtain ⟨hb', hbb'⟩ := same_of_reordered h' hb
  rw [Bool.eq_iff_iff]
  constructor
  · intro hs
    exact same_trans (same_trans haa' hs) (same_symm hb hb' hbb')
  · intro hs
    exact same_trans (same_trans (same_symm ha ha' haa') hs) hbb'

theorem same_equivalence :
    Equivalence fun a b : { q : Query // q.Distinct } => a.1.same b.1 = true where
  refl a := same_refl a.2
  symm {a b} h := same_symm a.2 b.2 h
  trans hab hbc := same_trans hab hbc

/-- Sameness of queries, in which no key and no name in an object repeats, is an
equivalence, sees just what equality without look-ups sees, and does not see in which
order keys and names come. -/
theorem same_laws :
    (Equivalence fun a b : { q : Query // q.Distinct } => a.1.same b.1 = true) ∧
    (∀ a b : Query, a.Distinct → b.Distinct → (a.same b = true ↔ a.Equal b)) ∧
    ∀ a a' b b' : Query, a.Distinct → b.Distinct →
      Relation.ReflTransGen Reordered a a' → Relation.ReflTransGen Reordered b b' →
        a'.same b' = a.same b :=
  ⟨same_equivalence, fun _ _ => same_iff_equal, fun _ _ _ _ => same_congr⟩

/-- The order changes at the top, in a constraint and in an object in the operand of a
child. -/
theorem same_laws_depths :
    let bounds (first second : String × Node) : Node := .constraint ⟨[first, second]⟩
    let tagged (first second : String × Json) : Node :=
      .group .or [⟨[("tags", .literal (.array [.object [first, second]]))]⟩]
    let least : String × Node := ("$gt", .literal (Json.ofNat 2))
    let most : String × Node := ("$lt", .literal (Json.ofNat 5))
    let own : String × Json := ("own", .bool true)
    let name : String × Json := ("name", .null)
    let a : Query := ⟨[("age", bounds least most), ("$or", tagged own name)]⟩
    let b : Query := ⟨[("$or", tagged name own), ("age", bounds most least)]⟩
    a.Distinct ∧ Relation.ReflTransGen Reordered a b ∧ a.same b = true ∧ a.Equal b := by
  intro bounds tagged least most own name a b
  have ha : a.Distinct := by
    simp [a, bounds, tagged, least, most, own, name, distinct_iff, Node.Distinct, Query.DistinctAll,
      Json.Distinct, Json.DistinctItems, Json.DistinctMembers, Json.ofNat, Members.Distinct,
      Members.names]
  have hconstraint : Reordered a ⟨[("age", bounds most least), ("$or", tagged own name)]⟩ :=
    @Reordered.constraint [] [("$or", tagged own name)] "age" _ _ (.here (.swap ..))
  have hobject : (Json.array [.object [own, name]]).Reordered (.array [.object [name, own]]) :=
    @Json.Reordered.item [] [] _ _ (.here (.swap ..))
  have hoperand : Reordered ⟨[("age", bounds most least), ("$or", tagged own name)]⟩
      ⟨[("age", bounds most least), ("$or", tagged name own)]⟩ :=
    @Reordered.child [("age", bounds most least)] [] "$or" .or [] [] _ _
      (@Reordered.operand [] [] "tags" _ _ hobject)
  have hsteps : Relation.ReflTransGen Reordered a b :=
    ((Relation.ReflTransGen.single hconstraint).tail hoperand).tail (.here (.swap ..))
  obtain ⟨hequivalence, hequal, hcongr⟩ := same_laws
  have hsame : a.same b = true :=
    (hcongr a a a b ha ha .refl hsteps).trans (hequivalence.refl ⟨a, ha⟩)
  have hb : b.Distinct := (same_of_reordered hsteps ha).1
  exact ⟨ha, hsteps, hsame, (hequal a b ha hb).mp hsame⟩

end Query

-- ---------------------------------------------------------------------------
-- An array and its items
-- ---------------------------------------------------------------------------

/-- If an item were the same as the array, the array's like of the item would stand in
the item, and be the same as it. -/
theorem Json.not_same_of_mem {items : List Json} {item : Json} (h : item ∈ items) :
    item.same (.array items) = false := by
  suffices hvalue : ∀ value : Json, ∀ items, value = .array items → ∀ item ∈ items,
      item.same value = false from hvalue _ items rfl item h
  intro value
  induction value using Json.induct with
  | array items ih =>
    rintro _ ⟨⟩ item hi
    rw [Bool.eq_false_iff]
    intro hs
    cases item with
    | array own =>
      rw [Json.same, sameItems_iff] at hs
      obtain ⟨inner, hinner, hlike⟩ := exists_of_forall₂_right hs hi
      rw [ih _ hi own rfl inner hinner] at hlike
      cases hlike
    | _ => cases hs
  | _ => rintro _ ⟨⟩

namespace Comparison

theorem isApart_iff {value : Json} (h : value.Distinct) :
    isApart value = true ↔ ∃ items, value = .array items := by
  cases value with
  | array items =>
    refine iff_of_true (List.all_eq_true.mpr fun item hi => ?_) ⟨items, rfl⟩
    rw [Json.not_same_of_mem hi, Bool.not_false]
  | _ =>
    refine iff_of_false ?_ (by rintro ⟨items, ⟨⟩⟩)
    simp [isApart, Json.same_refl h]

/-- The operator holds for every array, and for no other value, whatever stands on its
right. -/
theorem evaluateKey_nin_iff {lhs : Json} (h : lhs.Distinct) (rhs : Json) :
    evaluateKey lhs rhs "@nin" = true ↔ ∃ items, lhs = .array items := by
  have hkey : ofKey? "@nin" = some .nin := by decide
  rw [evaluateKey, hkey]
  exact isApart_iff h

theorem evaluateKey_nin_nested :
    let nested : Json := .array [.array [], .array [.array []], .object [("a", .array [])]]
    nested.Distinct ∧ evaluateKey nested (.array [nested]) "@nin" = true := by
  intro nested
  have hd : nested.Distinct := by
    simp [nested, Json.Distinct, Json.DistinctItems, Json.DistinctMembers, Members.Distinct,
      Members.names]
  exact ⟨hd, (evaluateKey_nin_iff hd _).mpr ⟨_, rfl⟩⟩

end Comparison

end QueryGuard
