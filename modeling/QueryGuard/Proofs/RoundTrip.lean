import QueryGuard.Proofs.WellFormed

/-!
# Queries as documents

A query that is written and then read again comes back as it was, exactly if it
is keyed and none of its operands is an object (`ofJson_toJson_iff`): an object
is read as a constraint wherever it stands. Sameness does not bridge the
difference, so what comes back in its stead is not even the same.
-/

namespace QueryGuard

-- ---------------------------------------------------------------------------
-- Operands
-- ---------------------------------------------------------------------------

/-- No operand is an object. -/
def Node.Objectless (node : Node) : Prop := ∀ value ∈ node.literals, value.asObject? = none

/-- The same of a query. -/
def Query.Objectless (q : Query) : Prop := ∀ value ∈ q.literals, value.asObject? = none

namespace Query

section
variable {q : Query} {key : String} {node : Node} {op : Logical} {children : List Query}
  {value : Json}

theorem mem_literals : value ∈ q.literals ↔ ∃ clause ∈ q.clauses, value ∈ clause.2.literals := by
  obtain ⟨clauses⟩ := q
  rw [literals]
  induction clauses with
  | nil => simp [literalsClauses]
  | cons clause rest ih =>
    rw [literalsClauses, List.mem_append, ih]
    simp

theorem mem_literals_group :
    value ∈ (Node.group op children).literals ↔ ∃ child ∈ children, value ∈ child.literals := by
  rw [Node.literals]
  induction children with
  | nil => simp [literalsAll]
  | cons child rest ih =>
    rw [literalsAll, List.mem_append, ih]
    simp

theorem objectless_iff : q.Objectless ↔ ∀ clause ∈ q.clauses, clause.2.Objectless := by
  simp only [Objectless, Node.Objectless, mem_literals]
  constructor
  · intro h clause hc value hv
    exact h value ⟨clause, hc, hv⟩
  · rintro h value ⟨clause, hc, hv⟩
    exact h clause hc value hv

theorem objectless_literal : (Node.literal value).Objectless ↔ value.asObject? = none := by
  simp [Node.Objectless, Node.literals]

theorem objectless_constraint : (Node.constraint q).Objectless ↔ q.Objectless := by
  rw [Node.Objectless, Node.literals, Objectless]

theorem objectless_group :
    (Node.group op children).Objectless ↔ ∀ child ∈ children, child.Objectless := by
  simp only [Objectless, Node.Objectless, mem_literals_group]
  constructor
  · intro h child hc value hv
    exact h value ⟨child, hc, hv⟩
  · rintro h value ⟨child, hc, hv⟩
    exact h child hc value hv

theorem objectless_empty : empty.Objectless := objectless_iff.mpr (by simp [empty])

theorem Objectless.put (hq : q.Objectless) (hn : node.Objectless) : (q.put key node).Objectless := by
  refine objectless_iff.mpr fun clause hc => ?_
  rcases Members.mem_of_mem_put hc with rfl | hc
  · exact hn
  · exact objectless_iff.mp hq clause hc

end

-- ---------------------------------------------------------------------------
-- Reading
-- ---------------------------------------------------------------------------

/-- No operand of what is read from a value is an object. -/
def ReadsObjectless : Json → Prop :=
  Reads (fun _ node => node.Objectless) (fun _ children => ∀ child ∈ children, child.Objectless)
    (fun _ q => q.Objectless)

theorem readsObjectless (value : Json) : ReadsObjectless value := by
  refine reads_of ?literal ?group ?constraint ?object value
  case literal => exact fun value h => objectless_literal.mpr h
  case group =>
    intro items children h child hc
    obtain ⟨item, hi, ho⟩ := exists_of_forall₂_right h hc
    exact ho
  case constraint => exact fun members q h => objectless_constraint.mpr h
  case object =>
    intro members clauses hm h
    refine Reads.members (fun clauses => (⟨clauses⟩ : Query).Objectless) hm ?_ ?_ objectless_empty h
    · exact fun member _ _ node hnode clauses ho => ho.put hnode
    · exact fun member _ op children hc clauses ho => ho.put (objectless_group.mpr hc)

theorem ofJson_objectless {value : Json} {q : Query} (h : ofJson value = .ok q) : q.Objectless :=
  (readsObjectless value).child "" q (childOfJson_of_ofJson h "")

-- ---------------------------------------------------------------------------
-- Reading what was written
-- ---------------------------------------------------------------------------

/-- Where it stands under a key that fits it, the node is read as it was written. -/
def ReadsBack : Node → Prop
  | .group op children => ∀ key, groupOfJson key (Node.group op children).toJson = .ok children
  | node => Node.ofJson node.toJson = .ok node

theorem ofMembers_toJsonClauses {clauses earlier : List (String × Node)}
    (hd : Members.Distinct (earlier ++ clauses))
    (hk : ∀ clause ∈ clauses, clause.2.Keyed clause.1)
    (hback : ∀ clause ∈ clauses, ReadsBack clause.2) :
    ofMembers (toJsonClauses clauses) earlier = .ok (earlier ++ clauses) := by
  induction clauses generalizing earlier with
  | nil => simp [toJsonClauses, ofMembers]
  | cons clause rest ih =>
    obtain ⟨key, node⟩ := clause
    obtain ⟨hkey, hkeys⟩ := List.forall_mem_cons.mp hk
    obtain ⟨hnode, hnodes⟩ := List.forall_mem_cons.mp hback
    have hnew : Members.get? earlier key = none := by
      refine Members.get?_eq_none_iff.mpr fun hm => ?_
      rw [Members.Distinct, Members.names, List.map_append] at hd
      exact (List.nodup_append.mp hd).2.2 key hm key (by simp) rfl
    have hnext : ofMembers (toJsonClauses rest) (Members.put key node earlier) =
        .ok (earlier ++ (key, node) :: rest) := by
      rw [Members.put_of_get?_eq_none hnew, ih (List.append_cons .. ▸ hd) hkeys hnodes,
        ← List.append_cons]
    rw [toJsonClauses, ofMembers]
    cases node with
    | group op children =>
      obtain ⟨rfl, -⟩ := keyed_group.mp hkey
      have hhas : Members.has earlier op.key = false := by simp [Members.has, hnew]
      simp only [Logical.ofKey?_key, hhas, Bool.false_eq_true, if_false]
      exact bind_ok.mpr ⟨children, hnode op.key, hnext⟩
    | _ =>
      simp only [keyed_plain hkey rfl]
      exact bind_ok.mpr ⟨_, hnode, hnext⟩

theorem childrenOfItems_toJsonAll {children : List Query}
    (h : ∀ child ∈ children, ofMembers (toJsonClauses child.clauses) [] = .ok child.clauses)
    (key : String) : childrenOfItems key (toJsonAll children) = .ok children := by
  induction children with
  | nil => rfl
  | cons child rest ih =>
    obtain ⟨clauses⟩ := child
    obtain ⟨hchild, hrest⟩ := List.forall_mem_cons.mp h
    rw [toJsonAll, childrenOfItems, toJson]
    refine bind_ok.mpr ⟨⟨clauses⟩, bind_ok.mpr ⟨clauses, hchild, rfl⟩, ?_⟩
    exact bind_ok.mpr ⟨rest, ih hrest, rfl⟩

theorem reads_back :
    (∀ q : Query, q.Keyed → q.Objectless →
      ofMembers (toJsonClauses q.clauses) [] = .ok q.clauses) ∧
    ∀ node : Node, ∀ key, node.Keyed key → node.Objectless → ReadsBack node := by
  refine induct (fun value key hk ho => ?_) (fun q ih key hk ho => ?_)
    (fun op children ih key hk ho => ?_) fun clauses ih hk ho => ?_
  · cases value with
    | object members => simp [objectless_literal, Json.asObject?] at ho
    | _ => rfl
  · obtain ⟨clauses⟩ := q
    change Node.ofJson (.object (toJsonClauses clauses)) = _
    rw [Node.ofJson]
    exact bind_ok.mpr ⟨clauses, ih hk.2 (objectless_constraint.mp ho), rfl⟩
  · intro own
    rw [Node.toJson, groupOfJson]
    refine childrenOfItems_toJsonAll (fun child hc => ?_) own
    exact ih child hc ((keyed_group.mp hk).2 child hc) (objectless_group.mp ho child hc)
  · obtain ⟨hd, hkeys⟩ := keyed_iff.mp hk
    refine ofMembers_toJsonClauses hd hkeys fun clause hc => ?_
    exact ih clause hc clause.1 (hkeys clause hc) (objectless_iff.mp ho clause hc)

theorem ofJson_toJson_iff {q : Query} : ofJson q.toJson = .ok q ↔ q.Keyed ∧ q.Objectless := by
  constructor
  · intro h
    exact ⟨(ofJson_well h).1, ofJson_objectless h⟩
  · rintro ⟨hk, ho⟩
    obtain ⟨clauses⟩ := q
    rw [toJson, ofJson]
    exact bind_ok.mpr ⟨clauses, reads_back.1 ⟨clauses⟩ hk ho, rfl⟩

theorem exists_ofJson_iff {q : Query} :
    (∃ value, ofJson value = .ok q) ↔ q.Keyed ∧ q.Objectless := by
  constructor
  · rintro ⟨value, h⟩
    exact ⟨(ofJson_well h).1, ofJson_objectless h⟩
  · intro h
    exact ⟨_, ofJson_toJson_iff.mpr h⟩

-- ---------------------------------------------------------------------------
-- Sameness
-- ---------------------------------------------------------------------------

theorem asObject?_of_same {a b : Json} (h : a.same b = true) :
    a.asObject? = none ↔ b.asObject? = none := by
  cases a <;> cases b <;> simp_all [Json.same, Json.asObject?]

theorem objectless_of_same_both :
    (∀ a b : Query, a.Keyed → b.Keyed → a.same b = true → (a.Objectless ↔ b.Objectless)) ∧
      ∀ a : Node, ∀ key b, a.Keyed key → b.Keyed key → a.same b = true →
        (a.Objectless ↔ b.Objectless) := by
  refine induct (fun v key b ha hb h => ?_) (fun q ih key b ha hb h => ?_)
    (fun op children ih key b ha hb h => ?_) fun clauses ih b ha hb h => ?_
  · cases b with
    | literal w =>
      rw [same_literal] at h
      rw [objectless_literal, objectless_literal, asObject?_of_same h]
    | _ => simp [Node.same] at h
  · cases b with
    | constraint r =>
      rw [same_constraint] at h
      rw [objectless_constraint, objectless_constraint, ih r ha.2 hb.2 h]
    | _ => simp [Node.same] at h
  · cases b with
    | group own others =>
      obtain ⟨-, hs⟩ := same_group.mp h
      have ha := (keyed_group.mp ha).2
      have hb := (keyed_group.mp hb).2
      rw [objectless_group, objectless_group]
      constructor
      · intro hall other ho
        obtain ⟨child, hc, hlike⟩ := exists_of_forall₂_right hs ho
        exact (ih child hc other (ha child hc) (hb other ho) hlike).mp (hall child hc)
      · intro hall child hc
        obtain ⟨other, ho, hlike⟩ := exists_of_forall₂_left hs hc
        exact (ih child hc other (ha child hc) (hb other ho) hlike).mpr (hall other ho)
    | _ => simp [Node.same] at h
  · obtain ⟨hl, hm⟩ := same_iff.mp h
    obtain ⟨hd, hka⟩ := keyed_iff.mp ha
    obtain ⟨hd', hkb⟩ := keyed_iff.mp hb
    have hlike : ∀ clause ∈ clauses, ∃ node, (clause.1, node) ∈ b.clauses ∧
        (clause.2.Objectless ↔ node.Objectless) := by
      intro clause hc
      obtain ⟨node, hn, hlike⟩ := hm clause hc
      have hn := Members.mem_of_get? hn
      exact ⟨node, hn, ih clause hc clause.1 node (hka clause hc) (hkb _ hn) hlike⟩
    rw [objectless_iff, objectless_iff]
    constructor
    · rintro hall ⟨key, node⟩ hn
      -- Sameness looks names up on one side only; counting gives the other.
      have hname := (hm.names_perm hd (Nat.le_of_eq hl.symm)).mem_iff.mpr (Members.mem_names hn)
      obtain ⟨own, ho⟩ := Members.exists_get?_of_mem_names hname
      have ho := Members.mem_of_get? ho
      obtain ⟨found, hfound, hiff⟩ := hlike _ ho
      obtain rfl := hd'.eq_of_mem hfound hn
      exact hiff.mp (hall _ ho)
    · intro hall clause hc
      obtain ⟨node, hn, hiff⟩ := hlike clause hc
      exact hiff.mpr (hall _ hn)

theorem objectless_of_same {a b : Query} (ha : a.Keyed) (hb : b.Keyed) (h : a.same b = true) :
    a.Objectless ↔ b.Objectless := objectless_of_same_both.1 a b ha hb h

theorem ofJson_not_same {q read : Query} {value : Json} (hk : q.Keyed) (ho : ¬q.Objectless)
    (h : ofJson value = .ok read) : read.same q = false := by
  rw [Bool.eq_false_iff]
  intro hs
  exact ho ((objectless_of_same (ofJson_well h).1 hk hs).mp (ofJson_objectless h))

end Query

end QueryGuard
