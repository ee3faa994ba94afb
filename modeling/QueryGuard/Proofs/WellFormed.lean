import QueryGuard.Proofs.Sameness
import QueryGuard.Query.Document

/-!
# Well-formed queries

In a keyed query no key stands twice, a group stands under the key of its own
operator, and nothing else stands under a logical key. Whatever is read from a
document is keyed, and no object inside repeats a name if none did in the
document. Storing and removing clauses keeps both. What is claimed of reading is
proved of the three readers at once (`reads_of`).
-/

namespace QueryGuard

theorem bind_ok {ε α β : Type} {x : Except ε α} {f : α → Except ε β} {b : β} :
    x >>= f = .ok b ↔ ∃ a, x = .ok a ∧ f a = .ok b := by
  cases x <;> simp [bind, Except.bind]

theorem pure_ok {ε α : Type} {a b : α} : (pure a : Except ε α) = .ok b ↔ a = b := by
  simp [pure, Except.pure]

theorem unless_ok {ε α : Type} {fails : Bool} {e : ε} {rest : Except ε α} {a : α} :
    (do
      if fails then throw e
      rest) = .ok a ↔ fails = false ∧ rest = .ok a := by
  cases fails with
  | false => exact ⟨fun h => ⟨rfl, h⟩, fun h => h.2⟩
  | true =>
    constructor
    · intro h
      cases h
    · rintro ⟨⟨⟩, -⟩

@[simp] theorem Logical.ofKey?_key (op : Logical) : Logical.ofKey? op.key = some op := by
  cases op <;> rfl

theorem Logical.key_injective {op other : Logical} (h : op.key = other.key) : op = other := by
  have h := congrArg Logical.ofKey? h
  simpa using h

mutual
/-- What may stand under a key: a group of the operator that the key spells
natively, and any other node only under a key that spells none. -/
def Node.Keyed (key : String) : Node → Prop
  | .literal _ => Logical.ofKey? key = none
  | .constraint query => Logical.ofKey? key = none ∧ query.Keyed
  | .group op children => key = op.key ∧ Query.KeyedAll children
/-- Every key stands once and over a node that fits it, in the queries inside
as well. -/
def Query.Keyed : Query → Prop
  | ⟨clauses⟩ => Members.Distinct clauses ∧ Query.KeyedClauses clauses
def Query.KeyedAll : List Query → Prop
  | [] => True
  | query :: rest => query.Keyed ∧ Query.KeyedAll rest
def Query.KeyedClauses : List (String × Node) → Prop
  | [] => True
  | (key, node) :: rest => node.Keyed key ∧ Query.KeyedClauses rest
end

/-- What documents are read to: keyed, and no object repeats a name. -/
structure Query.WellFormed (q : Query) : Prop where
  keyed : q.Keyed
  distinct : q.Distinct

/-- A node that a well-formed query may hold under a key. -/
structure Node.WellFormed (key : String) (node : Node) : Prop where
  keyed : node.Keyed key
  distinct : node.Distinct

namespace Query

theorem keyedAll_iff {children : List Query} :
    KeyedAll children ↔ ∀ child ∈ children, child.Keyed := by
  induction children with
  | nil => simp [KeyedAll]
  | cons child rest ih => simp [KeyedAll, ih]

theorem keyedClauses_iff {clauses : List (String × Node)} :
    KeyedClauses clauses ↔ ∀ clause ∈ clauses, clause.2.Keyed clause.1 := by
  induction clauses with
  | nil => simp [KeyedClauses]
  | cons clause rest ih => simp [KeyedClauses, ih]

theorem keyed_iff {q : Query} :
    q.Keyed ↔ Members.Distinct q.clauses ∧ ∀ clause ∈ q.clauses, clause.2.Keyed clause.1 := by
  cases q
  simp only [Keyed, keyedClauses_iff]

theorem keyed_group {key : String} {op : Logical} {children : List Query} :
    (Node.group op children).Keyed key ↔ key = op.key ∧ ∀ child ∈ children, child.Keyed := by
  simp [Node.Keyed, keyedAll_iff]

theorem keyed_plain {key : String} {node : Node} (h : node.Keyed key)
    (hn : node.isGroup = false) : Logical.ofKey? key = none := by
  cases node with
  | literal => exact h
  | constraint => exact h.1
  | group => simp [Node.isGroup] at hn

theorem plain_of_keyed {key : String} {node : Node} (h : node.Keyed key)
    (hk : Logical.ofKey? key = none) : node.isGroup = false := by
  cases node with
  | group op children =>
    rw [(keyed_group.mp h).1] at hk
    simp at hk
  | _ => rfl

-- ---------------------------------------------------------------------------
-- Groups of a keyed query
-- ---------------------------------------------------------------------------

section
variable {q : Query} {op : Logical} {children : List Query} {key : String} {node : Node}

theorem mem_of_get? (h : q.get? key = some node) : (key, node) ∈ q.clauses :=
  Members.mem_of_get? h

theorem get?_of_mem (hq : q.Keyed) (h : (key, node) ∈ q.clauses) : q.get? key = some node :=
  Members.get?_of_mem (keyed_iff.mp hq).1 h

theorem Keyed.of_get? (hq : q.Keyed) (h : q.get? key = some node) : node.Keyed key :=
  (keyed_iff.mp hq).2 (key, node) (mem_of_get? h)

theorem group?_eq_some_iff (hq : q.Keyed) :
    q.group? op = some children ↔ q.get? op.key = some (.group op children) := by
  unfold group?
  constructor
  · intro h
    split at h
    · next own found hg =>
      have hkey := (keyed_group.mp (hq.of_get? hg)).1
      obtain rfl := Logical.key_injective hkey
      cases h
      exact hg
    · cases h
  · intro h
    simp [h]

theorem group?_eq_none_iff (hq : q.Keyed) : q.group? op = none ↔ q.get? op.key = none := by
  constructor
  · intro h
    cases hg : q.get? op.key with
    | none => rfl
    | some node =>
      have hn := hq.of_get? hg
      cases node with
      | literal => simp [Node.Keyed] at hn
      | constraint => simp [Node.Keyed] at hn
      | group own found => simp [group?, hg] at h
  · intro h
    simp [group?, h]

theorem group?_eq_some_iff_mem (hq : q.Keyed) :
    q.group? op = some children ↔ (op.key, .group op children) ∈ q.clauses := by
  rw [group?_eq_some_iff hq]
  exact ⟨mem_of_get?, get?_of_mem hq⟩

end

-- ---------------------------------------------------------------------------
-- Storing and removing
-- ---------------------------------------------------------------------------

section
variable {q : Query} {key other : String} {node : Node} {op : Logical} {children : List Query}

theorem get?_put (q : Query) (key other : String) (node : Node) :
    (q.put key node).get? other = if other = key then some node else q.get? other :=
  Members.get?_put ..

theorem get?_put_self : (q.put key node).get? key = some node :=
  Members.get?_put_self ..

theorem put_self (h : q.get? key = some node) : q.put key node = q := by
  have hheld : Members.put key node q.clauses = q.clauses := Members.put_of_get?_eq_some h
  cases q
  exact congrArg Query.mk hheld

theorem put_of_new (hnew : key ∉ q.keys) (node : Node) :
    q.put key node = ⟨q.clauses ++ [(key, node)]⟩ :=
  congrArg Query.mk (Members.put_of_get?_eq_none (Members.get?_eq_none_iff.mpr hnew) node)

theorem get?_remove_self (hq : q.Keyed) (key : String) : (q.remove key).get? key = none :=
  Members.get?_remove_self (keyed_iff.mp hq).1 key

theorem get?_remove_of_ne (h : other ≠ key) : (q.remove key).get? other = q.get? other :=
  Members.get?_remove_of_ne h q.clauses

theorem insert_plain (h : node.isGroup = false) : q.insert key node = q.put key node := by
  cases node with
  | literal | constraint => rfl
  | group => simp [Node.isGroup] at h

theorem withGroup_eq {own children : List Query} (hq : q.Keyed) (h : q.group? op = some own) :
    q.withGroup op children = q.put op.key (.group op children) := by
  simp [withGroup, (group?_eq_some_iff hq).mp h]

theorem group?_insertGroup_self : (q.insertGroup op children).group? op = some children := by
  simp [group?, insertGroup, get?_put_self]

theorem Keyed.put (hq : q.Keyed) (hn : node.Keyed key) : (q.put key node).Keyed := by
  obtain ⟨hd, hk⟩ := keyed_iff.mp hq
  refine keyed_iff.mpr ⟨hd.put key node, fun clause hc => ?_⟩
  rcases Members.mem_of_mem_put hc with rfl | hc
  · exact hn
  · exact hk clause hc

theorem Distinct.put (hq : q.Distinct) (hn : node.Distinct) : (q.put key node).Distinct := by
  obtain ⟨hd, hs⟩ := distinct_iff.mp hq
  refine distinct_iff.mpr ⟨hd.put key node, fun clause hc => ?_⟩
  rcases Members.mem_of_mem_put hc with rfl | hc
  · exact hn
  · exact hs clause hc

theorem Keyed.remove (hq : q.Keyed) (key : String) : (q.remove key).Keyed := by
  obtain ⟨hd, hk⟩ := keyed_iff.mp hq
  refine keyed_iff.mpr ⟨hd.remove key, fun clause hc => ?_⟩
  exact hk clause ((Members.remove_sublist ..).mem hc)

theorem Distinct.remove (hq : q.Distinct) (key : String) : (q.remove key).Distinct := by
  obtain ⟨hd, hs⟩ := distinct_iff.mp hq
  refine distinct_iff.mpr ⟨hd.remove key, fun clause hc => ?_⟩
  exact hs clause ((Members.remove_sublist ..).mem hc)

theorem keyed_empty : empty.Keyed :=
  keyed_iff.mpr (by simp [empty, Members.Distinct, Members.names])

theorem distinct_empty : empty.Distinct :=
  distinct_iff.mpr (by simp [empty, Members.Distinct, Members.names])

theorem wellFormed_empty : empty.WellFormed := ⟨keyed_empty, distinct_empty⟩

theorem WellFormed.put (hq : q.WellFormed) (hn : node.WellFormed key) :
    (q.put key node).WellFormed :=
  ⟨hq.keyed.put hn.keyed, Distinct.put hq.distinct hn.distinct⟩

/-- A query of one plain clause. -/
def ofField (field : String) (value : Json) : Query := empty.put field (.literal value)

theorem wellFormed_ofField {field : String} {value : Json} (hf : Logical.ofKey? field = none)
    (hv : value.Distinct) : (ofField field value).WellFormed :=
  wellFormed_empty.put ⟨hf, hv⟩

theorem WellFormed.remove (hq : q.WellFormed) (key : String) : (q.remove key).WellFormed :=
  ⟨hq.keyed.remove key, Distinct.remove hq.distinct key⟩

theorem WellFormed.of_mem (hq : q.WellFormed) (h : (key, node) ∈ q.clauses) : node.WellFormed key :=
  ⟨(keyed_iff.mp hq.keyed).2 _ h, (distinct_iff.mp hq.distinct).2 _ h⟩

theorem WellFormed.of_sublist {clauses : List (String × Node)} (hq : q.WellFormed)
    (h : clauses.Sublist q.clauses) : (⟨clauses⟩ : Query).WellFormed := by
  have hd : Members.Distinct clauses := (h.map Prod.fst).nodup (keyed_iff.mp hq.keyed).1
  have hm : ∀ clause ∈ clauses, clause.2.WellFormed clause.1 :=
    fun clause hm => hq.of_mem (h.subset hm)
  exact ⟨keyed_iff.mpr ⟨hd, fun clause hc => (hm clause hc).keyed⟩,
    distinct_iff.mpr ⟨hd, fun clause hc => (hm clause hc).distinct⟩⟩

theorem wellFormed_group :
    (Node.group op children).WellFormed key ↔
      key = op.key ∧ ∀ child ∈ children, child.WellFormed := by
  constructor
  · rintro ⟨hk, hd⟩
    obtain ⟨hk, hks⟩ := keyed_group.mp hk
    exact ⟨hk, fun child hc => ⟨hks child hc, distinct_group.mp hd child hc⟩⟩
  · rintro ⟨hk, hs⟩
    exact ⟨keyed_group.mpr ⟨hk, fun child hc => (hs child hc).keyed⟩,
      distinct_group.mpr fun child hc => (hs child hc).distinct⟩

theorem WellFormed.child (hq : q.WellFormed) (h : q.group? op = some children) :
    ∀ child ∈ children, child.WellFormed :=
  (wellFormed_group.mp (hq.of_mem ((group?_eq_some_iff_mem hq.keyed).mp h))).2

theorem WellFormed.insertGroup (hq : q.WellFormed) (hc : ∀ child ∈ children, child.WellFormed) :
    (q.insertGroup op children).WellFormed :=
  hq.put (wellFormed_group.mpr ⟨rfl, hc⟩)

theorem WellFormed.withGroup (hq : q.WellFormed) (hc : ∀ child ∈ children, child.WellFormed) :
    (q.withGroup op children).WellFormed := by
  cases hg : q.group? op with
  | none =>
    have hw : q.withGroup op children = q := by
      simp only [Query.withGroup, (group?_eq_none_iff hq.keyed).mp hg]
    rw [hw]
    exact hq
  | some own =>
    rw [withGroup_eq hq.keyed hg]
    exact hq.put (wellFormed_group.mpr ⟨rfl, hc⟩)

end

-- ---------------------------------------------------------------------------
-- Documents
-- ---------------------------------------------------------------------------

/-- What is claimed of a value and what it is read to. The three readers differ in
where the value stands: under a plain key, under a logical key, and among the
children of a group. -/
structure Reads (onNode : Json → Node → Prop) (onChildren : Json → List Query → Prop)
    (onQuery : Json → Query → Prop) (value : Json) : Prop where
  node : ∀ node, Node.ofJson value = .ok node → onNode value node
  children : ∀ key children, groupOfJson key value = .ok children → onChildren value children
  child : ∀ key child, childOfJson key value = .ok child → onQuery value child

section
variable {onNode : Json → Node → Prop} {onChildren : Json → List Query → Prop}
  {onQuery : Json → Query → Prop}

theorem Reads.members (keeps : Members Node → Prop) {members : List (String × Json)}
    (hm : ∀ member ∈ members, Reads onNode onChildren onQuery member.2)
    (plain : ∀ member ∈ members, Logical.ofKey? member.1 = none →
      ∀ node, onNode member.2 node → ∀ clauses, keeps clauses → keeps (clauses.put member.1 node))
    (group : ∀ member ∈ members, ∀ op children, onChildren member.2 children →
      ∀ clauses, keeps clauses → keeps (clauses.put op.key (.group op children)))
    {clauses result : Members Node} (hk : keeps clauses)
    (h : ofMembers members clauses = .ok result) : keeps result := by
  induction members generalizing clauses with
  | nil =>
    cases h
    exact hk
  | cons member rest ih =>
    obtain ⟨key, value⟩ := member
    obtain ⟨hvalue, hrest⟩ := List.forall_mem_cons.mp hm
    obtain ⟨hplain, hplains⟩ := List.forall_mem_cons.mp plain
    obtain ⟨hgroup, hgroups⟩ := List.forall_mem_cons.mp group
    simp only [ofMembers] at h
    split at h
    · next hkey =>
      obtain ⟨node, hn, h⟩ := bind_ok.mp h
      exact ih hrest hplains hgroups (hplain hkey node (hvalue.node node hn) clauses hk) h
    · next op _ =>
      split at h
      · cases h
      · obtain ⟨children, hc, h⟩ := bind_ok.mp h
        have hchildren := hvalue.children key children hc
        exact ih hrest hplains hgroups (hgroup op children hchildren clauses hk) h

theorem Reads.items {items : List Json}
    (hi : ∀ item ∈ items, Reads onNode onChildren onQuery item) {key : String}
    {children : List Query} (h : childrenOfItems key items = .ok children) :
    List.Forall₂ onQuery items children := by
  induction items generalizing children with
  | nil =>
    cases h
    exact .nil
  | cons item rest ih =>
    obtain ⟨hitem, hrest⟩ := List.forall_mem_cons.mp hi
    simp only [childrenOfItems, bind_ok, pure_ok] at h
    obtain ⟨child, hc, others, ho, rfl⟩ := h
    exact .cons (hitem.child key child hc) (ih hrest ho)

/-- A claim holds of all values if it holds of operands, of groups of which it holds
child by child, and of objects of whose members it holds. -/
theorem reads_of
    (literal : ∀ value, value.asObject? = none → onNode value (.literal value))
    (group : ∀ items children, List.Forall₂ onQuery items children →
      onChildren (.array items) children)
    (constraint : ∀ members q, onQuery (.object members) q →
      onNode (.object members) (.constraint q))
    (object : ∀ members clauses, (∀ member ∈ members, Reads onNode onChildren onQuery member.2) →
      ofMembers members [] = .ok clauses → onQuery (.object members) ⟨clauses⟩)
    (value : Json) : Reads onNode onChildren onQuery value := by
  induction value using Json.induct with
  | array items ih =>
    refine ⟨?_, fun key children h => group items children (Reads.items ih h), ?_⟩
    · rintro node ⟨⟩
      exact literal _ rfl
    · intro key child h
      simp [childOfJson] at h
  | object members ih =>
    refine ⟨?_, ?_, ?_⟩
    · intro node h
      simp only [Node.ofJson, bind_ok, pure_ok] at h
      obtain ⟨clauses, hc, rfl⟩ := h
      exact constraint members _ (object members clauses ih hc)
    · intro key children h
      simp [groupOfJson] at h
    · intro key child h
      simp only [childOfJson, bind_ok, pure_ok] at h
      obtain ⟨clauses, hc, rfl⟩ := h
      exact object members clauses ih hc
  | _ =>
    refine ⟨?_, ?_, ?_⟩
    · rintro node ⟨⟩
      exact literal _ rfl
    · intro key children h
      simp [groupOfJson] at h
    · intro key child h
      simp [childOfJson] at h

end

theorem childOfJson_of_ofJson {value : Json} {q : Query} (h : ofJson value = .ok q)
    (key : String) : childOfJson key value = .ok q := by
  cases value with
  | object members => exact h
  | _ => simp [ofJson] at h

/-- Reading gives keyed queries, in which no object repeats a name if none does in
the value. -/
def ReadsWell : Json → Prop :=
  Reads
    (fun value node =>
      (∀ key, Logical.ofKey? key = none → node.Keyed key) ∧ (value.Distinct → node.Distinct))
    (fun value children => ∀ child ∈ children, child.Keyed ∧ (value.Distinct → child.Distinct))
    (fun value q => q.Keyed ∧ (value.Distinct → q.Distinct))

theorem readsWell (value : Json) : ReadsWell value := by
  refine reads_of ?literal ?group ?constraint ?object value
  case literal => exact fun value _ => ⟨fun key hkey => hkey, fun hd => hd⟩
  case group =>
    intro items children h child hc
    obtain ⟨item, hi, hk, hd⟩ := exists_of_forall₂_right h hc
    exact ⟨hk, fun hv => hd (Json.distinctItems_iff.mp hv item hi)⟩
  case constraint => exact fun members q h => ⟨fun key hkey => ⟨hkey, h.1⟩, h.2⟩
  case object =>
    intro members clauses hm h
    constructor
    · refine Reads.members (fun clauses => (⟨clauses⟩ : Query).Keyed) hm ?_ ?_ keyed_empty h
      · exact fun member _ hkey node hnode clauses hk => hk.put (hnode.1 member.1 hkey)
      · intro member _ op children hchildren clauses hk
        exact hk.put (keyed_group.mpr ⟨rfl, fun child hc => (hchildren child hc).1⟩)
    · intro hv
      have hvalues := (Json.distinct_object.mp hv).2
      refine Reads.members (fun clauses => (⟨clauses⟩ : Query).Distinct) hm ?_ ?_ distinct_empty h
      · exact fun member hmem _ node hnode clauses hd => hd.put (hnode.2 (hvalues member hmem))
      · intro member hmem op children hchildren clauses hd
        refine hd.put (distinct_group.mpr fun child hc => ?_)
        exact (hchildren child hc).2 (hvalues member hmem)

theorem ofJson_well {value : Json} {q : Query} (h : ofJson value = .ok q) :
    q.Keyed ∧ (value.Distinct → q.Distinct) :=
  (readsWell value).child "" q (childOfJson_of_ofJson h "")

theorem ofJson_wellFormed {value : Json} {q : Query} (hv : value.Distinct)
    (h : ofJson value = .ok q) : q.WellFormed :=
  ⟨(ofJson_well h).1, (ofJson_well h).2 hv⟩

/-- The clause that a member is read to. -/
inductive ReadsTo : String × Json → String × Node → Prop where
  | plain {key : String} {value : Json} {node : Node} (hkey : Logical.ofKey? key = none)
      (h : Node.ofJson value = .ok node) : ReadsTo (key, value) (key, node)
  | group {key : String} {value : Json} {op : Logical} {children : List Query}
      (hkey : Logical.ofKey? key = some op) (h : groupOfJson key value = .ok children) :
      ReadsTo (key, value) (op.key, .group op children)

theorem ofMembers_appends {members : List (String × Json)} (hd : Members.Distinct members)
    {clauses result : Members Node}
    (hnew : ∀ key ∈ Members.names members, Logical.ofKey? key = none → clauses.get? key = none)
    (h : ofMembers members clauses = .ok result) :
    ∃ read, result = clauses ++ read ∧ List.Forall₂ ReadsTo members read := by
  induction members generalizing clauses with
  | nil =>
    simp only [ofMembers, Except.ok.injEq] at h
    exact ⟨[], by simp [h], .nil⟩
  | cons member rest ih =>
    obtain ⟨key, value⟩ := member
    obtain ⟨hkey, hdist⟩ := List.nodup_cons.mp hd
    -- The clause goes last, and no plain key to come is its name.
    have happend : ∀ name node, clauses.get? name = none →
        (∀ other ∈ Members.names rest, Logical.ofKey? other = none → other ≠ name) →
        ReadsTo (key, value) (name, node) → ofMembers rest (clauses.put name node) = .ok result →
        ∃ read, result = clauses ++ read ∧ List.Forall₂ ReadsTo ((key, value) :: rest) read := by
      intro name node hnone hother hreads hread
      have hnew' : ∀ other ∈ Members.names rest, Logical.ofKey? other = none →
          (clauses.put name node).get? other = none := by
        intro other ho hplain
        rw [Members.get?_put, if_neg (hother other ho hplain)]
        exact hnew other (List.mem_cons_of_mem _ ho) hplain
      obtain ⟨read, rfl, hrest⟩ := ih hdist hnew' hread
      refine ⟨(name, node) :: read, ?_, .cons hreads hrest⟩
      rw [Members.put_of_get?_eq_none hnone, List.append_assoc, List.singleton_append]
    simp only [ofMembers] at h
    split at h
    · next hplain =>
      obtain ⟨node, hnode, h⟩ := bind_ok.mp h
      refine happend key node (hnew key List.mem_cons_self hplain) ?_ (.plain hplain hnode) h
      exact fun other ho _ he => hkey (he ▸ ho)
    · next op hop =>
      split at h
      · cases h
      · next hhas =>
        obtain ⟨children, hchildren, h⟩ := bind_ok.mp h
        refine happend op.key (.group op children) (by simpa [Members.has] using hhas) ?_
          (.group hop hchildren) h
        rintro other - hplain rfl
        simp at hplain

theorem ofMembers_reads {members : List (String × Json)} (hd : Members.Distinct members)
    {result : Members Node} (h : ofMembers members [] = .ok result) :
    List.Forall₂ ReadsTo members result := by
  obtain ⟨read, rfl, hreads⟩ := ofMembers_appends hd (fun _ _ _ => rfl) h
  exact hreads

end Query

end QueryGuard
