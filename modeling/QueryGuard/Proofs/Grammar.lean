import QueryGuard.Proofs.WellFormed

/-!
# The grammar of query documents

An object inside a document is read as a query if it is reached through objects
and through the items of arrays under logical keys. The document can be read
exactly if every such object has arrays of objects under its logical keys and
spells no operator twice (`ofJson_ok_iff_grammatical`). An array under any other
key is an operand, and nothing is asked of what stands in it.
-/

namespace QueryGuard

/-- The spellings of an operator: that of policies and the native one. -/
def Logical.spellings : Logical → List String
  | .and => ["@and", "$and"]
  | .or => ["@or", "$or"]

theorem Logical.ofKey?_eq_some_iff {key : String} {op : Logical} :
    Logical.ofKey? key = some op ↔ key ∈ op.spellings := by
  cases op <;> grind [Logical.ofKey?, Logical.spellings]

theorem Logical.not_mem_spellings {key : String} (h : Logical.ofKey? key = none) (op : Logical) :
    key ∉ op.spellings := by
  intro hop
  rw [Logical.ofKey?_eq_some_iff.mpr hop] at h
  cases h

/-- The keys do not spell the same operator. -/
def Key.Apart (key other : String) : Prop :=
  ∀ op : Logical, key ∈ op.spellings → other ∉ op.spellings

namespace Json

-- ---------------------------------------------------------------------------
-- Grammar
-- ---------------------------------------------------------------------------

/-- The objects inside a document that are read as queries, itself included. -/
inductive Reaches : Json → Members Json → Prop where
  | here (members : Members Json) : Reaches (.object members) members
  | member {members inner : Members Json} {key : String} {value : Json}
      (hm : (key, value) ∈ members) (h : Reaches value inner) : Reaches (.object members) inner
  | item {members inner : Members Json} {key : String} {items : List Json} {item : Json}
      {op : Logical} (hkey : key ∈ op.spellings) (hm : (key, .array items) ∈ members)
      (hi : item ∈ items) (h : Reaches item inner) : Reaches (.object members) inner

/-- What the grammar asks of one object. -/
structure WellGrouped (members : Members Json) : Prop where
  groups : ∀ op : Logical, ∀ key ∈ op.spellings, ∀ value, (key, value) ∈ members →
    ∃ items, value = .array items ∧ ∀ item ∈ items, ∃ inner, item = .object inner
  once : members.names.Pairwise Key.Apart

def Grammatical (value : Json) : Prop := ∀ members, value.Reaches members → WellGrouped members

/-- An array of grammatical objects. -/
def GrammaticalGroup (value : Json) : Prop :=
  ∃ items, value = .array items ∧
    ∀ item ∈ items, (∃ members, item = .object members) ∧ item.Grammatical

/-- What the grammar asks of a member: only under a logical key does it look into
arrays. -/
structure Fits (key : String) (value : Json) : Prop where
  grammatical : value.Grammatical
  group : ∀ op : Logical, key ∈ op.spellings → value.GrammaticalGroup

theorem grammatical_of_array {items : List Json} : (Json.array items).Grammatical := nofun

section
variable {key : String} {value : Json} {op : Logical}

theorem fits_plain (hkey : Logical.ofKey? key = none) : Fits key value ↔ value.Grammatical := by
  refine ⟨Fits.grammatical, fun h => ⟨h, fun op hop => ?_⟩⟩
  exact absurd hop (Logical.not_mem_spellings hkey op)

theorem fits_logical (hkey : key ∈ op.spellings) : Fits key value ↔ value.GrammaticalGroup := by
  refine ⟨fun h => h.group op hkey, fun h => ⟨?_, fun _ _ => h⟩⟩
  obtain ⟨items, rfl, -⟩ := h
  exact grammatical_of_array

end

theorem grammatical_object_iff {members : Members Json} :
    (Json.object members).Grammatical ↔
      (∀ member ∈ members, Fits member.1 member.2) ∧ members.names.Pairwise Key.Apart := by
  constructor
  · intro h
    obtain ⟨hgroups, honce⟩ := h members (.here members)
    refine ⟨?_, honce⟩
    rintro ⟨key, value⟩ hm
    refine ⟨fun inner hinner => h inner (.member hm hinner), fun op hkey => ?_⟩
    obtain ⟨items, rfl, hobjects⟩ := hgroups op key hkey value hm
    refine ⟨items, rfl, fun item hi => ⟨hobjects item hi, fun inner hinner => ?_⟩⟩
    exact h inner (.item hkey hm hi hinner)
  · rintro ⟨hfits, honce⟩ inner hinner
    cases hinner with
    | here =>
      refine ⟨fun op key hkey value hm => ?_, honce⟩
      obtain ⟨items, rfl, hitems⟩ := (hfits _ hm).group op hkey
      exact ⟨items, rfl, fun item hi => (hitems item hi).1⟩
    | member hm h => exact (hfits _ hm).grammatical inner h
    | item hkey hm hi h =>
      obtain ⟨items, heq, hitems⟩ := (hfits _ hm).group _ hkey
      cases heq
      exact (hitems _ hi).2 inner h

end Json

namespace Query

-- ---------------------------------------------------------------------------
-- Operators that have no clause yet
-- ---------------------------------------------------------------------------

/-- Of the operators that the keys spell, none has a clause. -/
def Vacant (clauses : Members Node) (keys : List String) : Prop :=
  ∀ key ∈ keys, ∀ op : Logical, key ∈ op.spellings → Members.has clauses op.key = false

section
variable {clauses : Members Node} {keys : List String} {key other : String} {node : Node}
  {op : Logical}

theorem vacant_nil : Vacant [] keys := fun _ _ _ _ => rfl

theorem vacant_cons : Vacant clauses (key :: keys) ↔
    (∀ op : Logical, key ∈ op.spellings → Members.has clauses op.key = false) ∧
      Vacant clauses keys := List.forall_mem_cons

theorem has_put : Members.has (clauses.put key node) other = false ↔
    other ≠ key ∧ Members.has clauses other = false := by
  rw [Members.has, Members.get?_put]
  split <;> simp_all [Members.has]

theorem vacant_put_plain (hkey : Logical.ofKey? key = none) :
    Vacant (clauses.put key node) keys ↔ Vacant clauses keys := by
  have hne : ∀ op : Logical, op.key ≠ key := by
    rintro op rfl
    simp at hkey
  simp only [Vacant, has_put, ne_eq, hne, not_false_eq_true, true_and]

theorem vacant_put_group : Vacant (clauses.put op.key node) keys ↔
    (∀ other ∈ keys, other ∉ op.spellings) ∧ Vacant clauses keys := by
  constructor
  · intro h
    refine ⟨fun other ho hop => ?_, fun other ho own hown => (has_put.mp (h other ho own hown)).2⟩
    exact (has_put.mp (h other ho op hop)).1 rfl
  · rintro ⟨hother, h⟩ other ho own hown
    refine has_put.mpr ⟨fun he => ?_, h other ho own hown⟩
    obtain rfl := Logical.key_injective he
    exact hother other ho hown

end

-- ---------------------------------------------------------------------------
-- Reading
-- ---------------------------------------------------------------------------

/-- A value can be read exactly if it is grammatical where it stands. -/
structure ReadsGrammatical (value : Json) : Prop where
  node : (∃ node, Node.ofJson value = .ok node) ↔ value.Grammatical
  children : ∀ key, (∃ children, groupOfJson key value = .ok children) ↔ value.GrammaticalGroup
  child : ∀ key, (∃ child, childOfJson key value = .ok child) ↔
    (∃ members, value = .object members) ∧ value.Grammatical

theorem ofMembers_ok_iff {members : List (String × Json)}
    (hm : ∀ member ∈ members, ReadsGrammatical member.2) {clauses : Members Node} :
    (∃ result, ofMembers members clauses = .ok result) ↔
      (∀ member ∈ members, Json.Fits member.1 member.2) ∧
      (Members.names members).Pairwise Key.Apart ∧ Vacant clauses (Members.names members) := by
  induction members generalizing clauses with
  | nil => simp [ofMembers, Members.names, Vacant]
  | cons member rest ih =>
    obtain ⟨key, value⟩ := member
    obtain ⟨hvalue, hrest⟩ := List.forall_mem_cons.mp hm
    have ih := @ih hrest
    have hnames : Members.names ((key, value) :: rest) = key :: Members.names rest := rfl
    rw [hnames, List.forall_mem_cons, List.pairwise_cons, vacant_cons]
    cases hkey : Logical.ofKey? key with
    | none =>
      have hplain := Logical.not_mem_spellings hkey
      have hapart : ∀ other, Key.Apart key other := fun other op hop => absurd hop (hplain op)
      simp only [ofMembers, hkey, bind_ok]
      rw [exists_comm]
      simp only [exists_and_left, ih, vacant_put_plain hkey, exists_and_right, hvalue.node,
        Json.fits_plain hkey, hapart, implies_true, true_and, hplain, false_implies, and_assoc]
    | some op =>
      have hop := Logical.ofKey?_eq_some_iff.mp hkey
      have hown : ∀ own : Logical, key ∈ own.spellings ↔ op = own := by
        intro own
        rw [← Logical.ofKey?_eq_some_iff, hkey, Option.some.injEq]
      simp only [Key.Apart, hown, forall_eq']
      cases hhas : Members.has clauses op.key with
      | true => simp [ofMembers, hkey, hhas]
      | false =>
        simp only [ofMembers, hkey, hhas, Bool.false_eq_true, if_false, bind_ok]
        rw [exists_comm]
        simp only [exists_and_left, ih, vacant_put_group, exists_and_right, hvalue.children,
          Json.fits_logical hop, true_and, and_assoc]
        tauto

theorem childrenOfItems_ok_iff {items : List Json} (hi : ∀ item ∈ items, ReadsGrammatical item)
    {key : String} : (∃ children, childrenOfItems key items = .ok children) ↔
      ∀ item ∈ items, (∃ members, item = .object members) ∧ item.Grammatical := by
  induction items with
  | nil => simp [childrenOfItems]
  | cons item rest ih =>
    obtain ⟨hitem, hrest⟩ := List.forall_mem_cons.mp hi
    rw [List.forall_mem_cons, ← hitem.child key, ← ih hrest]
    simp only [childrenOfItems, bind_ok, pure_ok]
    constructor
    · rintro ⟨_, child, hc, others, ho, rfl⟩
      exact ⟨⟨child, hc⟩, others, ho⟩
    · rintro ⟨⟨child, hc⟩, others, ho⟩
      exact ⟨_, child, hc, others, ho, rfl⟩

theorem readsGrammatical (value : Json) : ReadsGrammatical value := by
  induction value using Json.induct with
  | array items ih =>
    refine ⟨?_, fun key => ?_, fun key => ?_⟩
    · simp [Node.ofJson, Json.grammatical_of_array]
    · simp [groupOfJson, childrenOfItems_ok_iff ih, Json.GrammaticalGroup]
    · simp [childOfJson]
  | object members ih =>
    have hread : (∃ clauses, ofMembers members [] = .ok clauses) ↔
        (Json.object members).Grammatical := by
      rw [ofMembers_ok_iff ih, Json.grammatical_object_iff]
      simp [vacant_nil]
    refine ⟨?_, fun key => ?_, fun key => ?_⟩
    · simp only [Node.ofJson, bind_ok, pure_ok]
      rw [exists_comm]
      simpa using hread
    · simp [groupOfJson, Json.GrammaticalGroup]
    · simp only [childOfJson, bind_ok, pure_ok]
      rw [exists_comm]
      simpa using hread
  | _ =>
    refine ⟨?_, fun key => ?_, fun key => ?_⟩
    · simp only [Node.ofJson, Except.ok.injEq, exists_eq', true_iff]
      intro members h
      cases h
    · simp [groupOfJson, Json.GrammaticalGroup]
    · simp [childOfJson]

/-- What can be read as a query: objects inside which every logical key holds an
array of objects, and no operator is spelt twice. -/
theorem ofJson_ok_iff_grammatical {value : Json} :
    (∃ q, Query.ofJson value = .ok q) ↔
      (∃ members, value = .object members) ∧
        ∀ inner, value.Reaches inner → Json.WellGrouped inner := by
  rw [← Json.Grammatical, ← (readsGrammatical value).child ""]
  cases value <;> simp [ofJson, childOfJson]

end Query

end QueryGuard
