import QueryGuard.Proofs.Acceptance

/-!
# Operators over maps of fields

A policy may put an operator over a map of fields or under every field of the map.
Applying it to the map comes to the same, clause by clause, as lowering the fields
with the operator under them (`lowering_comparing`). And what is lowered alike may be
exchanged inside fields and groups (`Surroundings.alike`), so that the two spellings
are one wherever they stand (`lower?_distributes`).
-/

namespace QueryGuard

open Query

-- ---------------------------------------------------------------------------
-- Maps of fields
-- ---------------------------------------------------------------------------

/-- The objects at every depth have field names only. What is no object is an
operand, whatever is in it. -/
inductive Json.Fieldwise : Json → Prop where
  | operand {value : Json} (h : value.asObject? = none) : Fieldwise value
  | fields {members : Members Json} (plain : ∀ member ∈ members, Key.isOperator member.1 = false)
      (inner : ∀ member ∈ members, Fieldwise member.2) : Fieldwise (.object members)

mutual
/-- Puts every operand of a tree of fields under an operator key. -/
def Json.comparing (key : String) : Json → Json
  | .object members => .object (Json.comparingMembers key members)
  | value => .object [(key, value)]
def Json.comparingMembers (key : String) : List (String × Json) → List (String × Json)
  | [] => []
  | (name, value) :: rest => (name, value.comparing key) :: Json.comparingMembers key rest
end

mutual
/-- The same of what the tree is read to. -/
def Node.comparing (key : String) : Node → Node
  | .literal value => .constraint ⟨[(key, .literal value)]⟩
  | .constraint ⟨clauses⟩ => .constraint ⟨Query.comparingClauses key clauses⟩
  | node => node
def Query.comparingClauses (key : String) : List (String × Node) → List (String × Node)
  | [] => []
  | (name, node) :: rest => (name, node.comparing key) :: Query.comparingClauses key rest
end

theorem Json.comparing_operand {value : Json} (key : String) (h : value.asObject? = none) :
    value.comparing key = .object [(key, value)] := by
  cases value with
  | object => cases h
  | _ => rfl

theorem Key.ofKey?_of_plain {key : String} (h : Key.isOperator key = false) :
    Logical.ofKey? key = none := by
  refine Option.eq_none_iff_forall_ne_some.mpr fun op hop => ?_
  rcases Logical.ofKey?_eq_some_iff.mp hop with hm
  cases op <;> rcases List.mem_pair.mp hm with rfl | rfl <;> simp [Key.isOperator] at h

namespace Query

-- ---------------------------------------------------------------------------
-- Reading
-- ---------------------------------------------------------------------------

section
variable {key name : String} {node : Node} {value : Json} {clauses : Members Node}

theorem comparingClauses_put : comparingClauses key (clauses.put name node) =
    Members.put name (node.comparing key) (comparingClauses key clauses) := by
  induction clauses with
  | nil => rfl
  | cons clause rest ih =>
    obtain ⟨other, held⟩ := clause
    by_cases he : other = name
    · simp [Members.put, comparingClauses, he]
    · simp [Members.put, comparingClauses, he, ih]

/-- The value is read to a tree of fields, in which the operator stands where it
stands in the value. -/
def ReadsComparing (key field : String) (value : Json) : Prop :=
  ∃ node, Node.ofJson value = .ok node ∧
    Node.ofJson (value.comparing key) = .ok (node.comparing key) ∧
    node.Throughout PolicyClause .operand field

theorem ofMembers_comparing {members : List (String × Json)}
    (hplain : ∀ member ∈ members, Key.isOperator member.1 = false)
    (hm : ∀ member ∈ members, ReadsComparing key member.1 member.2)
    (hc : (⟨clauses⟩ : Query).Throughout PolicyClause .operand) :
    ∃ result, ofMembers members clauses = .ok result ∧
      ofMembers (Json.comparingMembers key members) (comparingClauses key clauses) =
        .ok (comparingClauses key result) ∧
      (⟨result⟩ : Query).Throughout PolicyClause .operand := by
  induction members generalizing clauses with
  | nil => exact ⟨clauses, rfl, rfl, hc⟩
  | cons member rest ih =>
    obtain ⟨name, value⟩ := member
    obtain ⟨hname, hnames⟩ := List.forall_mem_cons.mp hplain
    obtain ⟨⟨node, hread, hreads, hfields⟩, hrest⟩ := List.forall_mem_cons.mp hm
    have hkey := Key.ofKey?_of_plain hname
    obtain ⟨result, hresult, hcompared, ht⟩ := ih hnames hrest (hc.put hfields)
    refine ⟨result, ?_, ?_, ht⟩
    · simp only [ofMembers, hkey, bind_ok]
      exact ⟨node, hread, hresult⟩
    · simp only [Json.comparingMembers, ofMembers, hkey, bind_ok]
      exact ⟨_, hreads, comparingClauses_put ▸ hcompared⟩

theorem reads_comparing (h : value.Fieldwise) (hkey : Logical.ofKey? key = none) {field : String}
    (hfield : Key.isOperator field = false) : ReadsComparing key field value := by
  induction h generalizing field with
  | @operand value h =>
    have hread : Node.ofJson value = .ok (.literal value) := by
      cases value with
      | object => cases h
      | _ => rfl
    refine ⟨.literal value, hread, ?_, throughout_literal.mpr (PolicyClause.operand_iff.mpr hfield)⟩
    simp only [Json.comparing_operand key h, Node.ofJson, ofMembers, hkey, hread]
    rfl
  | @fields members plain inner ih =>
    obtain ⟨clauses, hread, hreads, hclauses⟩ := ofMembers_comparing plain
      (fun member hm => ih member hm (plain member hm)) throughout_empty
    refine ⟨.constraint ⟨clauses⟩, ?_, ?_, ?_⟩
    · simp only [Node.ofJson, bind_ok, pure_ok]
      exact ⟨clauses, hread, rfl⟩
    · simp only [Json.comparing, Node.ofJson, bind_ok, pure_ok]
      exact ⟨_, hreads, rfl⟩
    · refine throughout_constraint.mpr ⟨PolicyClause.operand_iff.mpr hfield, ?_⟩
      rwa [Scope.below_operand]

end

-- ---------------------------------------------------------------------------
-- Lowering
-- ---------------------------------------------------------------------------

section
variable {source target : Query} {written : String} {op : Comparison}

theorem mergeClauses_new (hk : source.Keyed)
    (hnew : ∀ key ∈ Members.names source.clauses, target.get? key = none) :
    mergeClauses source.clauses target = ⟨target.clauses ++ source.clauses⟩ := by
  obtain ⟨clauses⟩ := source
  induction clauses generalizing target with
  | nil =>
    cases target
    simp [mergeClauses]
  | cons clause rest ih =>
    obtain ⟨key, node⟩ := clause
    obtain ⟨hn, -, hrest⟩ := keyed_cons.mp hk
    have hfirst := hnew key List.mem_cons_self
    have hjoined : joined node none = node := by
      rcases joined_cases node none with h | ⟨_, _, _, h, _⟩
      · exact h
      · cases h
    have hmerged := ih hrest (hk.unheld_rest hnew)
    rw [mergeClauses, mergeNode_eq_put hn, hfirst, hjoined, hmerged]
    simp [put_of_new (Members.get?_eq_none_iff.mp hfirst)]

theorem lowering_comparing (hw : written ∈ op.spellings) :
    (∀ q : Query, q.Keyed → q.Throughout PolicyClause .operand → ∀ inField target,
      lowerClauses inField (comparingClauses written q.clauses) target =
        distribute op written q.clauses target) ∧
    ∀ n : Node, ∀ field, n.Keyed field → n.Throughout PolicyClause .operand field →
      ∀ inField target, lowerNode inField field (n.comparing written) target = do
        let nested ← distributeNode op written n
        return mergeNode field (.constraint nested) target := by
  refine induct (fun value field hn ht inField target => ?_)
    (fun q ih field hn ht inField target => ?_)
    (fun op children _ field hn ht inField target => ?_)
    fun clauses ih hq ht inField target => ?_
  · have hfield := PolicyClause.operand_iff.mp (throughout_literal.mp ht)
    have hoperator := Comparison.isOperator_of_mem_spellings hw
    simp only [Node.comparing, lowerNode, lowerClauses, lowerLiteral, hfield, hoperator,
      Comparison.comparisonOf_ok.mpr hw, distributeNode, if_true]
    rfl
  · obtain ⟨inner⟩ := q
    obtain ⟨hclause, hinner⟩ := throughout_constraint.mp ht
    have hfield := PolicyClause.operand_iff.mp hclause
    have hnested : lowerClauses true (comparingClauses written inner) empty =
        distribute op written inner empty :=
      ih hn.2 (Scope.below_operand ▸ hinner) true empty
    simp only [Node.comparing, lowerNode, hfield, hnested, distributeNode]
    rfl
  · obtain ⟨rfl, -⟩ := keyed_group.mp hn
    have hfield := PolicyClause.operand_iff.mp ht.1
    exact absurd op.head?_key (Key.heads_of_plain hfield).2
  · induction clauses generalizing target with
    | nil => rfl
    | cons clause rest ihrest =>
      obtain ⟨field, node⟩ := clause
      obtain ⟨hnode, hnodes⟩ := List.forall_mem_cons.mp ih
      obtain ⟨hn, -, hrest⟩ := keyed_cons.mp hq
      obtain ⟨hfield, hfields⟩ := throughout_cons.mp ht
      have hplain := PolicyClause.operand_iff.mp hfield.1
      simp only [comparingClauses, lowerClauses, hnode field hn hfield, distribute, hplain,
        bind_assoc, pure_bind, ihrest hnodes hrest hfields]
      rfl

theorem lowerClauses_operator (hw : written ∈ op.spellings) {fields : List (String × Node)}
    (hk : (⟨fields⟩ : Query).Keyed) (ht : (⟨fields⟩ : Query).Throughout PolicyClause .operand)
    (inField : Bool) :
    lowerClauses inField [(written, .constraint ⟨fields⟩)] empty =
      lowerClauses inField (comparingClauses written fields) empty := by
  have hcompared : lowerClauses inField (comparingClauses written fields) empty =
      distribute op written fields empty :=
    (lowering_comparing hw).1 ⟨fields⟩ hk ht inField empty
  rw [hcompared]
  simp only [lowerClauses, lowerNode, Comparison.isOperator_of_mem_spellings hw, if_true,
    Comparison.comparisonOf_ok.mpr hw, bind, Except.bind, pure, Except.pure]
  cases hd : distribute op written fields empty with
  | error e => rfl
  | ok distributed =>
    have hkeyed := ((distribute_records op written).1 ⟨fields⟩ hk empty distributed [] hd
      Distributed.empty).keyed
    obtain ⟨clauses⟩ := distributed
    exact congrArg Except.ok (mergeClauses_new hkeyed fun _ _ => rfl)

end

end Query

-- ---------------------------------------------------------------------------
-- Surroundings
-- ---------------------------------------------------------------------------

/-- What may stand around the members of an object: fields and groups, with any
other children beside the object. -/
inductive Surroundings where
  | none
  | field (name : String) (plain : Key.isOperator name = false) (inner : Surroundings)
  | group (op : Logical) (key : String) (spelt : key ∈ op.spellings) (before after : List Json)
      (inner : Surroundings)

def Surroundings.fill : Surroundings → Members Json → Members Json
  | .none, members => members
  | .field name _ inner, members => [(name, .object (inner.fill members))]
  | .group _ key _ before after inner, members =>
    [(key, .array (before ++ .object (inner.fill members) :: after))]

namespace Query

section
variable {name key : String} {op : Logical}

theorem ofMembers_field (hname : Key.isOperator name = false) (members : Members Json) :
    ofMembers [(name, .object members)] [] = do
      let inner ← ofMembers members []
      return [(name, .constraint ⟨inner⟩)] := by
  simp only [ofMembers, Key.ofKey?_of_plain hname, Node.ofJson]
  cases ofMembers members [] <;> rfl

theorem childrenOfItems_append (items others : List Json) :
    childrenOfItems key (items ++ others) = do
      let children ← childrenOfItems key items
      let rest ← childrenOfItems key others
      return children ++ rest := by
  induction items with
  | nil =>
    simp only [List.nil_append, childrenOfItems]
    cases childrenOfItems key others <;> rfl
  | cons item items ih => simp [childrenOfItems, ih]

theorem ofMembers_group (hkey : key ∈ op.spellings) (before after : List Json)
    (members : Members Json) :
    ofMembers [(key, .array (before ++ .object members :: after))] [] = do
      let earlier ← childrenOfItems key before
      let inner ← ofMembers members []
      let later ← childrenOfItems key after
      return [(op.key, .group op (earlier ++ ⟨inner⟩ :: later))] := by
  have hhas : Members.has ([] : Members Node) op.key = false := rfl
  simp only [ofMembers, Logical.ofKey?_eq_some_iff.mpr hkey, hhas, groupOfJson,
    childrenOfItems_append, childrenOfItems, childOfJson, bind_assoc, pure_bind]
  rfl

theorem lowerAll_append (children others : List Query) :
    lowerAll (children ++ others) = do
      let first ← lowerAll children
      let rest ← lowerAll others
      return first ++ rest := by
  induction children with
  | nil =>
    simp only [List.nil_append, lowerAll]
    cases lowerAll others <;> rfl
  | cons child children ih =>
    obtain ⟨clauses⟩ := child
    simp [lowerAll, ih]

end

/-- Both are refused for the same reason, or are read to queries that are lowered
alike, in a field or not. -/
inductive LoweredAlike (first second : Members Json) : Prop where
  | refused (e : QueryError) (hfirst : ofMembers first [] = .error e)
      (hsecond : ofMembers second [] = .error e)
  | read (q r : Members Node) (hfirst : ofMembers first [] = .ok q)
      (hsecond : ofMembers second [] = .ok r)
      (h : ∀ inField, lowerClauses inField q empty = lowerClauses inField r empty)

namespace LoweredAlike

variable {first second : Members Json} {name key : String} {op : Logical}

theorem field (h : LoweredAlike first second) (hname : Key.isOperator name = false) :
    LoweredAlike [(name, .object first)] [(name, .object second)] := by
  have hread := ofMembers_field hname
  cases h with
  | refused e hfirst hsecond =>
    refine .refused e ?_ ?_
    · rw [hread, hfirst]
      rfl
    · rw [hread, hsecond]
      rfl
  | read q r hfirst hsecond h =>
    refine .read [(name, .constraint ⟨q⟩)] [(name, .constraint ⟨r⟩)] ?_ ?_ fun inField => ?_
    · rw [hread, hfirst]
      rfl
    · rw [hread, hsecond]
      rfl
    · simp [lowerClauses, lowerNode, hname, h]

/-- Whatever is read first decides: the children before, the object itself, or the
children after it. -/
theorem group (h : LoweredAlike first second) (hkey : key ∈ op.spellings)
    (before after : List Json) :
    LoweredAlike [(key, .array (before ++ .object first :: after))]
      [(key, .array (before ++ .object second :: after))] := by
  have hread := ofMembers_group hkey before after
  cases hbefore : childrenOfItems key before with
  | error e =>
    refine .refused e ?_ ?_ <;> rw [hread, hbefore] <;> rfl
  | ok earlier =>
    cases h with
    | refused e hfirst hsecond =>
      refine .refused e ?_ ?_
      · rw [hread, hbefore, hfirst]
        rfl
      · rw [hread, hbefore, hsecond]
        rfl
    | read q r hfirst hsecond h =>
      cases hafter : childrenOfItems key after with
      | error e =>
        refine .refused e ?_ ?_
        · rw [hread, hbefore, hfirst, hafter]
          rfl
        · rw [hread, hbefore, hsecond, hafter]
          rfl
      | ok later =>
        refine .read [(op.key, .group op (earlier ++ ⟨q⟩ :: later))]
          [(op.key, .group op (earlier ++ ⟨r⟩ :: later))] ?_ ?_ fun inField => ?_
        · rw [hread, hbefore, hfirst, hafter]
          rfl
        · rw [hread, hbefore, hsecond, hafter]
          rfl
        · simp [lowerClauses, lowerNode, lowerAll_append, lowerAll, h]

theorem fill (h : LoweredAlike first second) (around : Surroundings) :
    LoweredAlike (around.fill first) (around.fill second) := by
  induction around with
  | none => exact h
  | field name plain inner ih => exact ih.field plain
  | group op key spelt before after inner ih => exact ih.group spelt before after

theorem lower? (h : LoweredAlike first second) :
    (Json.object first).lower? = (Json.object second).lower? := by
  cases h with
  | refused e hfirst hsecond =>
    simp [Json.lower?, Json.isNull, ofJson, hfirst, hsecond, bind, Except.bind]
  | read q r hfirst hsecond h =>
    simp [Json.lower?, Json.isNull, ofJson, hfirst, hsecond, lower, h]

end LoweredAlike

end Query

namespace Json

section
variable {op : Comparison} {written : String} {members : Members Json}

theorem Fieldwise.read (h : (Json.object members).Fieldwise) (hw : written ∈ op.spellings) :
    ∃ fields, ofMembers [(written, .object members)] [] = .ok [(written, .constraint ⟨fields⟩)] ∧
      ofMembers (comparingMembers written members) [] = .ok (comparingClauses written fields) ∧
      (⟨fields⟩ : Query).Keyed ∧ (⟨fields⟩ : Query).Throughout PolicyClause .operand := by
  have hkey : Logical.ofKey? written = none := by
    rcases List.mem_pair.mp hw with rfl | rfl <;> cases op <;> decide
  cases h with
  | operand h => cases h
  | fields plain inner =>
    obtain ⟨fields, hread, hreads, ht⟩ := ofMembers_comparing plain
      (fun member hm => reads_comparing (inner member hm) hkey (plain member hm)) throughout_empty
    have hquery : Query.ofJson (.object members) = .ok ⟨fields⟩ := by
      simp only [Query.ofJson, bind_ok, pure_ok]
      exact ⟨fields, hread, rfl⟩
    refine ⟨fields, ?_, hreads, (ofJson_well hquery).1, ht⟩
    simp only [ofMembers, hkey, Node.ofJson, hread]
    rfl

theorem Fieldwise.loweredAlike (h : (Json.object members).Fieldwise) (hw : written ∈ op.spellings) :
    LoweredAlike [(written, .object members)] (comparingMembers written members) := by
  obtain ⟨fields, hread, hreads, hk, ht⟩ := h.read hw
  exact .read _ _ hread hreads (lowerClauses_operator hw hk ht)

theorem Fieldwise.accepted (h : (Json.object members).Fieldwise) (hw : written ∈ op.spellings) :
    ∃ lowered, (Json.object [(written, .object members)]).lower? = .ok (some lowered) := by
  obtain ⟨fields, hread, -, hk, ht⟩ := h.read hw
  obtain ⟨lowered, hlowered⟩ := ((distribute_ok_iff op written).1 ⟨fields⟩ hk empty).mpr ht
  refine ⟨lowered, lower?_eq_some_iff.mpr ⟨⟨[(written, .constraint ⟨fields⟩)]⟩, ?_, ?_⟩⟩
  · simp only [Query.ofJson, bind_ok, pure_ok]
    exact ⟨_, hread, rfl⟩
  · rw [lower, lowerClauses_operator hw hk ht, (lowering_comparing hw).1 ⟨fields⟩ hk ht]
    exact hlowered

/-- An operator over a map of fields is lowered as the map with the operator under its
fields is, inside any fields and groups. Outside of all it is accepted. -/
theorem lower?_distributes (hw : written ∈ op.spellings) (h : (Json.object members).Fieldwise)
    (around : Surroundings) :
    (Json.object (around.fill [(written, .object members)])).lower? =
        (Json.object (around.fill (comparingMembers written members))).lower? ∧
      ∃ lowered, (Json.object [(written, .object members)]).lower? = .ok (some lowered) :=
  ⟨((h.loweredAlike hw).fill around).lower?, h.accepted hw⟩

/-- An operand that is an array, an empty map and a field two levels down, in a field
of the second alternative. -/
theorem lower?_distributes_alternative :
    let members : Members Json := [("tags", .array [.string "a"]), ("meta", .object []),
      ("address", .object [("zip", .ofNat 10115)])]
    let around : Surroundings := .group .or "@or" (by decide) [.object [("public", .bool true)]] []
      (.field "profile" (by decide) .none)
    "@eq" ∈ Comparison.eq.spellings ∧ (Json.object members).Fieldwise ∧
      (Json.object (around.fill [("@eq", .object members)])).lower? =
        (Json.object (around.fill [("tags", .object [("@eq", .array [.string "a"])]),
          ("meta", .object []),
          ("address", .object [("zip", .object [("@eq", .ofNat 10115)])])])).lower? := by
  intro members around
  have hw : "@eq" ∈ Comparison.eq.spellings := by decide
  have hfields : (Json.object members).Fieldwise := by
    refine .fields (by decide) ?_
    simp only [members, List.forall_mem_cons]
    refine ⟨.operand rfl, .fields nofun nofun, .fields (by decide) ?_, nofun⟩
    simp only [List.forall_mem_cons]
    exact ⟨.operand rfl, nofun⟩
  exact ⟨hw, hfields, (lower?_distributes hw hfields around).1⟩

end

end Json

end QueryGuard
