import QueryGuard.Proofs.WellFormed

/-!
# Native spelling

What is read from a document is written with the logical keys in their native
spelling, and as it was in everything else. Reading does not see the spelling, so
what is written is read to the same query again (`ofJson_ok_iff_native`).
-/

namespace QueryGuard

namespace Json

mutual
/-- The document with native logical keys. Arrays are left as they are, but for
those that a logical key holds. -/
def native : Json → Json
  | .object members => .object (nativeMembers members)
  | value => value
def nativeMembers : List (String × Json) → List (String × Json)
  | [] => []
  | (key, value) :: rest =>
    (match Logical.ofKey? key with
      | some op => (op.key, value.nativeGroup)
      | none => (key, value.native)) :: nativeMembers rest
/-- The items of the array are documents. -/
def nativeGroup : Json → Json
  | .array items => .array (nativeItems items)
  | value => value
def nativeItems : List Json → List Json
  | [] => []
  | item :: rest => item.native :: nativeItems rest
end

end Json

namespace Query

-- ---------------------------------------------------------------------------
-- Reading
-- ---------------------------------------------------------------------------

/-- The spelling makes no difference to what is read from a value, wherever it
stands. -/
structure ReadsNative (value : Json) : Prop where
  node : ∀ node, Node.ofJson value.native = .ok node ↔ Node.ofJson value = .ok node
  children : ∀ key own children, groupOfJson own value.nativeGroup = .ok children ↔
    groupOfJson key value = .ok children
  child : ∀ key own child, childOfJson own value.native = .ok child ↔
    childOfJson key value = .ok child

theorem ofMembers_native {members : List (String × Json)}
    (hm : ∀ member ∈ members, ReadsNative member.2) {clauses result : Members Node} :
    ofMembers (Json.nativeMembers members) clauses = .ok result ↔
      ofMembers members clauses = .ok result := by
  induction members generalizing clauses with
  | nil => rfl
  | cons member rest ih =>
    obtain ⟨key, value⟩ := member
    obtain ⟨hvalue, hrest⟩ := List.forall_mem_cons.mp hm
    have ih := @ih hrest
    cases hkey : Logical.ofKey? key with
    | none => simp only [Json.nativeMembers, ofMembers, hkey, bind_ok, hvalue.node, ih]
    | some op =>
      simp only [Json.nativeMembers, ofMembers, hkey, Logical.ofKey?_key]
      split
      · simp
      · simp only [bind_ok, hvalue.children key, ih]

theorem childrenOfItems_native {items : List Json} (hi : ∀ item ∈ items, ReadsNative item)
    {key own : String} {children : List Query} :
    childrenOfItems own (Json.nativeItems items) = .ok children ↔
      childrenOfItems key items = .ok children := by
  induction items generalizing children with
  | nil => simp [Json.nativeItems, childrenOfItems]
  | cons item rest ih =>
    obtain ⟨hitem, hrest⟩ := List.forall_mem_cons.mp hi
    simp only [Json.nativeItems, childrenOfItems, bind_ok, hitem.child key, ih hrest]

theorem readsNative (value : Json) : ReadsNative value := by
  induction value using Json.induct with
  | array items ih =>
    refine ⟨fun node => Iff.rfl, fun key own children => ?_, fun key own child => ?_⟩
    · exact childrenOfItems_native ih
    · simp [Json.native, childOfJson]
  | object members ih =>
    refine ⟨fun node => ?_, fun key own children => ?_, fun key own child => ?_⟩
    · simp only [Json.native, Node.ofJson, bind_ok, ofMembers_native ih]
    · simp [Json.nativeGroup, groupOfJson]
    · simp only [Json.native, childOfJson, bind_ok, ofMembers_native ih]
  | _ =>
    refine ⟨fun node => Iff.rfl, fun key own children => ?_, fun key own child => ?_⟩
    · simp [Json.nativeGroup, groupOfJson]
    · simp [Json.native, childOfJson]

theorem ofJson_native {value : Json} {q : Query} :
    ofJson value.native = .ok q ↔ ofJson value = .ok q := by
  cases value with
  | object members =>
    simp only [Json.native, ofJson, bind_ok, ofMembers_native fun member _ => readsNative member.2]
  | _ => rfl

-- ---------------------------------------------------------------------------
-- Writing
-- ---------------------------------------------------------------------------

/-- What is read from a value is written as the value is spelt natively. -/
def WritesNative : Json → Prop :=
  Reads (fun value node => value.Distinct → node.toJson = value.native)
    (fun value children => value.Distinct → .array (toJsonAll children) = value.nativeGroup)
    (fun value q => value.Distinct → q.toJson = value.native)

theorem toJsonAll_native {items : List Json} {children : List Query}
    (hd : ∀ item ∈ items, item.Distinct)
    (h : List.Forall₂ (fun item child => item.Distinct → child.toJson = item.native)
      items children) :
    toJsonAll children = Json.nativeItems items := by
  induction h with
  | nil => rfl
  | cons hchild _ ih =>
    obtain ⟨hitem, hrest⟩ := List.forall_mem_cons.mp hd
    rw [toJsonAll, Json.nativeItems, hchild hitem, ih hrest]

theorem toJsonClauses_native {members : List (String × Json)} {clauses : List (String × Node)}
    (hm : ∀ member ∈ members, WritesNative member.2) (hd : ∀ member ∈ members, member.2.Distinct)
    (h : List.Forall₂ ReadsTo members clauses) :
    toJsonClauses clauses = Json.nativeMembers members := by
  induction h with
  | nil => rfl
  | cons hreads _ ih =>
    obtain ⟨hvalue, hrest⟩ := List.forall_mem_cons.mp hm
    obtain ⟨hdist, hdists⟩ := List.forall_mem_cons.mp hd
    rw [toJsonClauses, Json.nativeMembers, ih hrest hdists]
    cases hreads with
    | plain hkey h => simp only [hkey, hvalue.node _ h hdist]
    | group hkey h => simp only [hkey, Node.toJson, hvalue.children _ _ h hdist]

theorem writesNative (value : Json) : WritesNative value := by
  refine reads_of ?literal ?group ?constraint ?object value
  case literal =>
    intro value h _
    cases value with
    | object => cases h
    | _ => rfl
  case group =>
    intro items children h hd
    rw [toJsonAll_native (Json.distinctItems_iff.mp hd) h, Json.nativeGroup]
  case constraint => exact fun members q h => h
  case object =>
    intro members clauses hm h hd
    obtain ⟨hdist, hvalues⟩ := Json.distinct_object.mp hd
    rw [toJson, Json.native, toJsonClauses_native hm hvalues (ofMembers_reads hdist h)]

theorem toJson_of_ofJson {value : Json} {q : Query} (hd : value.Distinct)
    (h : ofJson value = .ok q) : q.toJson = value.native :=
  (writesNative value).child "" q (childOfJson_of_ofJson h "") hd

/-- A document is read to the query that is written as the document is spelt
natively, and that is itself read back from there. -/
theorem ofJson_ok_iff_native {value : Json} {q : Query} (hd : value.Distinct) :
    ofJson value = .ok q ↔ q.toJson = value.native ∧ ofJson q.toJson = .ok q := by
  constructor
  · intro h
    have hwritten := toJson_of_ofJson hd h
    exact ⟨hwritten, hwritten ▸ ofJson_native.mpr h⟩
  · rintro ⟨hwritten, hread⟩
    rw [hwritten] at hread
    exact ofJson_native.mp hread

/-- Below a plain key an array is a value, whatever its items look like; below a
logical key it is a group at every depth. -/
theorem ofJson_ok_iff_native_nested :
    let value : Json := .object [("tags", .array [.object [("@or", .null)]]),
      ("@and", .array [.object [("@or", .array [])]])]
    let q : Query := ⟨[("tags", .literal (.array [.object [("@or", .null)]])),
      ("$and", .group .and [⟨[("$or", .group .or [])]⟩])]⟩
    value.Distinct ∧ ofJson value = .ok q ∧
      q.toJson = .object [("tags", .array [.object [("@or", .null)]]),
        ("$and", .array [.object [("$or", .array [])]])] ∧
      ofJson q.toJson = .ok q := by
  intro value q
  have hd : value.Distinct := by
    simp [value, Json.Distinct, Json.DistinctItems, Json.DistinctMembers, Members.Distinct,
      Members.names]
  have hread : ofJson value = .ok q := rfl
  have hwritten := (ofJson_ok_iff_native hd).mp hread
  exact ⟨hd, hread, hwritten.1, hwritten.2⟩

end Query

end QueryGuard
