import Mathlib
import QueryGuard.Proofs.Lowering

/-!
# Lowering fragments

A fragment is lowered as it was read. Reading changes nothing about what is to
be written, so that the native query can be compared with the fragment itself.
-/

namespace QueryGuard

open Query

-- ---------------------------------------------------------------------------
-- What a fragment writes
-- ---------------------------------------------------------------------------

mutual
/-- The same of a fragment as it is written. -/
def Json.writingsUnder (key : String) : Json → List Writing
  | .object members =>
    if Key.isOperator key then
      (Json.writingsOf members).flatMap (Writing.compared (Key.native key))
    else (Writing.root :: Json.writingsOf members).map (Writing.under (.key key))
  | .array items =>
    match Logical.ofKey? key with
    | some op => (⟨[], .group⟩ :: Json.writingsAll 0 items).map (Writing.under (.key op.key))
    | none => [⟨[.key (Key.native key)], .operand (.array items)⟩]
  | value => [⟨[.key (Key.native key)], .operand value⟩]
def Json.writingsOf : List (String × Json) → List Writing
  | [] => []
  | (key, value) :: rest => value.writingsUnder key ++ Json.writingsOf rest
def Json.writingsAll (index : Nat) : List Json → List Writing
  | [] => []
  | .object members :: rest =>
    (Writing.root :: Json.writingsOf members).map (Writing.under (.child index)) ++
      Json.writingsAll (index + 1) rest
  | _ :: rest => Json.writingsAll (index + 1) rest
end

def Json.writings : Json → List Writing
  | .object members => Json.writingsOf members
  | _ => []

namespace Query

-- ---------------------------------------------------------------------------
-- Reading
-- ---------------------------------------------------------------------------

/-- Reading a value keeps what it writes. -/
def ReadsAlike : Json → Prop :=
  Reads
    (fun value node => value.Distinct → ∀ key, Logical.ofKey? key = none →
      node.writings key = value.writingsUnder key)
    (fun value children => value.Distinct → ∀ key op, Logical.ofKey? key = some op →
      (Node.group op children).writings op.key = value.writingsUnder key)
    (fun value q => value.Distinct → (∃ members, value = .object members) ∧
      q.writings = value.writings)

theorem writingsOf_alike {members : List (String × Json)} {clauses : List (String × Node)}
    (hm : ∀ member ∈ members, ReadsAlike member.2) (hd : ∀ member ∈ members, member.2.Distinct)
    (h : List.Forall₂ ReadsTo members clauses) :
    writingsOf clauses = Json.writingsOf members := by
  induction h with
  | nil => rfl
  | cons hreads _ ih =>
    obtain ⟨hvalue, hrest⟩ := List.forall_mem_cons.mp hm
    obtain ⟨hdist, hdists⟩ := List.forall_mem_cons.mp hd
    rw [writingsOf, Json.writingsOf, ih hrest hdists]
    cases hreads with
    | plain hkey h => rw [hvalue.node _ h hdist _ hkey]
    | group hkey h => rw [hvalue.children _ _ h hdist _ _ hkey]

theorem writingsAll_alike {items : List Json} {children : List Query}
    (hd : ∀ item ∈ items, item.Distinct)
    (h : List.Forall₂ (fun item child => item.Distinct → (∃ members, item = .object members) ∧
      child.writings = item.writings) items children) (index : Nat) :
    writingsAll index children = Json.writingsAll index items := by
  induction h generalizing index with
  | nil => rfl
  | @cons item child _ _ hchild _ ih =>
    obtain ⟨hitem, hrest⟩ := List.forall_mem_cons.mp hd
    obtain ⟨⟨members, rfl⟩, hwrites⟩ := hchild hitem
    cases child
    simp only [writings, Json.writings] at hwrites
    rw [writingsAll, Json.writingsAll, ih hrest, hwrites]

theorem readsAlike (value : Json) : ReadsAlike value := by
  refine reads_of ?literal ?group ?constraint ?object value
  case literal =>
    intro value h _ key hkey
    cases value with
    | object => cases h
    | array => simp [Node.writings, Json.writingsUnder, hkey]
    | _ => simp [Node.writings, Json.writingsUnder]
  case group =>
    intro items children h hd key op hkey
    simp [Node.writings, Json.writingsUnder, hkey,
      writingsAll_alike (Json.distinctItems_iff.mp hd) h]
  case constraint =>
    rintro members ⟨clauses⟩ h hd key -
    obtain ⟨-, hwrites⟩ := h hd
    simp only [writings, Json.writings] at hwrites
    simp [Node.writings, Json.writingsUnder, hwrites]
  case object =>
    intro members clauses hm h hd
    obtain ⟨hdist, hvalues⟩ := Json.distinct_object.mp hd
    exact ⟨⟨members, rfl⟩, writingsOf_alike hm hvalues (ofMembers_reads hdist h)⟩

theorem ofJson_writings {fragment : Json} {q : Query} (hd : fragment.Distinct)
    (h : ofJson fragment = .ok q) : q.writings = fragment.writings :=
  ((readsAlike fragment).child "" q (childOfJson_of_ofJson h "") hd).2

end Query

/-- The leaf constraints of a fragment. -/
def Json.leaves (fragment : Json) : List Writing := fragment.writings.filter Writing.isLeaf

/-- Lowering a fragment keeps all its leaf constraints, exactly if none of them
is overridden by what is written after it. -/
theorem Json.lower?_keeps_iff {fragment : Json} {lowered : Option Query} (hd : fragment.Distinct)
    (h : fragment.lower? = .ok lowered) :
    ((∀ leaf ∈ fragment.leaves, ∃ q ∈ lowered, (Node.constraint q).Shows leaf) ↔
        ∀ leaf ∈ fragment.leaves, Writing.Stands fragment.writings leaf) ∧
      ∀ leaf ∈ fragment.leaves, Writing.Stands fragment.writings leaf →
        ∃ q ∈ lowered, (Node.constraint q).Shows leaf := by
  unfold Json.lower? at h
  split at h
  · next hnull =>
    cases fragment with
    | null => simp [Json.leaves, Json.writings]
    | _ => simp [Json.isNull] at hnull
  · split at h
    · cases h
    · next q hread =>
      cases hlower : q.lower with
      | error => simp [hlower] at h
      | ok native =>
        obtain rfl : some native = lowered := by simpa [hlower] using h
        have hrecords := (lowering_records.1 q (ofJson_well hread).1 false native hlower).2
        rw [ofJson_writings hd hread] at hrecords
        simp only [Option.mem_some_iff, exists_eq_left']
        exact ⟨hrecords.leaves_iff, fun leaf _ hstands => hrecords.shown leaf hstands.cons⟩

theorem Json.lower?_keeps_comparisons :
    ∃ q, (Json.object [("age", .object [("@gt", .null)]),
        ("@lt", .object [("age", .bool true)])]).lower? = .ok (some q) ∧
      (Node.constraint q).Shows ⟨[.key "age", .key "$gt"], .operand .null⟩ ∧
      (Node.constraint q).Shows ⟨[.key "age", .key "$lt"], .operand (.bool true)⟩ := by
  have hlower : (Json.object [("age", .object [("@gt", .null)]),
      ("@lt", .object [("age", .bool true)])]).lower? = .ok (some (ofClauses [("age",
        .constraint (ofClauses [("$gt", .literal .null), ("$lt", .literal (.bool true))]))])) := by
    cbv
  have hdistinct : (Json.object [("age", .object [("@gt", .null)]),
      ("@lt", .object [("age", .bool true)])]).Distinct := by
    simp [Json.Distinct, Json.DistinctMembers, Members.Distinct, Members.names]
  have hwritings : (Json.object [("age", .object [("@gt", .null)]),
      ("@lt", .object [("age", .bool true)])]).writings =
        [⟨[.key "age"], .map⟩, ⟨[.key "age", .key "$gt"], .operand .null⟩,
          ⟨[.key "age"], .map⟩, ⟨[.key "age", .key "$lt"], .operand (.bool true)⟩] := by
    cbv
  have hiff := (Json.lower?_keeps_iff hdistinct hlower).1
  rw [Json.leaves, hwritings] at hiff
  have hkept := hiff.mpr fun leaf hl =>
    Writing.stands_of_pairwise (by simp [Writing.Overrides]) (List.mem_filter.mp hl).1
  simp only [Option.mem_some_iff, exists_eq_left'] at hkept
  exact ⟨_, hlower, hkept _ (by simp [Writing.isLeaf]), hkept _ (by simp [Writing.isLeaf])⟩

/-- The map of a field takes the place of its operand. -/
theorem Json.lower?_loses_operand :
    (Json.object [("status", .string "x"),
        ("@eq", .object [("status", .string "active")])]).lower? =
      .ok (some (ofClauses [("status", .constraint (ofField "$eq" (.string "active")))])) ∧
    ⟨[.key "status"], .operand (.string "x")⟩ ∈ (Json.object [("status", .string "x"),
      ("@eq", .object [("status", .string "active")])]).leaves ∧
    ¬(Node.constraint (ofClauses [("status", .constraint
        (ofField "$eq" (.string "active")))])).Shows ⟨[.key "status"], .operand (.string "x")⟩ := by
  refine ⟨by cbv, ?_, ?_⟩
  · have hwritings : (Json.object [("status", .string "x"),
        ("@eq", .object [("status", .string "active")])]).writings =
          [⟨[.key "status"], .operand (.string "x")⟩, ⟨[.key "status"], .map⟩,
            ⟨[.key "status", .key "$eq"], .operand (.string "active")⟩] := by
      cbv
    simp [Json.leaves, hwritings, Writing.isLeaf]
  · have hat : (Node.constraint (ofClauses [("status", .constraint
        (ofField "$eq" (.string "active")))])).at? [.key "status"] =
          some (.constraint (ofField "$eq" (.string "active"))) := by
      rfl
    simp [Node.Shows, hat, Node.content]

end QueryGuard
