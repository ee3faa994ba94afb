import Mathlib.Data.List.Induction
import QueryGuard.Proofs.WellFormed
import QueryGuard.Query.Merge

/-!
# One step of a merge

`MergeStep` says through look-ups what a clause of the access-control query
does to the query built so far, and `mergeClause_step` that the merge does
that and nothing else. What holds of whole merges is derived from it; no other
module opens the merging functions.
-/

namespace QueryGuard.Query

variable {q : Query} {key other : String} {node : Node} {op : Logical}

theorem mem_fields {clause : String × Node} :
    clause ∈ q.fields ↔ clause ∈ q.clauses ∧ clause.2.isGroup = false := by
  simp [fields]

theorem key_ne_of_plain (hn : node.Keyed key) (hp : node.isGroup = false) (op : Logical) :
    key ≠ op.key := by
  rintro rfl
  simpa using keyed_plain hn hp

-- ---------------------------------------------------------------------------
-- What a step compares
-- ---------------------------------------------------------------------------

/-- The nodes that children hold for a field. -/
def named (children : List Query) (field : String) : List Node :=
  children.filterMap (·.get? field)

/-- Some child constrains the field, and none like this. -/
def Contradicts (children : List Query) (field : String) (node : Node) : Prop :=
  named children field ≠ [] ∧ node.isIn (named children field) = false

/-- As many alternatives as there are, and each of them is one of one's own. -/
def Covers (own others : List Query) : Prop :=
  own.length = others.length ∧ ∀ child ∈ others, child.isIn own = true

/-- Alternatives as a query of their own. -/
def alternatives (children : List Query) : Query := empty.insertGroup .or children

theorem keyed_alternatives {children : List Query} (hc : ∀ child ∈ children, child.Keyed) :
    (alternatives children).Keyed :=
  keyed_empty.put (keyed_group.mpr ⟨rfl, hc⟩)

theorem mem_named {children : List Query} {field : String} :
    node ∈ named children field ↔ ∃ child ∈ children, child.get? field = some node := by
  simp [named]

theorem exists_of_isImplied {existing : List Query} {child : Query} {clause : String × Node}
    (h : isImplied (existing.flatMap fields) child = true) (hc : clause ∈ child.clauses) :
    ∃ own ∈ existing, ∃ held, (clause.1, held) ∈ own.clauses ∧ clause.2.same held = true := by
  obtain ⟨node, hn, hlike⟩ := List.any_eq_true.mp (List.all_eq_true.mp h clause hc)
  simp only [requestedFor, List.mem_map, List.mem_filter, List.mem_flatMap, beq_iff_eq] at hn
  obtain ⟨held, ⟨⟨own, ho, hheld⟩, hkey⟩, rfl⟩ := hn
  exact ⟨own, ho, held.2, hkey ▸ (mem_fields.mp hheld).1, hlike⟩

-- ---------------------------------------------------------------------------
-- Steps
-- ---------------------------------------------------------------------------

/-- The conjunction has become `children`, all else is as it was, and no child
was lost. -/
structure Conjoined (q result : Query) (children : List Query) : Prop where
  stored : result.get? Logical.and.key = some (.group .and children)
  rest : ∀ other, other ≠ Logical.and.key → result.get? other = q.get? other
  kept : ∀ child ∈ (q.group? .and).getD [], child ∈ children

/-- What a clause of the access-control query does to a query: `found` are the
conflicts that are reported with it. -/
inductive MergeStep (q : Query) (found : List Conflict) : String → Node → Query → Prop
  /-- The plain clause is there. -/
  | agreed {key : String} {node own : Node} (plain : node.isGroup = false)
      (held : q.get? key = some own) (like : own.same node = true) : MergeStep q found key node q
  /-- A child of the conjunction has the plain clause. -/
  | implied {key : String} {node own : Node} {children : List Query} {child : Query}
      (plain : node.isGroup = false) (absent : q.get? key = none)
      (group : q.group? .and = some children) (mem : child ∈ children)
      (held : child.get? key = some own) (like : own.same node = true) :
      MergeStep q found key node q
  | added {key : String} {node : Node} (plain : node.isGroup = false)
      (absent : q.get? key = none) : MergeStep q found key node (q.put key node)
  /-- Another clause for the field gives way. -/
  | replaced {key : String} {node own : Node} (plain : node.isGroup = false)
      (held : q.get? key = some own) (reported : found ≠ []) :
      MergeStep q found key node (q.put key node)
  /-- There is no such group: it is stored, and plain clauses that its children
  contradict are removed. -/
  | installed {op : Logical} {children : List Query} {result : Query}
      (lacks : q.group? op = none) (stored : result.get? op.key = some (.group op children))
      (rest : ∀ other node, other ≠ op.key → (result.get? other = some node ↔
        q.get? other = some node ∧ ¬(node.isGroup = false ∧ Contradicts children other node)))
      (silent : found = [] → ∀ other node, q.get? other = some node → node.isGroup = false →
        ¬Contradicts children other node) :
      MergeStep q found op.key (.group op children) result
  /-- A conjunction takes the children that it does not say already. -/
  | extended {children existing additions : List Query} {result : Query}
      (group : q.group? .and = some existing)
      (grown : Conjoined q result (existing ++ additions))
      (asked : ∀ child ∈ additions, child ∈ children)
      (told : ∀ child ∈ children, child.isIn existing = true ∨
        isImplied (existing.flatMap fields) child = true ∨ child ∈ additions) :
      MergeStep q found Logical.and.key (.group .and children) result
  /-- The alternatives count as said. -/
  | covered {own others : List Query} (group : q.group? .or = some own)
      (covers : Covers own others) : MergeStep q found Logical.or.key (.group .or others) q
  /-- The alternatives join the conjunction as a whole. -/
  | conjoined {own others children : List Query} {result : Query} (group : q.group? .or = some own)
      (uncovered : ¬Covers own others) (grown : Conjoined q result children)
      (told : alternatives others ∈ children ∨ (alternatives others).isIn children = true)
      (asked : ∀ child ∈ children, child ∈ (q.group? .and).getD [] ∨ child = alternatives others) :
      MergeStep q found Logical.or.key (.group .or others) result

-- ---------------------------------------------------------------------------
-- Plain clauses
-- ---------------------------------------------------------------------------

theorem mem_findInGroups {field : String} {hit : Logical × Node} (h : hit ∈ q.findInGroups field) :
    ∃ children child, q.group? hit.1 = some children ∧ child ∈ children ∧
      child.get? field = some hit.2 := by
  simp only [findInGroups, List.mem_flatMap, List.mem_filterMap, Option.map_eq_some_iff] at h
  obtain ⟨op, -, child, hc, node, hn, rfl⟩ := h
  cases hg : q.group? op with
  | none => simp [hg] at hc
  | some children => exact ⟨children, child, rfl, by simpa [hg] using hc, hn⟩

theorem mergeField_step {m : Merging} (hp : node.isGroup = false) :
    ∃ found, (mergeField key node m).conflicts = m.conflicts ++ found ∧
      MergeStep m.query found key node (mergeField key node m).query := by
  unfold mergeField
  cases hg : m.query.get? key with
  | some own =>
    cases hl : own.same node with
    | true =>
      simp only [hl, ↓reduceIte]
      exact ⟨_, rfl, .agreed hp hg hl⟩
    | false =>
      simp only [hl, Bool.false_eq_true, ↓reduceIte, List.append_assoc, insert_plain hp]
      exact ⟨_, rfl, .replaced hp hg (by simp)⟩
  | none =>
    refine ⟨_, rfl, ?_⟩
    dsimp only
    split
    · next himplied =>
      obtain ⟨hit, hh, hlike⟩ := List.any_eq_true.mp himplied
      simp only [Bool.and_eq_true, beq_iff_eq] at hlike
      obtain ⟨children, child, hgroup, hc, hheld⟩ := mem_findInGroups hh
      exact .implied hp hg (hlike.2 ▸ hgroup) hc hheld hlike.1
    · rw [insert_plain hp]
      exact .added hp hg

-- ---------------------------------------------------------------------------
-- A group on one side
-- ---------------------------------------------------------------------------

theorem Contradicts.exists_first {children : List Query} {field : String}
    (h : Contradicts children field node) : ∃ first, (named children field).head? = some first :=
  Option.ne_none_iff_exists'.mp (mt List.head?_eq_none_iff.mp h.1)

theorem overriddenBy?_eq_some_iff {children : List Query} {field : String} {c : Conflict} :
    overriddenBy? children field node = some c ↔ Contradicts children field node ∧
      ∃ enforced, (named children field).head? = some enforced ∧
        c = ⟨field, .topLevel, node, enforced, true⟩ := by
  unfold overriddenBy? Contradicts named
  cases children.filterMap (·.get? field) with
  | nil => simp
  | cons enforced others =>
    cases hin : node.isIn (enforced :: others) with
    | true => simp [hin]
    | false => simp [hin, @eq_comm _ c]

theorem get?_removeAll (hq : q.Keyed) (found : List Conflict) :
    (found.foldl (fun q c => q.remove c.field) q).get? key =
      if ∃ c ∈ found, c.field = key then none else q.get? key := by
  induction found generalizing q with
  | nil => simp
  | cons c rest ih =>
    rw [List.foldl_cons, ih (hq.remove c.field)]
    by_cases hr : ∃ c ∈ rest, c.field = key
    · simp [hr]
    · by_cases hc : c.field = key
      · subst hc
        simpa [hr] using get?_remove_self hq c.field
      · simpa [hr, hc] using get?_remove_of_ne (Ne.symm hc)

theorem mem_overridden {children : List Query} (hq : q.Keyed) {field : String} :
    (∃ c ∈ q.fields.filterMap (fun clause => overriddenBy? children clause.1 clause.2),
      c.field = field) ↔
      ∃ node, q.get? field = some node ∧ node.isGroup = false ∧
        Contradicts children field node := by
  simp only [List.mem_filterMap, overriddenBy?_eq_some_iff]
  constructor
  · rintro ⟨c, ⟨clause, hclause, hcontra, enforced, -, rfl⟩, rfl⟩
    obtain ⟨hm, hp⟩ := mem_fields.mp hclause
    exact ⟨clause.2, get?_of_mem hq hm, hp, hcontra⟩
  · rintro ⟨node, hg, hp, hcontra⟩
    obtain ⟨enforced, hfirst⟩ := hcontra.exists_first
    exact ⟨_, ⟨(field, node), mem_fields.mpr ⟨mem_of_get? hg, hp⟩, hcontra, enforced, hfirst, rfl⟩,
      rfl⟩

theorem prioritise_step {m : Merging} {children : List Query} (hq : m.query.Keyed)
    (hl : m.query.group? op = none) :
    ∃ found, (prioritise op children m).conflicts = m.conflicts ++ found ∧
      MergeStep m.query found op.key (.group op children) (prioritise op children m).query := by
  refine ⟨_, rfl, .installed hl ?_ ?_ ?_⟩
  · simp [prioritise, insertGroup, get?_put]
  · intro other node hne
    simp only [prioritise, insertGroup, get?_put, if_neg hne]
    rw [get?_removeAll hq]
    split
    · next h =>
      obtain ⟨own, hg, hp, hc⟩ := (mem_overridden hq).mp h
      simp only [reduceCtorEq, false_iff]
      rintro ⟨hg', hkept⟩
      obtain rfl := Option.some.inj (hg.symm.trans hg')
      exact hkept ⟨hp, hc⟩
    · next h =>
      exact ⟨fun hg => ⟨hg, fun hc => h ((mem_overridden hq).mpr ⟨node, hg, hc⟩)⟩, fun hg => hg.1⟩
  · intro hsilent other node hg hp hc
    obtain ⟨c, hm, -⟩ := (mem_overridden hq).mpr ⟨node, hg, hp, hc⟩
    simp [hsilent] at hm

-- ---------------------------------------------------------------------------
-- Groups on both sides
-- ---------------------------------------------------------------------------

theorem conjoin_grown (hq : q.Keyed) (child : Query) :
    ∃ children, Conjoined q (q.conjoin child) children ∧
      (child ∈ children ∨ child.isIn children = true) ∧
      ∀ other ∈ children, other ∈ (q.group? .and).getD [] ∨ other = child := by
  unfold conjoin
  cases hg : q.group? .and with
  | none =>
    refine ⟨[child], ⟨?_, ?_, ?_⟩, by simp, by simp⟩
    · simp [insertGroup, get?_put]
    · intro other hne
      simp [insertGroup, get?_put, hne]
    · simp [hg]
  | some children =>
    dsimp only
    split
    · next hin =>
      exact ⟨children, ⟨(group?_eq_some_iff hq).mp hg, fun _ _ => rfl, by simp [hg]⟩, .inr hin,
        fun other ho => .inl (by simpa using ho)⟩
    · rw [withGroup_eq hq hg]
      refine ⟨children ++ [child], ⟨?_, ?_, ?_⟩, by simp, by simp⟩
      · simp [get?_put]
      · intro other hne
        simp [get?_put, hne]
      · simp only [hg, Option.getD_some]
        exact fun other ho => List.mem_append_left _ ho

theorem crossCheck_step {m : Merging} {children existing : List Query} (hq : m.query.Keyed)
    (hg : m.query.group? op = some existing) :
    ∃ found, (crossCheck op children m).conflicts = m.conflicts ++ found ∧
      MergeStep m.query found op.key (.group op children) (crossCheck op children m).query := by
  cases op with
  | and =>
    refine ⟨_, rfl, ?_⟩
    simp only [crossCheck, hg, Option.getD_some]
    rw [withGroup_eq hq hg]
    generalize hadd : (children.filter fun child => !child.isIn existing).filter
      (fun child => !isImplied (existing.flatMap fields) child) = additions
    refine .extended hg ⟨get?_put_self, ?_, ?_⟩ ?_ ?_
    · intro other hne
      rw [get?_put, if_neg hne]
    · simp only [hg, Option.getD_some]
      exact fun child hc => List.mem_append_left _ hc
    · intro child hc
      rw [← hadd] at hc
      exact (List.mem_filter.mp (List.mem_filter.mp hc).1).1
    · intro child hc
      by_cases hin : child.isIn existing = true
      · exact .inl hin
      by_cases himplied : isImplied (existing.flatMap fields) child = true
      · exact .inr (.inl himplied)
      · exact .inr (.inr (by simp [← hadd, hc, hin, himplied]))
  | or =>
    refine ⟨_, rfl, ?_⟩
    simp only [crossCheck, hg, Option.getD_some]
    by_cases hcovers : Covers existing children
    · have hcheck : (existing.length == children.length &&
          (children.filter fun child => !child.isIn existing).isEmpty) = true := by
        simpa [Covers] using hcovers
      rw [if_pos hcheck]
      exact .covered hg hcovers
    · have hcheck : ¬(existing.length == children.length &&
          (children.filter fun child => !child.isIn existing).isEmpty) = true := by
        simpa [Covers] using hcovers
      rw [if_neg hcheck]
      obtain ⟨grown, hgrown, htold, hasked⟩ := conjoin_grown hq (alternatives children)
      exact .conjoined hg hcovers hgrown htold hasked

-- ---------------------------------------------------------------------------
-- Clauses
-- ---------------------------------------------------------------------------

/-- A step reports what it finds after what was found before, and does to the
query what `MergeStep` says. -/
theorem mergeClause_step {m : Merging} (hq : m.query.Keyed) (hn : node.Keyed key) :
    ∃ found, (mergeClause m key node).conflicts = m.conflicts ++ found ∧
      MergeStep m.query found key node (mergeClause m key node).query := by
  cases node with
  | group op children =>
    obtain ⟨rfl, -⟩ := keyed_group.mp hn
    simp only [mergeClause]
    cases hg : m.query.group? op with
    | none => exact prioritise_step hq hg
    | some existing => exact crossCheck_step hq hg
  | _ => exact mergeField_step rfl

theorem WellFormed.conjoin {child : Query} (hq : q.WellFormed) (hc : child.WellFormed) :
    (q.conjoin child).WellFormed := by
  unfold Query.conjoin
  split
  · next children hg =>
    split
    · exact hq
    · refine hq.withGroup fun other ho => ?_
      rcases List.mem_append.mp ho with ho | ho
      · exact hq.child hg other ho
      · exact List.mem_singleton.mp ho ▸ hc
  · exact hq.insertGroup (by simpa using hc)

theorem WellFormed.removeAll (hq : q.WellFormed) (found : List Conflict) :
    (found.foldl (fun q c => q.remove c.field) q).WellFormed := by
  induction found generalizing q with
  | nil => exact hq
  | cons c rest ih => exact ih (hq.remove c.field)

theorem mergeClause_wellFormed {m : Merging} (hq : m.query.WellFormed) (hn : node.WellFormed key) :
    (mergeClause m key node).query.WellFormed := by
  cases node with
  | group op children =>
    obtain ⟨rfl, hc⟩ := wellFormed_group.mp hn
    simp only [mergeClause]
    split
    · have hown : ∀ child ∈ (m.query.group? op).getD [], child.WellFormed := by
        cases hg : m.query.group? op with
        | none => simp
        | some own => exact hq.child hg
      cases op with
      | and =>
        refine hq.withGroup fun child hchild => ?_
        rcases List.mem_append.mp hchild with h | h
        · exact hown child h
        · exact hc child (List.mem_filter.mp (List.mem_filter.mp h).1).1
      | or =>
        simp only [crossCheck]
        split
        · exact hq
        · exact hq.conjoin (wellFormed_empty.insertGroup hc)
    · exact (hq.removeAll _).insertGroup hc
  | _ =>
    simp only [mergeClause, mergeField]
    split
    · split
      · exact hq
      · exact hq.put hn
    · split
      · exact hq
      · exact hq.put hn

-- ---------------------------------------------------------------------------
-- Runs
-- ---------------------------------------------------------------------------

theorem merging_append (caller : Query) (clauses : List (String × Node)) (clause : String × Node) :
    merging caller ⟨clauses ++ [clause]⟩ =
      mergeClause (merging caller ⟨clauses⟩) clause.1 clause.2 := by
  simp [merging]

theorem mergeClause_found (q : Query) (earlier found : List Conflict) (key : String)
    (node : Node) : mergeClause ⟨q, earlier ++ found⟩ key node =
      ⟨(mergeClause ⟨q, found⟩ key node).query,
        earlier ++ (mergeClause ⟨q, found⟩ key node).conflicts⟩ := by
  have hfield : ∀ node, mergeField key node ⟨q, earlier ++ found⟩ =
      ⟨(mergeField key node ⟨q, found⟩).query,
        earlier ++ (mergeField key node ⟨q, found⟩).conflicts⟩ := by
    intro node
    simp only [mergeField]
    split
    · split <;> simp
    · simp
  cases node with
  | group op children =>
    simp only [mergeClause]
    split <;> simp [crossCheck, prioritise]
  | _ => exact hfield _

theorem merging_split (caller : Query) (first rest : List (String × Node)) :
    merging caller ⟨first ++ rest⟩ =
      ⟨(merging (merging caller ⟨first⟩).query ⟨rest⟩).query,
        (merging caller ⟨first⟩).conflicts ++
          (merging (merging caller ⟨first⟩).query ⟨rest⟩).conflicts⟩ := by
  induction rest using List.reverseRecOn with
  | nil => simp [merging]
  | append_singleton rest clause ih =>
    rw [← List.append_assoc, merging_append, merging_append, ih, mergeClause_found]

theorem exists_split_append {α : Type} (P : List α → α → Prop) (items : List α) (last : α) :
    (∃ earlier item later, items ++ [last] = earlier ++ item :: later ∧ P earlier item) ↔
      (∃ earlier item later, items = earlier ++ item :: later ∧ P earlier item) ∨ P items last := by
  constructor
  · rintro ⟨earlier, item, later, he, hp⟩
    rcases List.eq_nil_or_concat later with rfl | ⟨rest, end', rfl⟩
    · obtain ⟨rfl, hlast⟩ := List.append_inj' he rfl
      cases hlast
      exact .inr hp
    · rw [List.concat_eq_append, ← List.cons_append, ← List.append_assoc] at he
      obtain ⟨rfl, -⟩ := List.append_inj' he rfl
      exact .inl ⟨earlier, item, rest, rfl, hp⟩
  · rintro (⟨earlier, item, later, rfl, hp⟩ | hp)
    · exact ⟨earlier, item, later ++ [last], by simp, hp⟩
    · exact ⟨items, last, [], rfl, hp⟩

/-- Induction over the clauses of an access-control query in the order in which
they are merged: the hypothesis is about all but the last one. -/
theorem WellFormed.induct {motive : (q : Query) → q.WellFormed → Prop}
    (nil : motive empty wellFormed_empty)
    (append : ∀ clauses key node (h : (⟨clauses⟩ : Query).WellFormed), node.WellFormed key →
      key ∉ Members.names clauses → motive ⟨clauses⟩ h →
      ∀ h', motive ⟨clauses ++ [(key, node)]⟩ h')
    {q : Query} (hq : q.WellFormed) : motive q hq := by
  obtain ⟨clauses⟩ := q
  induction clauses using List.reverseRecOn with
  | nil => exact nil
  | append_singleton clauses clause ih =>
    have hnames : (Members.names clauses ++ [clause.1]).Nodup := by
      simpa [Members.Distinct, Members.names] using (keyed_iff.mp hq.keyed).1
    obtain ⟨-, -, hdisj⟩ := List.nodup_append.mp hnames
    have hinit : (⟨clauses⟩ : Query).WellFormed := hq.of_sublist (List.sublist_append_left ..)
    refine append clauses clause.1 clause.2 hinit (hq.of_mem (by simp)) ?_ (ih hinit) hq
    exact fun hm => hdisj clause.1 hm clause.1 (by simp) rfl

theorem mergeInto_cases (caller access : Query) :
    (caller.same access = true ∧ mergeInto (some caller) access = (.unchanged, caller)) ∨
    ((merging caller access).conflicts = [] ∧ (merging caller access).query.same caller = true ∧
      mergeInto (some caller) access = (.unchanged, caller)) ∨
    mergeInto (some caller) access =
      (.merged (merging caller access).conflicts, (merging caller access).query) := by
  by_cases hsame : caller.same access = true
  · exact .inl ⟨hsame, by simp [mergeInto, hsame]⟩
  by_cases hnone : ((merging caller access).conflicts.isEmpty &&
      (merging caller access).query.same caller) = true
  · obtain ⟨hempty, hlike⟩ := Bool.and_eq_true_iff.mp hnone
    exact .inr (.inl ⟨List.isEmpty_iff.mp hempty, hlike, by simp [mergeInto, hsame, hempty, hlike]⟩)
  · exact .inr (.inr (by simp only [mergeInto, hsame, hnone, Bool.false_eq_true, ↓reduceIte]))

theorem merging_wellFormed {caller access : Query} (hc : caller.WellFormed)
    (ha : access.WellFormed) : (merging caller access).query.WellFormed := by
  induction ha using WellFormed.induct with
  | nil => exact hc
  | append clauses key node _ hn _ ih =>
    rw [merging_append]
    exact mergeClause_wellFormed ih hn

end QueryGuard.Query
