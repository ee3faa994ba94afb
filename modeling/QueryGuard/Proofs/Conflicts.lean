import QueryGuard.Proofs.InForce

/-!
# Which conflicts a merge reports

`Brings` says which conflicts a step reports, and `mergeClause_brings` that it
reports these and no others; `Reports` keeps of them what they are about. A
whole merge reports what its steps do. From that it is told when a clause of the
caller's that the access-control query contradicts goes unreported: the field is
constrained in groups only, and each of them meets a group of the same operator,
with whose children alone it is compared.
-/

namespace QueryGuard

open Query

namespace Query

-- ---------------------------------------------------------------------------
-- Children of groups
-- ---------------------------------------------------------------------------

/-- The children of the group of an operator; none without a group. -/
def childrenOf (q : Query) (op : Logical) : List Query := (q.group? op).getD []

section
variable {q : Query} {op : Logical} {children : List Query}

theorem childrenOf_of_group? (h : q.group? op = some children) : q.childrenOf op = children := by
  simp [childrenOf, h]

theorem childrenOf_of_none (h : q.group? op = none) : q.childrenOf op = [] := by
  simp [childrenOf, h]

theorem group?_childrenOf (h : q.childrenOf op ≠ []) : q.group? op = some (q.childrenOf op) := by
  cases hg : q.group? op with
  | none => exact absurd (childrenOf_of_none hg) h
  | some children => rw [childrenOf_of_group? hg]

theorem WellFormed.childrenOf (hq : q.WellFormed) :
    ∀ child ∈ q.childrenOf op, child.WellFormed :=
  fun child hc => hq.child (group?_childrenOf (List.ne_nil_of_mem hc)) child hc

theorem ne_nil_of_mem_named {field : String} {node : Node} (h : node ∈ named children field) :
    children ≠ [] := by
  rintro rfl
  cases h

theorem Contradicts.ne_nil {field : String} {node : Node} (h : Contradicts children field node) :
    children ≠ [] := by
  rintro rfl
  exact h.1 rfl

end

-- ---------------------------------------------------------------------------
-- Conflicts of a step
-- ---------------------------------------------------------------------------

/-- Merging a clause into a query brings the conflict. -/
inductive Brings (q : Query) : String → Node → Conflict → Prop
  /-- The top-level clause is another one. -/
  | differs {key : String} {node own : Node} (plain : node.isGroup = false)
      (held : q.get? key = some own) (unlike : own.same node = false) :
      Brings q key node ⟨key, .topLevel, own, node, true⟩
  /-- A child of a group has another clause. -/
  | grouped {key : String} {op : Logical} {node own : Node} {children : List Query}
      (plain : node.isGroup = false) (group : q.group? op = some children)
      (held : own ∈ named children key) (unlike : own.same node = false) :
      Brings q key node ⟨key, .logical op, own, node, false⟩
  /-- There is no such group, and its children contradict the top-level clause. -/
  | overridden {op : Logical} {key field : String} {own enforced : Node} {children : List Query}
      (lacks : q.group? op = none) (held : q.get? field = some own) (plain : own.isGroup = false)
      (contra : Contradicts children field own)
      (first : (named children field).head? = some enforced) :
      Brings q key (.group op children) ⟨field, .topLevel, own, enforced, true⟩
  /-- The children of the group that is there contradict a clause of a child. -/
  | crossed {op : Logical} {key field : String} {node requested : Node}
      {children existing : List Query} (group : q.group? op = some existing)
      (held : node ∈ named children field) (plain : node.isGroup = false)
      (contra : Contradicts existing field node)
      (first : (named existing field).head? = some requested) :
      Brings q key (.group op children) ⟨field, .logical op, requested, node, false⟩

section
variable {q : Query} {field key : String} {node : Node} {op : Logical} {children : List Query}
  {c : Conflict}

theorem mem_findInGroups_iff {hit : Logical × Node} : hit ∈ q.findInGroups field ↔
    ∃ children, q.group? hit.1 = some children ∧ hit.2 ∈ named children field := by
  obtain ⟨op, node⟩ := hit
  constructor
  · intro h
    obtain ⟨children, child, hg, hc, hn⟩ := mem_findInGroups h
    exact ⟨children, hg, mem_named.mpr ⟨child, hc, hn⟩⟩
  · rintro ⟨children, hg, hn⟩
    obtain ⟨child, hc, hn⟩ := mem_named.mp hn
    simp only [findInGroups, List.mem_flatMap, List.mem_filterMap, Option.map_eq_some_iff]
    refine ⟨op, ?_, child, ?_, node, hn, rfl⟩
    · cases op <;> simp [Logical.all]
    · simpa [hg] using hc

theorem brings_plain_iff (hp : node.isGroup = false) : Brings q key node c ↔
    (∃ op own, (op, own) ∈ q.findInGroups key ∧ own.same node = false ∧
      c = ⟨key, .logical op, own, node, false⟩) ∨
    ∃ own, q.get? key = some own ∧ own.same node = false ∧
      c = ⟨key, .topLevel, own, node, true⟩ := by
  constructor
  · intro h
    cases h with
    | differs _ held unlike => exact .inr ⟨_, held, unlike, rfl⟩
    | grouped _ group held unlike =>
      exact .inl ⟨_, _, mem_findInGroups_iff.mpr ⟨_, group, held⟩, unlike, rfl⟩
    | overridden | crossed => cases hp
  · rintro (⟨op, own, hm, hunlike, rfl⟩ | ⟨own, hheld, hunlike, rfl⟩)
    · obtain ⟨children, hg, hown⟩ := mem_findInGroups_iff.mp hm
      exact .grouped hp hg hown hunlike
    · exact .differs hp hheld hunlike

theorem mergeField_brings {m : Merging} (hp : node.isGroup = false) :
    ∃ found, (mergeField key node m).conflicts = m.conflicts ++ found ∧
      ∀ c, c ∈ found ↔ Brings m.query key node c := by
  have hgrouped : ∀ c : Conflict, (c ∈ ((m.query.findInGroups key).filter fun hit =>
        !hit.2.same node).map fun hit => (⟨key, .logical hit.1, hit.2, node, false⟩ : Conflict)) ↔
      ∃ op own, (op, own) ∈ m.query.findInGroups key ∧ own.same node = false ∧
        c = ⟨key, .logical op, own, node, false⟩ := by
    intro c
    simp [and_assoc, @eq_comm _ c]
  unfold mergeField
  dsimp only
  cases hg : m.query.get? key with
  | none =>
    refine ⟨_, rfl, fun c => ?_⟩
    rw [hgrouped, brings_plain_iff hp, hg]
    simp
  | some own =>
    cases hl : own.same node with
    | true =>
      simp only [hl, ↓reduceIte]
      refine ⟨_, rfl, fun c => ?_⟩
      rw [hgrouped, brings_plain_iff hp, hg]
      simp [hl]
    | false =>
      simp only [hl, Bool.false_eq_true, ↓reduceIte, List.append_assoc]
      refine ⟨_, rfl, fun c => ?_⟩
      rw [List.mem_append, hgrouped, brings_plain_iff hp, hg]
      simp [hl]

theorem prioritise_brings {m : Merging} (hq : m.query.Keyed) (hl : m.query.group? op = none) :
    ∃ found, (prioritise op children m).conflicts = m.conflicts ++ found ∧
      ∀ c, c ∈ found ↔ Brings m.query op.key (.group op children) c := by
  refine ⟨_, rfl, fun c => ?_⟩
  simp only [List.mem_filterMap, overriddenBy?_eq_some_iff]
  constructor
  · rintro ⟨⟨field, own⟩, hm, hcontra, enforced, hfirst, rfl⟩
    obtain ⟨hm, hp⟩ := mem_fields.mp hm
    exact .overridden hl (get?_of_mem hq hm) hp hcontra hfirst
  · intro h
    cases h with
    | overridden _ held plain contra first =>
      exact ⟨_, mem_fields.mpr ⟨mem_of_get? held, plain⟩, contra, _, first, rfl⟩
    | differs plain | grouped plain => cases plain
    | crossed group => simp [hl] at group

theorem requestedFor_eq_named (hc : ∀ child ∈ children, child.Keyed)
    (hf : Logical.ofKey? field = none) :
    requestedFor (children.flatMap fields) field = named children field := by
  induction children with
  | nil => rfl
  | cons child rest ih =>
    obtain ⟨hchild, hrest⟩ := List.forall_mem_cons.mp hc
    have hown : requestedFor child.fields field = (child.get? field).toList := by
      rw [get?, ← (keyed_iff.mp hchild).1.filter_name, requestedFor, fields, List.filter_filter]
      refine congrArg _ (List.filter_congr fun clause hm => ?_)
      -- Under a plain field stand plain clauses only.
      have hplain : clause.1 = field → clause.2.isGroup = false := by
        rintro rfl
        exact plain_of_keyed ((keyed_iff.mp hchild).2 clause hm) hf
      by_cases he : clause.1 = field <;> simp [he, hplain]
    have happend : requestedFor ((child :: rest).flatMap fields) field =
        requestedFor child.fields field ++ requestedFor (rest.flatMap fields) field := by
      simp [requestedFor]
    rw [happend, hown, ih hrest, named, named, List.filterMap_cons]
    cases child.get? field <;> rfl

theorem groupConflict?_eq_some_iff {existing : List Query} (he : ∀ child ∈ existing, child.Keyed)
    (hn : node.Keyed key) : groupConflict? op (existing.flatMap fields) key node = some c ↔
      node.isGroup = false ∧ Contradicts existing key node ∧
        ∃ requested, (named existing key).head? = some requested ∧
          c = ⟨key, .logical op, requested, node, false⟩ := by
  cases hp : node.isGroup with
  | true =>
    unfold groupConflict?
    split <;> simp [hp]
  | false =>
    rw [groupConflict?, requestedFor_eq_named he (keyed_plain hn hp)]
    cases hnamed : named existing key with
    | nil => simp [Contradicts, hnamed]
    | cons requested others =>
      cases hin : node.isIn (requested :: others) with
      | true => simp [Contradicts, hnamed, hin]
      | false => simp [Contradicts, hnamed, hin, hp, @eq_comm _ c]

theorem crossCheck_brings {m : Merging} {existing : List Query} (hq : m.query.WellFormed)
    (hc : ∀ child ∈ children, child.WellFormed) (hg : m.query.group? op = some existing) :
    ∃ found, (crossCheck op children m).conflicts = m.conflicts ++ found ∧
      ∀ c, c ∈ found ↔ Brings m.query op.key (.group op children) c := by
  refine ⟨_, rfl, fun c => ?_⟩
  have hexisting : ∀ child ∈ existing, child.Keyed := fun child hm => (hq.child hg child hm).keyed
  simp only [hg, Option.getD_some, List.mem_flatMap, List.mem_filter, List.mem_filterMap,
    Bool.not_eq_true']
  constructor
  · rintro ⟨child, ⟨hchild, -⟩, ⟨key, node⟩, hm, hconflict⟩
    have hn := ((hc child hchild).of_mem hm).keyed
    obtain ⟨hp, hcontra, requested, hfirst, rfl⟩ :=
      (groupConflict?_eq_some_iff hexisting hn).mp hconflict
    exact .crossed hg (mem_named.mpr ⟨child, hchild, get?_of_mem (hc child hchild).keyed hm⟩) hp
      hcontra hfirst
  · intro h
    cases h with
    | differs plain | grouped plain => cases plain
    | overridden lacks => simp [hg] at lacks
    | crossed group held plain contra first =>
      obtain rfl := Option.some.inj (hg.symm.trans group)
      obtain ⟨child, hchild, hheld⟩ := mem_named.mp held
      have hn := (hc child hchild).of_mem (mem_of_get? hheld)
      refine ⟨child, ⟨hchild, ?_⟩, _, mem_of_get? hheld,
        (groupConflict?_eq_some_iff hexisting hn.keyed).mpr ⟨plain, contra, _, first, rfl⟩⟩
      -- A child that is there already contradicts nothing.
      by_contra hin
      have hsaid := isIn_named_of_same (Bool.of_not_eq_false hin) hheld (Node.same_refl hn.distinct)
      simp [contra.2] at hsaid

/-- A step brings the conflicts that `Brings` says, after those found before. -/
theorem mergeClause_brings {m : Merging} (hq : m.query.WellFormed) (hn : node.WellFormed key) :
    ∃ found, (mergeClause m key node).conflicts = m.conflicts ++ found ∧
      ∀ c, c ∈ found ↔ Brings m.query key node c := by
  cases node with
  | group op children =>
    obtain ⟨rfl, hc⟩ := wellFormed_group.mp hn
    simp only [mergeClause]
    cases hg : m.query.group? op with
    | none => exact prioritise_brings hq.keyed hg
    | some existing => exact crossCheck_brings hq hc hg
  | _ => exact mergeField_brings rfl

end

-- ---------------------------------------------------------------------------
-- Reports of a step
-- ---------------------------------------------------------------------------

/-- Merging a clause into a query brings a conflict on the field. -/
inductive Reports (q : Query) (field : String) : String → Node → Prop
  /-- The top-level clause is another one. -/
  | differs {node own : Node} (plain : node.isGroup = false) (held : q.get? field = some own)
      (unlike : own.same node = false) : Reports q field field node
  /-- A child of a group has another clause. -/
  | grouped {op : Logical} {node own : Node} {children : List Query} (plain : node.isGroup = false)
      (group : q.group? op = some children) (held : own ∈ named children field)
      (unlike : own.same node = false) : Reports q field field node
  /-- There is no such group, and its children contradict the top-level clause. -/
  | overridden {op : Logical} {key : String} {own : Node} {children : List Query}
      (lacks : q.group? op = none) (held : q.get? field = some own) (plain : own.isGroup = false)
      (contra : Contradicts children field own) : Reports q field key (.group op children)
  /-- The children of the group that is there contradict a clause of a child. -/
  | crossed {op : Logical} {key : String} {node : Node} {children existing : List Query}
      (group : q.group? op = some existing) (held : node ∈ named children field)
      (plain : node.isGroup = false) (contra : Contradicts existing field node) :
      Reports q field key (.group op children)

theorem reports_iff_brings {q : Query} {field key : String} {node : Node} :
    Reports q field key node ↔ ∃ c, Brings q key node c ∧ c.field = field := by
  constructor
  · intro h
    cases h with
    | differs plain held unlike => exact ⟨_, .differs plain held unlike, rfl⟩
    | grouped plain group held unlike => exact ⟨_, .grouped plain group held unlike, rfl⟩
    | overridden lacks held plain contra =>
      obtain ⟨enforced, hfirst⟩ := contra.exists_first
      exact ⟨_, .overridden lacks held plain contra hfirst, rfl⟩
    | crossed group held plain contra =>
      obtain ⟨requested, hfirst⟩ := contra.exists_first
      exact ⟨_, .crossed group held plain contra hfirst, rfl⟩
  · rintro ⟨c, h, rfl⟩
    cases h with
    | differs plain held unlike => exact .differs plain held unlike
    | grouped plain group held unlike => exact .grouped plain group held unlike
    | overridden lacks held plain contra => exact .overridden lacks held plain contra
    | crossed group held plain contra => exact .crossed group held plain contra

theorem mergeClause_reports {m : Merging} {key : String} {node : Node} (hq : m.query.WellFormed)
    (hn : node.WellFormed key) :
    ∃ found, (mergeClause m key node).conflicts = m.conflicts ++ found ∧
      ∀ field, (∃ c ∈ found, c.field = field) ↔ Reports m.query field key node := by
  obtain ⟨found, hfound, hbrings⟩ := mergeClause_brings hq hn
  refine ⟨found, hfound, fun field => ?_⟩
  simp only [reports_iff_brings, hbrings]

-- ---------------------------------------------------------------------------
-- Reports of a run
-- ---------------------------------------------------------------------------

section
variable {caller access : Query} {clauses earlier later : List (String × Node)}
  {clause : String × Node} {field : String} {node own requested : Node} {op : Logical}

theorem merging_brings_append (hc : caller.WellFormed) (ha : (⟨clauses⟩ : Query).WellFormed)
    {key : String} (hn : node.WellFormed key) {c : Conflict} :
    c ∈ (merging caller ⟨clauses ++ [(key, node)]⟩).conflicts ↔
      c ∈ (merging caller ⟨clauses⟩).conflicts ∨
        Brings (merging caller ⟨clauses⟩).query key node c := by
  obtain ⟨found, hfound, hbrings⟩ := mergeClause_brings (merging_wellFormed hc ha) hn
  rw [merging_append, hfound, List.mem_append, hbrings]

theorem merging_brings_iff (hc : caller.WellFormed) (ha : access.WellFormed) {c : Conflict} :
    c ∈ (merging caller access).conflicts ↔
      ∃ earlier clause later, access.clauses = earlier ++ clause :: later ∧
        Brings (merging caller ⟨earlier⟩).query clause.1 clause.2 c := by
  induction ha using WellFormed.induct with
  | nil => simp [merging, empty]
  | append clauses key node ha hn _ ih =>
    rw [merging_brings_append hc ha hn, ih]
    exact (exists_split_append (fun earlier clause =>
      Brings (merging caller ⟨earlier⟩).query clause.1 clause.2 c) clauses (key, node)).symm

theorem merging_reports_iff (hc : caller.WellFormed) (ha : access.WellFormed) :
    (∃ c ∈ (merging caller access).conflicts, c.field = field) ↔
      ∃ earlier clause later, access.clauses = earlier ++ clause :: later ∧
        Reports (merging caller ⟨earlier⟩).query field clause.1 clause.2 := by
  simp only [merging_brings_iff hc ha, reports_iff_brings]
  constructor
  · rintro ⟨c, ⟨earlier, clause, later, he, hbrings⟩, hfield⟩
    exact ⟨earlier, clause, later, he, c, hbrings, hfield⟩
  · rintro ⟨earlier, clause, later, he, c, hbrings, hfield⟩
    exact ⟨c, ⟨earlier, clause, later, he, hbrings⟩, hfield⟩

theorem WellFormed.of_split (ha : access.WellFormed)
    (h : access.clauses = earlier ++ clause :: later) :
    (⟨earlier⟩ : Query).WellFormed ∧ clause.1 ∉ Members.names earlier := by
  have hd : (Members.names earlier ++ clause.1 :: Members.names later).Nodup := by
    have := (keyed_iff.mp ha.keyed).1
    rw [h] at this
    simpa [Members.Distinct, Members.names] using this
  obtain ⟨-, -, hapart⟩ := List.nodup_append.mp hd
  refine ⟨ha.of_sublist ?_, fun hm => hapart _ hm _ List.mem_cons_self rfl⟩
  rw [h]
  exact List.sublist_append_left ..

theorem WellFormed.of_rest (ha : access.WellFormed)
    (h : access.clauses = earlier ++ clause :: later) :
    (⟨later⟩ : Query).WellFormed ∧ clause.1 ∉ Members.names later := by
  have hd : Members.Distinct (earlier ++ clause :: later) := h ▸ (keyed_iff.mp ha.keyed).1
  simp only [Members.Distinct, Members.names, List.map_append, List.map_cons] at hd
  refine ⟨ha.of_sublist ?_, (List.nodup_cons.mp (List.nodup_append.mp hd).2.1).1⟩
  rw [h]
  exact (List.sublist_cons_self ..).trans (List.sublist_append_right ..)

/-- A group that meets none contradicts the top-level clause, which gives way to
it. -/
def Ousted (caller : Query) (clauses : List (String × Node)) (field : String)
    (node : Node) : Prop :=
  ∃ earlier op children later, clauses = earlier ++ (op.key, .group op children) :: later ∧
    Lacks caller earlier op ∧ Contradicts children field node

theorem ousted_append {key : String} : Ousted caller (clauses ++ [(key, node)]) field own ↔
    Ousted caller clauses field own ∨ ∃ op children, (key, node) = (op.key, .group op children) ∧
      Lacks caller clauses op ∧ Contradicts children field own :=
  exists_group_append (fun earlier op children =>
    Lacks caller earlier op ∧ Contradicts children field own) clauses (key, node)

theorem merging_get?_of_new (hc : caller.WellFormed) (ha : access.WellFormed)
    (hf : Logical.ofKey? field = none) (hnew : field ∉ access.keys) :
    (merging caller access).query.get? field = some own ↔
      caller.get? field = some own ∧ ¬Ousted caller access.clauses field own := by
  induction ha using WellFormed.induct with
  | nil => simp [merging, empty, Ousted]
  | append clauses key node ha hn hnew' ih =>
    have hkeys : field ∉ Query.keys ⟨clauses⟩ ∧ field ≠ key := by
      simpa [keys, Members.names, not_or] using hnew
    have ih : _ ↔ caller.get? field = some own ∧ ¬Ousted caller clauses field own := ih hkeys.1
    obtain ⟨found, -, hstep, hq, hr⟩ := merging_step hc ha hn
    have hstep : own.isGroup = false → _ := hstep.get?_plain_iff hf hkeys.2
    rw [ousted_append, not_or, ← and_assoc, ← ih,
      ← merging_lacks_iff hc ha hn hnew' (Contradicts · field own)]
    constructor
    · intro hg
      exact (hstep (plain_of_keyed (hr.keyed.of_get? hg) hf)).mp hg
    · intro h
      exact (hstep (plain_of_keyed (hq.keyed.of_get? h.1) hf)).mpr h

theorem merging_ousted (hc : caller.WellFormed) (ha : access.WellFormed)
    (hf : Logical.ofKey? field = none) (hnew : field ∉ access.keys)
    (hheld : caller.get? field = some own) (h : Ousted caller access.clauses field own) :
    ∃ c ∈ (merging caller access).conflicts, c.field = field ∧ c.location = .topLevel ∧
      c.requested = own := by
  induction ha using WellFormed.induct with
  | nil => simp [empty, Ousted] at h
  | append clauses key node ha hn hnew' ih =>
    have hkeys : field ∉ Query.keys ⟨clauses⟩ := by
      have := hnew
      simp only [keys, Members.names, List.map_append, List.mem_append, not_or] at this
      exact this.1
    simp only [merging_brings_append hc ha hn]
    by_cases hold : Ousted caller clauses field own
    · obtain ⟨c, hm, hc⟩ := ih hkeys hold
      exact ⟨c, .inl hm, hc⟩
    · obtain ⟨op, children, he, hlacks, hcontra⟩ := (ousted_append.mp h).resolve_left hold
      cases he
      have hkept := (merging_get?_of_new hc ha hf hkeys).mpr ⟨hheld, hold⟩
      have hp := plain_of_keyed (hc.keyed.of_get? hheld) hf
      obtain ⟨enforced, hfirst⟩ := hcontra.exists_first
      have hlacks := (merging_group?_eq_none_iff hc ha op hnew').mpr hlacks
      exact ⟨_, .inr (.overridden hlacks hkept hp hcontra hfirst), rfl, rfl, rfl⟩

/-- A plain clause of the caller's stays where it is until it is reported. -/
theorem merging_keeps_or_reports (hc : caller.WellFormed) (ha : access.WellFormed)
    (hf : Logical.ofKey? field = none) (hheld : caller.get? field = some requested)
    (hnew : field ∉ access.keys) :
    (merging caller access).query.get? field = some requested ∨
      ∃ c ∈ (merging caller access).conflicts, c.field = field := by
  by_cases h : Ousted caller access.clauses field requested
  · obtain ⟨c, hm, he, -⟩ := merging_ousted hc ha hf hnew hheld h
    exact .inr ⟨c, hm, he⟩
  · exact .inl ((merging_get?_of_new hc ha hf hnew).mpr ⟨hheld, h⟩)

theorem MergeStep.group?_of_none {q result : Query} {found : List Conflict} {key : String}
    {children : List Query} (h : MergeStep q found key (.group op children) result)
    (hlacks : q.group? op = none) (hr : result.Keyed) : result.group? op = some children := by
  cases h with
  | agreed plain | implied plain | added plain | replaced plain => cases plain
  | installed _ stored => exact (group?_eq_some_iff hr).mpr stored
  | extended group | covered group | conjoined group => simp [group] at hlacks

theorem merging_group_or_of_none (hc : caller.WellFormed) (ha : access.WellFormed)
    (hnone : caller.group? .or = none) :
    (merging caller access).query.group? .or = access.group? .or := by
  induction ha using WellFormed.induct with
  | nil => exact hnone
  | append clauses key node ha hn hnew ih ha' =>
    obtain ⟨found, -, hstep, hq, hr⟩ := merging_step hc ha hn
    by_cases hk : key = Logical.or.key
    · subst hk
      have hlacks : Query.group? ⟨clauses⟩ .or = none := by
        rw [group?_eq_none_iff ha.keyed]
        exact Members.get?_eq_none_iff.mpr hnew
      have hgroup := ih.trans hlacks
      cases node with
      | group op children =>
        obtain rfl := Logical.key_injective (wellFormed_group.mp hn).1
        rw [(group?_eq_some_iff_mem ha'.keyed).mpr (List.mem_append_right _ List.mem_cons_self)]
        exact hstep.group?_of_none hgroup hr.keyed
      | _ => simpa using keyed_plain hn.keyed rfl
    · rw [hstep.group_or hq.keyed hr.keyed hn.keyed fun he => absurd he hk, ih]
      refine group?_congr ?_
      simp only [get?, Members.get?, List.lookup_append]
      simp [List.lookup_cons, beq_false_of_ne (Ne.symm hk)]

theorem merging_isIn_named (hc : caller.WellFormed) (ha : access.WellFormed)
    (hf : Logical.ofKey? field = none) :
    node.isIn (named ((merging caller access).query.childrenOf op) field) = true ↔
      node.isIn (named (caller.childrenOf op) field) = true ∨
        ((op = .or → caller.group? .or = none) ∧
          node.isIn (named (access.childrenOf op) field) = true) := by
  cases op with
  | and =>
    rw [and_iff_right (nofun : Logical.and = .or → _)]
    exact merging_says_iff hc ha hf
  | or =>
    cases hg : caller.group? .or with
    | none =>
      simp [childrenOf, merging_group_or_of_none hc ha hg, hg, named, Node.isIn]
    | some own =>
      have hkept := merging_group_or hc ha fun _ => by simp [hg]
      simp [childrenOf, hkept, hg]

theorem contradicts_congr {children others : List Query}
    (hc : ∀ child ∈ children, child.WellFormed) (ho : ∀ child ∈ others, child.WellFormed)
    (h : ∀ node : Node, node.isIn (named children field) = true ↔
      node.isIn (named others field) = true) :
    Contradicts children field node ↔ Contradicts others field node := by
  have hne : ∀ {children others : List Query}, (∀ child ∈ children, child.WellFormed) →
      (∀ node : Node, node.isIn (named children field) = true →
        node.isIn (named others field) = true) →
      named children field ≠ [] → named others field ≠ [] := by
    intro children others hc h hne hnil
    obtain ⟨own, hown⟩ := List.exists_mem_of_ne_nil _ hne
    obtain ⟨child, hchild, hg⟩ := mem_named.mp hown
    have hd := ((hc child hchild).of_mem (mem_of_get? hg)).distinct
    have hin := h own (isIn_named.mpr ⟨child, hchild, own, hg, Node.same_refl hd⟩)
    rw [hnil] at hin
    cases hin
  unfold Contradicts
  rw [Bool.eq_false_iff, Bool.eq_false_iff, ne_eq (node.isIn _), ne_eq (node.isIn _), h node]
  exact and_congr_left fun _ => ⟨hne hc fun node => (h node).mp, hne ho fun node => (h node).mpr⟩

/-- Before its own group of the operator is merged, an access-control query
leaves what the caller's group contradicts. -/
theorem merging_contradicts (hc : caller.WellFormed) (ha : access.WellFormed)
    (hf : Logical.ofKey? field = none) (hnew : op.key ∉ access.keys) :
    Contradicts ((merging caller access).query.childrenOf op) field node ↔
      Contradicts (caller.childrenOf op) field node := by
  have hnone : access.group? op = none := by
    rw [group?_eq_none_iff ha.keyed]
    exact Members.get?_eq_none_iff.mpr hnew
  refine contradicts_congr (merging_wellFormed hc ha).childrenOf hc.childrenOf fun node => ?_
  rw [merging_isIn_named hc ha hf, childrenOf_of_none hnone]
  simp [named, Node.isIn]

end

-- ---------------------------------------------------------------------------
-- Contradicted clauses of the caller's
-- ---------------------------------------------------------------------------

/-- A query has the node for the field, at its top level or in a group. -/
def Gives (q : Query) (field : String) (node : Node) : Prop :=
  q.get? field = some node ∨ ∃ op, node ∈ named (q.childrenOf op) field

/-- The access-control query constrains the field in groups only, if at all. Each
of them meets a group, with which it is compared instead of the caller's
top-level clauses, and the children of that group contradict none of its own. -/
def Overlooked (caller access : Query) (field : String) : Prop :=
  access.get? field = none ∧ ∀ earlier op children later,
    access.clauses = earlier ++ (op.key, .group op children) :: later →
      named children field ≠ [] → ¬Lacks caller earlier op ∧
        ∀ node ∈ named children field, ¬Contradicts (caller.childrenOf op) field node

section
variable {caller access : Query} {field : String} {requested : Node}

theorem not_overlooked_of_reports (hc : caller.WellFormed) (ha : access.WellFormed)
    (hf : Logical.ofKey? field = none)
    (h : ∃ c ∈ (merging caller access).conflicts, c.field = field) :
    ¬Overlooked caller access field := by
  rintro ⟨habsent, hgroups⟩
  obtain ⟨earlier, ⟨key, node⟩, later, he, hr⟩ := (merging_reports_iff hc ha).mp h
  obtain ⟨hearlier, hnew⟩ := ha.of_split he
  have hm : (key, node) ∈ access.clauses := by simp [he]
  have hkey : ∀ op children, node = .group op children → key = op.key := by
    rintro op children rfl
    exact (wellFormed_group.mp (ha.of_mem hm)).1
  cases hr with
  | differs | grouped =>
    rw [get?_of_mem ha.keyed hm] at habsent
    cases habsent
  | overridden lacks _ _ contra =>
    obtain rfl := hkey _ _ rfl
    exact (hgroups _ _ _ _ he contra.1).1
      ((merging_group?_eq_none_iff hc hearlier _ hnew).mp lacks)
  | @crossed op _ node children existing group held _ contra =>
    obtain rfl := hkey _ _ rfl
    have hcompared : Contradicts ((merging caller ⟨earlier⟩).query.childrenOf op) field node ↔
        Contradicts (caller.childrenOf op) field node :=
      merging_contradicts hc hearlier hf hnew
    rw [childrenOf_of_group? group] at hcompared
    exact (hgroups _ _ _ _ he (List.ne_nil_of_mem held)).2 node held (hcompared.mp contra)

theorem reports_of_not_overlooked (hc : caller.WellFormed) (ha : access.WellFormed)
    (hm : (field, requested) ∈ caller.fields)
    (hunlike : ∀ node, access.Gives field node → requested.same node = false)
    (h : ¬Overlooked caller access field) :
    ∃ c ∈ (merging caller access).conflicts, c.field = field := by
  obtain ⟨hmem, hp⟩ := mem_fields.mp hm
  have hheld := get?_of_mem hc.keyed hmem
  have hf := keyed_plain (hc.of_mem hmem).keyed hp
  -- Wherever the field has not been merged yet, the clause can still be found.
  have hfound : ∀ earlier clause later, access.clauses = earlier ++ clause :: later →
      field ∉ Query.keys ⟨earlier⟩ → ((merging caller ⟨earlier⟩).query.get? field = some requested →
        Reports (merging caller ⟨earlier⟩).query field clause.1 clause.2) →
      ∃ c ∈ (merging caller access).conflicts, c.field = field := by
    intro earlier clause later he hnew hreport
    rw [merging_reports_iff hc ha]
    rcases merging_keeps_or_reports hc (ha.of_split he).1 hf hheld hnew with hkept | hreported
    · exact ⟨earlier, clause, later, he, hreport hkept⟩
    · obtain ⟨before, other, after, he', hr⟩ :=
        (merging_reports_iff hc (ha.of_split he).1).mp hreported
      have he' : earlier = before ++ other :: after := he'
      exact ⟨before, other, after ++ clause :: later, by rw [he, he']; simp, hr⟩
  cases hown : access.get? field with
  | some node =>
    obtain ⟨earlier, later, he⟩ := List.append_of_mem (mem_of_get? hown)
    have hplain := plain_of_keyed (ha.keyed.of_get? hown) hf
    exact hfound earlier (field, node) later he (ha.of_split he).2
      fun hkept => .differs hplain hkept (hunlike node (.inl hown))
  | none =>
    simp only [Overlooked, hown, true_and, not_forall] at h
    obtain ⟨earlier, op, children, later, he, hne, h⟩ := h
    obtain ⟨hearlier, hnew⟩ := ha.of_split he
    have hmem : (op.key, Node.group op children) ∈ access.clauses := by simp [he]
    have hgroup := (group?_eq_some_iff_mem ha.keyed).mpr hmem
    have hnamed : field ∉ Query.keys ⟨earlier⟩ := by
      intro hn
      have hn : field ∈ Members.names access.clauses := by
        rw [he]
        simpa [keys, Members.names] using Or.inl hn
      exact Members.get?_eq_none_iff.mp hown hn
    by_cases hlacks : Lacks caller earlier op
    · have hlacks := (merging_group?_eq_none_iff hc hearlier op hnew).mpr hlacks
      refine hfound earlier _ later he hnamed fun hkept => .overridden hlacks hkept hp ⟨hne, ?_⟩
      rw [← Bool.not_eq_true, isIn_named]
      rintro ⟨child, hchild, own, hg, hlike⟩
      have hown : access.Gives field own :=
        .inr ⟨op, by simpa [childrenOf, hgroup] using mem_named.mpr ⟨child, hchild, hg⟩⟩
      simp [hunlike own hown] at hlike
    · have hcontra : ∃ node ∈ named children field,
          Contradicts (caller.childrenOf op) field node := by
        simpa [hlacks] using h
      obtain ⟨node, hnode, hcontra⟩ := hcontra
      rw [← merging_contradicts hc hearlier hf hnew] at hcontra
      obtain ⟨child, hchild, hg⟩ := mem_named.mp hnode
      have hplain := plain_of_keyed ((ha.child hgroup child hchild).keyed.of_get? hg) hf
      exact hfound earlier _ later he hnamed fun _ =>
        .crossed (group?_childrenOf hcontra.ne_nil) hnode hplain hcontra

end

end Query

/-- A clause of the caller's that the access-control query contradicts is
reported, exactly unless it is overlooked. -/
theorem RequestContext.merge_reports_iff {ctx after : RequestContext} {outcome : MergeOutcome}
    {access caller : Query} {field : String} {requested : Node} (ha : access.WellFormed)
    (hc : caller.WellFormed) (haccess : ctx.accessQuery = some access)
    (hcaller : ctx.query = some caller) (h : ctx.merge = .ok (outcome, after))
    (hm : (field, requested) ∈ caller.fields)
    (hunlike : ∀ node, access.Gives field node → requested.same node = false) :
    (∃ c ∈ outcome.conflicts, c.field = field) ↔ ¬Overlooked caller access field := by
  obtain ⟨rfl, -⟩ := RequestContext.merge_eq_ok haccess h
  obtain ⟨hmem, hp⟩ := mem_fields.mp hm
  have hmerging : (∃ c ∈ (merging caller access).conflicts, c.field = field) ↔
      ¬Overlooked caller access field :=
    ⟨not_overlooked_of_reports hc ha (keyed_plain (hc.of_mem hmem).keyed hp),
      reports_of_not_overlooked hc ha hm hunlike⟩
  rw [← hmerging, hcaller]
  rcases mergeInto_cases caller access with ⟨hsame, -⟩ | ⟨hnone, -, he⟩ | he
  · obtain ⟨own, hown, hlike⟩ := get?_of_same hsame (get?_of_mem hc.keyed hmem)
    simp [hunlike own (.inl hown)] at hlike
  · rw [he, hnone]
    rfl
  · rw [he]
    rfl

/-- Alternatives are compared with the caller's clause where the caller has
none of its own. -/
theorem RequestContext.merge_reports_alternative :
    ∃ outcome after, (RequestContext.ofQueries
        (alternatives [ofField "status" (.string "active"), ofField "team" .null])
        (ofField "status" (.string "closed"))).merge = .ok (outcome, after) ∧
      ∃ c ∈ outcome.conflicts, c.field = "status" := by
  have hactive : (ofField "status" (.string "active")).WellFormed :=
    wellFormed_ofField rfl (by trivial)
  have hteam : (ofField "team" .null).WellFormed := wellFormed_ofField rfl (by trivial)
  have hmerge : (RequestContext.ofQueries
      (alternatives [ofField "status" (.string "active"), ofField "team" .null])
      (ofField "status" (.string "closed"))).merge =
        .ok (.merged [⟨"status", .topLevel, .literal (.string "closed"),
            .literal (.string "active"), true⟩],
          RequestContext.ofQueries
            (alternatives [ofField "status" (.string "active"), ofField "team" .null])
            (alternatives [ofField "status" (.string "active"), ofField "team" .null])) := by
    cbv
  refine ⟨_, _, hmerge, (RequestContext.merge_reports_iff
    (wellFormed_empty.insertGroup (by simp [hactive, hteam]))
    (wellFormed_ofField rfl (by trivial)) rfl rfl hmerge
    (List.mem_cons_self : ("status", Node.literal (.string "closed")) ∈ _)
    ?_).mpr ?_⟩
  · rintro node (hg | ⟨op, hn⟩)
    · cases hg
    · cases op with
      | and => cases hn
      | or =>
        have hnamed : node ∈ [Node.literal (.string "active")] := hn
        rw [List.mem_singleton.mp hnamed]
        cbv
  · rintro ⟨-, hgroups⟩
    refine (hgroups [] .or _ [] rfl (List.cons_ne_nil _ _)).1 ⟨rfl, ?_⟩
    intro hand
    cases hand

/-- A conjunction of the caller's keeps its top-level clauses out of sight of
the access-control query's conjunction. -/
theorem RequestContext.merge_overlooks_contradiction :
    ∃ after, (RequestContext.ofQueries
        (empty.insertGroup .and [ofField "status" (.string "active")])
        ((ofField "status" (.string "closed")).insertGroup .and [ofField "team" .null])).merge =
          .ok (.merged [], after) ∧
      ("status", .literal (.string "closed")) ∈
        ((ofField "status" (.string "closed")).insertGroup .and [ofField "team" .null]).fields ∧
      (∃ node, (empty.insertGroup .and [ofField "status" (.string "active")]).Gives
        "status" node) ∧
      ∀ node, (empty.insertGroup .and [ofField "status" (.string "active")]).Gives "status" node →
        (Node.literal (.string "closed")).same node = false := by
  refine ⟨_, by cbv, List.mem_cons_self, ⟨.literal (.string "active"), .inr ⟨.and, ?_⟩⟩, ?_⟩
  · exact List.mem_cons_self
  · rintro node (hg | ⟨op, hn⟩)
    · cases hg
    · cases op with
      | or => cases hn
      | and =>
        have hnamed : node ∈ [Node.literal (.string "active")] := hn
        rw [List.mem_singleton.mp hnamed]
        cbv

end QueryGuard
