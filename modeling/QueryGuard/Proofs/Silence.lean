import QueryGuard.Proofs.Conflicts

/-!
# Merges without a conflict

`Unopposed` says of one clause of the access-control query, after those merged
before it, that no step finds anything against it. It looks at the caller's
query and at the earlier clauses only. `merging_eq_nil_iff` says that a merge
reports nothing exactly when each clause in turn is unopposed.
-/

namespace QueryGuard.Query

/-- Every child that constrains the field does so like this. -/
def Agrees (children : List Query) (field : String) (node : Node) : Prop :=
  ∀ own ∈ named children field, own.same node = true

/-- What stands at the top level as long as nothing is reported: the clauses of
the caller's, and those merged that no conjunction said already. -/
def Standing (caller : Query) (clauses : List (String × Node)) (field : String)
    (node : Node) : Prop :=
  caller.get? field = some node ∨ caller.get? field = none ∧
    ∃ before after, clauses = before ++ (field, node) :: after ∧
      ¬caller.Says field node ∧ ¬Says ⟨before⟩ field node

/-- Nothing that a clause is compared with is against it. A group is compared
with the children of the caller's group; where there is no group by then, with
what stands at the top level. A plain clause is compared with the caller's
clauses and with the earlier groups that stand in the merged query. -/
def Unopposed (caller : Query) (earlier : List (String × Node)) (key : String) : Node → Prop
  | .group op children =>
    (∀ field node, node ∈ named children field → node.isGroup = false →
      ¬Contradicts (caller.childrenOf op) field node) ∧
    (Lacks caller earlier op → ∀ field own, own.isGroup = false → Standing caller earlier field own →
      ¬Contradicts children field own)
  | node =>
    (∀ own, caller.get? key = some own → own.same node = true) ∧
    (∀ op, Agrees (caller.childrenOf op) key node) ∧
    ∀ op children, (op.key, .group op children) ∈ earlier →
      (op = .or → caller.group? .or = none) → Agrees children key node

section
variable {caller access : Query} {clauses : List (String × Node)} {key field : String}
  {node own : Node} {op : Logical} {children : List Query}

-- ---------------------------------------------------------------------------
-- Agreement
-- ---------------------------------------------------------------------------

theorem distinct_of_mem_named (hc : ∀ child ∈ children, child.WellFormed)
    (h : node ∈ named children field) : node.Distinct := by
  obtain ⟨child, hm, hg⟩ := mem_named.mp h
  exact ((hc child hm).of_mem (mem_of_get? hg)).distinct

theorem isIn_of_mem_named (hc : ∀ child ∈ children, child.WellFormed)
    (h : node ∈ named children field) : node.isIn (named children field) = true :=
  List.any_eq_true.mpr ⟨node, h, Node.same_refl (distinct_of_mem_named hc h)⟩

theorem agrees_iff (hc : ∀ child ∈ children, child.WellFormed) :
    Agrees children field node ↔
      ∀ own : Node, own.isIn (named children field) = true → own.same node = true := by
  constructor
  · intro h own hin
    obtain ⟨other, ho, hlike⟩ := List.any_eq_true.mp hin
    exact Node.same_trans hlike (h other ho)
  · intro h own ho
    exact h own (isIn_of_mem_named hc ho)

theorem Agrees.not_contradicts (hc : ∀ child ∈ children, child.WellFormed) (hn : node.Distinct)
    (h : Agrees children field node) : ¬Contradicts children field node := by
  rintro ⟨hne, hin⟩
  obtain ⟨own, ho⟩ := List.exists_mem_of_ne_nil _ hne
  have hlike := Node.same_symm (distinct_of_mem_named hc ho) hn (h own ho)
  rw [Node.isIn, List.any_eq_false] at hin
  exact hin own ho hlike

@[simp] theorem agrees_nil : Agrees [] field node := by
  simp [Agrees, named]

@[simp] theorem not_contradicts_nil : ¬Contradicts [] field node := by
  simp [Contradicts, named]

-- ---------------------------------------------------------------------------
-- What stands at the top level
-- ---------------------------------------------------------------------------

theorem standing_append : Standing caller (clauses ++ [(key, node)]) field own ↔
    Standing caller clauses field own ∨ (key, node) = (field, own) ∧ caller.get? field = none ∧
      ¬caller.Says field own ∧ ¬Says ⟨clauses⟩ field own := by
  have hplaces : ∀ clauses : List (String × Node),
      (∃ before after, clauses = before ++ (field, own) :: after ∧
        ¬caller.Says field own ∧ ¬Says ⟨before⟩ field own) ↔
      ∃ before item after, clauses = before ++ item :: after ∧ item = (field, own) ∧
        ¬caller.Says field own ∧ ¬Says ⟨before⟩ field own := by
    intro clauses
    constructor
    · rintro ⟨before, after, he, h⟩
      exact ⟨before, _, after, he, rfl, h⟩
    · rintro ⟨before, _, after, he, rfl, h⟩
      exact ⟨before, after, he, h⟩
  unfold Standing
  rw [hplaces, hplaces, exists_split_append (fun before item => item = (field, own) ∧
    ¬caller.Says field own ∧ ¬Says ⟨before⟩ field own) clauses (key, node)]
  grind

theorem Standing.mem (h : Standing caller clauses field own) :
    caller.get? field = some own ∨ (field, own) ∈ clauses := by
  rcases h with h | ⟨-, before, after, rfl, -⟩
  · exact .inl h
  · exact .inr (by simp)

theorem implied_iff {q : Query} (hq : q.WellFormed) (hn : node.Distinct) :
    ((q.findInGroups key).any fun hit => hit.2.same node && hit.1 == .and) = true ↔
      q.Says key node := by
  rw [List.any_eq_true, says_iff]
  simp only [mem_findInGroups_iff, mem_named, Bool.and_eq_true, beq_iff_eq]
  constructor
  · rintro ⟨⟨op, own⟩, ⟨children, hgroup, child, hc, hown⟩, hlike, rfl⟩
    have hd := ((hq.child hgroup child hc).of_mem (mem_of_get? hown)).distinct
    exact ⟨children, hgroup, child, hc, own, hown, Node.same_symm hd hn hlike⟩
  · rintro ⟨children, hgroup, child, hc, own, hown, hlike⟩
    have hd := ((hq.child hgroup child hc).of_mem (mem_of_get? hown)).distinct
    exact ⟨(.and, own), ⟨children, hgroup, child, hc, hown⟩, Node.same_symm hn hd hlike, rfl⟩

theorem mergeField_get?_iff {m : Merging} (hq : m.query.WellFormed) (hn : node.WellFormed key)
    (hp : node.isGroup = false) : (mergeField key node m).query.get? key = some own ↔
      (m.query.get? key = some own ∧ own.same node = true) ∨
        own = node ∧ ((∃ held, m.query.get? key = some held ∧ held.same node = false) ∨
          m.query.get? key = none ∧ ¬m.query.Says key node) := by
  have himplied : _ ↔ m.query.Says key node := implied_iff hq hn.distinct
  unfold mergeField
  dsimp only
  cases hg : m.query.get? key with
  | some held =>
    cases hlike : held.same node with
    | true =>
      simp only [hlike, ↓reduceIte]
      grind
    | false =>
      simp only [hlike, Bool.false_eq_true, ↓reduceIte, insert_plain hp, get?_put_self]
      grind
  | none =>
    by_cases hs : m.query.Says key node
    · simp [himplied.mpr hs, hg, hs]
    · have hnot := Bool.eq_false_iff.mpr (mt himplied.mp hs)
      simp [hnot, insert_plain hp, get?_put_self, hs, @eq_comm _ node]

theorem merging_nil_append (hc : caller.WellFormed) (ha : (⟨clauses⟩ : Query).WellFormed)
    (hn : node.WellFormed key) :
    (merging caller ⟨clauses ++ [(key, node)]⟩).conflicts = [] ↔
      (merging caller ⟨clauses⟩).conflicts = [] ∧
        ∀ field, ¬Reports (merging caller ⟨clauses⟩).query field key node := by
  obtain ⟨found, hfound, hreports⟩ := mergeClause_reports (merging_wellFormed hc ha) hn
  rw [merging_append, hfound, List.append_eq_nil_iff]
  simp only [← hreports, not_exists, not_and]
  refine and_congr_right fun _ => ⟨?_, ?_⟩
  · rintro rfl
    simp
  · exact fun h => List.eq_nil_iff_forall_not_mem.mpr fun c hm => h c.field c hm rfl

theorem mergeClause_plain {m : Merging} (hp : node.isGroup = false) :
    mergeClause m key node = mergeField key node m := by
  cases node with
  | group => cases hp
  | _ => rfl

/-- As long as nothing is reported, the top level holds what `Standing` says. -/
theorem merging_get?_iff_standing (hc : caller.WellFormed) (ha : access.WellFormed)
    (hf : Logical.ofKey? field = none) (hnone : (merging caller access).conflicts = []) :
    (merging caller access).query.get? field = some own ↔
      Standing caller access.clauses field own := by
  induction ha using WellFormed.induct generalizing own with
  | nil => simp [merging, empty, Standing]
  | append clauses key node ha hn hnew ih =>
    obtain ⟨hinit, hsilent⟩ := (merging_nil_append hc ha hn).mp hnone
    have ih : ∀ {own}, (merging caller ⟨clauses⟩).query.get? field = some own ↔
        Standing caller clauses field own := ih hinit
    obtain ⟨found, -, hstep, hq, hr⟩ := merging_step hc ha hn
    rw [standing_append, ← ih]
    by_cases hk : field = key
    · subst hk
      have hp := plain_of_keyed hn.keyed hf
      have hlike : ∀ own, (merging caller ⟨clauses⟩).query.get? field = some own →
          own.same node = true := by
        intro own hg
        by_contra hunlike
        exact hsilent field (.differs hp hg (by simpa using hunlike))
      -- No earlier clause has this key, so what is there is the caller's.
      have hheld : ∀ {own}, (merging caller ⟨clauses⟩).query.get? field = some own ↔
          caller.get? field = some own := by
        intro own
        refine ih.trans ⟨fun h => h.resolve_right ?_, .inl⟩
        rintro ⟨-, before, after, rfl, -⟩
        exact hnew (by simp [Members.names])
      have habsent : (merging caller ⟨clauses⟩).query.get? field = none ↔
          caller.get? field = none := by
        simp only [Option.eq_none_iff_forall_ne_some, ne_eq, hheld]
      rw [merging_append, mergeClause_plain hp, mergeField_get?_iff hq hn hp, habsent,
        merging_says_iff hc ha hf]
      grind
    · have hne : ¬(key, node) = (field, own) := fun he => hk (congrArg Prod.fst he).symm
      simp only [hne, false_and, or_false]
      constructor
      · intro hg
        have hp := plain_of_keyed (hr.keyed.of_get? hg) hf
        exact ((hstep.get?_plain_iff hf hk hp).mp hg).1
      · intro hg
        have hp := plain_of_keyed (hq.keyed.of_get? hg) hf
        refine (hstep.get?_plain_iff hf hk hp).mpr ⟨hg, ?_⟩
        rintro ⟨op, children, rfl, hlacks, hcontra⟩
        exact hsilent field (.overridden hlacks hg hp hcontra)

-- ---------------------------------------------------------------------------
-- Steps without a conflict
-- ---------------------------------------------------------------------------

theorem reports_group_iff (hc : caller.WellFormed) (ha : access.WellFormed)
    (hnone : (merging caller access).conflicts = []) (hn : (Node.group op children).WellFormed key)
    (hnew : key ∉ access.keys) :
    (∀ field, ¬Reports (merging caller access).query field key (.group op children)) ↔
      Unopposed caller access.clauses key (.group op children) := by
  obtain ⟨rfl, hchildren⟩ := wellFormed_group.mp hn
  have hq := merging_wellFormed hc ha
  have hfield : ∀ {field : String} {node : Node}, node ∈ named children field →
      node.isGroup = false → Logical.ofKey? field = none := by
    intro field node hm hp
    obtain ⟨child, hchild, hg⟩ := mem_named.mp hm
    exact keyed_plain ((hchildren child hchild).keyed.of_get? hg) hp
  constructor
  · intro h
    refine ⟨fun field node hm hp hcontra => ?_, fun hlacks field own hp hs hcontra => ?_⟩
    · have hcontra := (merging_contradicts hc ha (hfield hm hp) hnew).mpr hcontra
      exact h field (.crossed (group?_childrenOf hcontra.ne_nil) hm hp hcontra)
    · have hf : Logical.ofKey? field = none := by
        rcases hs.mem with hg | hm
        · exact keyed_plain (hc.keyed.of_get? hg) hp
        · exact keyed_plain (ha.of_mem hm).keyed hp
      have hg := (merging_get?_iff_standing hc ha hf hnone).mpr hs
      have hlacks := (merging_group?_eq_none_iff hc ha op hnew).mpr hlacks
      exact h field (.overridden hlacks hg hp hcontra)
  · rintro ⟨hcrossed, hstanding⟩ field hr
    cases hr with
    | differs plain | grouped plain => cases plain
    | overridden lacks held plain contra =>
      have hf := keyed_plain (hq.keyed.of_get? held) plain
      exact hstanding ((merging_group?_eq_none_iff hc ha op hnew).mp lacks) field _ plain
        ((merging_get?_iff_standing hc ha hf hnone).mp held) contra
    | crossed group held plain contra =>
      rw [← childrenOf_of_group? group] at contra
      exact hcrossed field _ held plain
        ((merging_contradicts hc ha (hfield held plain) hnew).mp contra)

theorem not_reports_plain_iff {q : Query} (hp : node.isGroup = false) :
    (∀ field, ¬Reports q field key node) ↔
      (∀ own, q.get? key = some own → own.same node = true) ∧
        ∀ op, Agrees (q.childrenOf op) key node := by
  constructor
  · refine fun h => ⟨fun own hg => ?_, fun op own ho => ?_⟩
    · by_contra hunlike
      exact h key (.differs hp hg (by simpa using hunlike))
    · by_contra hunlike
      have hg := group?_childrenOf (ne_nil_of_mem_named ho)
      exact h key (.grouped hp hg ho (by simpa using hunlike))
  · rintro ⟨htop, hgroups⟩ field hr
    cases hr with
    | differs _ held unlike => simp [htop _ held] at unlike
    | grouped _ group held unlike =>
      rw [← childrenOf_of_group? group] at held
      simp [hgroups _ _ held] at unlike
    | overridden | crossed => cases hp

theorem merging_agrees_iff (hc : caller.WellFormed) (ha : access.WellFormed)
    (hf : Logical.ofKey? key = none) :
    Agrees ((merging caller access).query.childrenOf op) key node ↔
      Agrees (caller.childrenOf op) key node ∧
        ∀ children, (op.key, Node.group op children) ∈ access.clauses →
          (op = .or → caller.group? .or = none) → Agrees children key node := by
  rw [agrees_iff (merging_wellFormed hc ha).childrenOf, agrees_iff hc.childrenOf]
  simp only [merging_isIn_named hc ha hf]
  constructor
  · refine fun h => ⟨fun own ho => h own (.inl ho), fun children hm hjoins => ?_⟩
    have hgroup := (group?_eq_some_iff_mem ha.keyed).mpr hm
    rw [agrees_iff (ha.child hgroup)]
    exact fun own ho => h own (.inr ⟨hjoins, by rwa [childrenOf_of_group? hgroup]⟩)
  · rintro ⟨hcaller, haccess⟩ own (ho | ⟨hjoins, ho⟩)
    · exact hcaller own ho
    · obtain ⟨other, hm, -⟩ := List.any_eq_true.mp ho
      have hg := group?_childrenOf (ne_nil_of_mem_named hm)
      have hagrees := haccess _ ((group?_eq_some_iff_mem ha.keyed).mp hg) hjoins
      exact (agrees_iff ha.childrenOf).mp hagrees own ho

theorem reports_plain_iff (hc : caller.WellFormed) (ha : access.WellFormed)
    (hnone : (merging caller access).conflicts = []) (hn : node.WellFormed key)
    (hp : node.isGroup = false) (hnew : key ∉ access.keys) :
    (∀ field, ¬Reports (merging caller access).query field key node) ↔
      (∀ own, caller.get? key = some own → own.same node = true) ∧
        (∀ op, Agrees (caller.childrenOf op) key node) ∧
        ∀ op children, (op.key, Node.group op children) ∈ access.clauses →
          (op = .or → caller.group? .or = none) → Agrees children key node := by
  have hf := keyed_plain hn.keyed hp
  have htop : ∀ own, (merging caller access).query.get? key = some own ↔
      caller.get? key = some own := by
    intro own
    rw [merging_get?_iff_standing hc ha hf hnone]
    refine ⟨fun h => h.resolve_right ?_, .inl⟩
    rintro ⟨-, before, after, he, -⟩
    have hm : (key, own) ∈ access.clauses := by simp [he]
    exact hnew (Members.mem_names hm)
  rw [not_reports_plain_iff hp]
  simp only [htop, merging_agrees_iff hc ha hf, forall_and]

theorem reports_iff_opposed (hc : caller.WellFormed) (ha : access.WellFormed)
    (hnone : (merging caller access).conflicts = []) (hn : node.WellFormed key)
    (hnew : key ∉ access.keys) :
    (∀ field, ¬Reports (merging caller access).query field key node) ↔
      Unopposed caller access.clauses key node := by
  cases node with
  | group => exact reports_group_iff hc ha hnone hn hnew
  | _ => exact reports_plain_iff hc ha hnone hn rfl hnew

theorem merging_eq_nil_iff (hc : caller.WellFormed) (ha : access.WellFormed) :
    (merging caller access).conflicts = [] ↔
      ∀ earlier clause later, access.clauses = earlier ++ clause :: later →
        Unopposed caller earlier clause.1 clause.2 := by
  induction ha using WellFormed.induct with
  | nil => simp [merging, empty]
  | append clauses key node ha hn hnew ih =>
    have hsplit := exists_split_append (fun earlier clause =>
      ¬Unopposed caller earlier clause.1 clause.2) clauses (key, node)
    rw [merging_nil_append hc ha hn]
    constructor
    · rintro ⟨hnone, hsilent⟩ earlier clause later he
      by_contra hopposed
      rcases hsplit.mp ⟨earlier, clause, later, he, hopposed⟩ with
        ⟨earlier, clause, later, he, hopposed⟩ | hopposed
      · exact hopposed (ih.mp hnone earlier clause later he)
      · exact hopposed ((reports_iff_opposed hc ha hnone hn hnew).mp hsilent)
    · intro h
      have hnone := ih.mpr fun earlier clause later he =>
        h earlier clause (later ++ [(key, node)]) (by
          have he : clauses = earlier ++ clause :: later := he
          simp [he])
      exact ⟨hnone, (reports_iff_opposed hc ha hnone hn hnew).mpr (h clauses (key, node) [] rfl)⟩

end

end QueryGuard.Query
