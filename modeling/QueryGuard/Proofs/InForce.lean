import QueryGuard.Proofs.Narrowing

/-!
# Which clauses of the access-control query are in force

A merged query holds a plain clause of the access-control query at its top
level or in its conjunction, conflicts or not, with one exception: a group of
the access-control query that the caller has none like removes plain clauses
that its children contradict, and does not ask whose they are.
-/

namespace QueryGuard

open Query

namespace Query

/-- Some child of the conjunction has the clause. -/
def Says (q : Query) (field : String) (node : Node) : Prop :=
  node.isIn (named ((q.group? .and).getD []) field) = true

/-- The clause stands at the top level or in a child of the conjunction. -/
def InForce (q : Query) (field : String) (node : Node) : Prop :=
  (∃ own, q.get? field = some own ∧ node.same own = true) ∨ q.Says field node

/-- After these clauses of the access-control query there is no group of the
operator: the caller has none, and no alternatives made a conjunction. -/
def Lacks (caller : Query) (earlier : List (String × Node)) (op : Logical) : Prop :=
  caller.group? op = none ∧ (op = .and → ∀ own others, caller.group? .or = some own →
    (Logical.or.key, .group .or others) ∈ earlier → Covers own others)

/-- A later group of the access-control query meets no group of the caller's
and contradicts the clause. -/
def Contradicted (caller : Query) (clauses : List (String × Node)) (field : String)
    (node : Node) : Prop :=
  ∃ earlier op children later, clauses = earlier ++ (op.key, .group op children) :: later ∧
    (field, node) ∈ earlier ∧ Lacks caller earlier op ∧ Contradicts children field node

/-- The clause is removed at the top level, and no conjunction says it. -/
def Overruled (caller access : Query) (field : String) (node : Node) : Prop :=
  Contradicted caller access.clauses field node ∧
    ¬caller.Says field node ∧ ¬access.Says field node

-- ---------------------------------------------------------------------------
-- The same clause in another place
-- ---------------------------------------------------------------------------

section
variable {q result : Query} {found : List Conflict} {key field : String} {node clause : Node}

theorem isIn_named {children : List Query} : node.isIn (named children field) = true ↔
    ∃ child ∈ children, ∃ own, child.get? field = some own ∧ node.same own = true := by
  unfold Node.isIn
  rw [List.any_eq_true]
  constructor
  · rintro ⟨own, ho, hlike⟩
    obtain ⟨child, hc, hg⟩ := mem_named.mp ho
    exact ⟨child, hc, own, hg, hlike⟩
  · rintro ⟨child, hc, own, hg, hlike⟩
    exact ⟨own, mem_named.mpr ⟨child, hc, hg⟩, hlike⟩

theorem says_iff : q.Says field node ↔ ∃ children, q.group? .and = some children ∧
    ∃ child ∈ children, ∃ own, child.get? field = some own ∧ node.same own = true := by
  unfold Says
  rw [isIn_named]
  cases q.group? .and <;> simp

theorem get?_of_same {a b : Query} (h : a.same b = true) (hg : a.get? key = some node) :
    ∃ own, b.get? key = some own ∧ node.same own = true :=
  (same_iff.mp h).2 _ (mem_of_get? hg)

theorem Says.of_same {a b : Query} (ha : a.Keyed) (hb : b.Keyed) (h : a.same b = true)
    (hs : a.Says field node) : b.Says field node := by
  obtain ⟨children, hgroup, child, hc, own, hg, hlike⟩ := says_iff.mp hs
  obtain ⟨other, ho, hsame⟩ := get?_of_same h ((group?_eq_some_iff ha).mp hgroup)
  cases other with
  | group op others =>
    obtain ⟨rfl, hall⟩ := same_group.mp hsame
    obtain ⟨child', hc', hchild⟩ := exists_of_forall₂_left hall hc
    obtain ⟨own', hg', hown⟩ := get?_of_same hchild hg
    exact says_iff.mpr ⟨others, (group?_eq_some_iff hb).mpr ho, child', hc', own', hg',
      Node.same_trans hlike hown⟩
  | _ => simp [Node.same] at hsame

theorem InForce.of_same {a b : Query} (ha : a.Keyed) (hb : b.Keyed) (h : a.same b = true)
    (hf : a.InForce field node) : b.InForce field node := by
  refine hf.imp ?_ (Says.of_same ha hb h)
  rintro ⟨own, hg, hlike⟩
  obtain ⟨own', hg', hown⟩ := get?_of_same h hg
  exact ⟨own', hg', Node.same_trans hlike hown⟩

theorem Contradicts.of_same {children : List Query} {own : Node}
    (h : Contradicts children field node) (hlike : node.same own = true) :
    Contradicts children field own := by
  refine ⟨h.1, ?_⟩
  by_contra hin
  obtain ⟨child, hc, other, hg, hown⟩ := isIn_named.mp (by simpa using hin)
  have := isIn_named.mpr ⟨child, hc, other, hg, Node.same_trans hlike hown⟩
  simp [h.2] at this

-- ---------------------------------------------------------------------------
-- Clauses across a step
-- ---------------------------------------------------------------------------

theorem Conjoined.group_and {children : List Query} (hr : result.Keyed)
    (h : Conjoined q result children) : result.group? .and = some children :=
  (group?_eq_some_iff hr).mpr h.stored

theorem MergeStep.keeps_children {existing : List Query} (h : MergeStep q found key node result)
    (hq : q.Keyed) (hr : result.Keyed) (hn : node.Keyed key) (hg : q.group? .and = some existing) :
    ∃ children, result.group? .and = some children ∧ existing ⊆ children := by
  cases h with
  | agreed | implied | covered => exact ⟨existing, hg, List.Subset.refl _⟩
  | added plain | replaced plain =>
    refine ⟨existing, ?_, List.Subset.refl _⟩
    rw [← hg]
    exact group?_congr (by rw [get?_put, if_neg (key_ne_of_plain hn plain .and).symm])
  | @installed op children _ lacks _ rest _ =>
    have hop : Logical.and.key ≠ op.key := by
      intro he
      obtain rfl := Logical.key_injective he
      rw [lacks] at hg
      cases hg
    refine ⟨existing, ?_, List.Subset.refl _⟩
    rw [group?_eq_some_iff hr, rest _ _ hop]
    exact ⟨(group?_eq_some_iff hq).mp hg, by simp [Node.isGroup]⟩
  | extended _ grown | conjoined _ _ grown =>
    exact ⟨_, grown.group_and hr, fun child hc => grown.kept child (by simpa [hg] using hc)⟩

theorem MergeStep.keeps_said (h : MergeStep q found key node result) (hq : q.Keyed)
    (hr : result.Keyed) (hn : node.Keyed key) (hs : q.Says field clause) : result.Says field clause := by
  obtain ⟨existing, hgroup, child, hc, hsaid⟩ := says_iff.mp hs
  obtain ⟨children, hchildren, hkept⟩ := h.keeps_children hq hr hn hgroup
  exact says_iff.mpr ⟨children, hchildren, child, hkept hc, hsaid⟩

theorem MergeStep.says_or (h : MergeStep q found key node result) (hq : q.Keyed)
    (hr : result.Keyed) (hn : node.Keyed key) (hf : Logical.ofKey? field = none)
    (hs : result.Says field clause) : q.Says field clause ∨
      ∃ children, node = .group .and children ∧ clause.isIn (named children field) = true := by
  obtain ⟨children, hgroup, child, hc, own, hg, hlike⟩ := says_iff.mp hs
  have hsaid : child ∈ (q.group? .and).getD [] → q.Says field clause :=
    fun hc => isIn_named.mpr ⟨child, hc, own, hg, hlike⟩
  cases h with
  | agreed | implied | covered => exact .inl hs
  | added plain | replaced plain =>
    have hne := (key_ne_of_plain hn plain .and).symm
    rw [group?_congr (b := q) (by rw [get?_put, if_neg hne])] at hgroup
    exact .inl (hsaid (by simpa [hgroup] using hc))
  | @installed op others _ lacks stored rest _ =>
    rw [group?_eq_some_iff hr] at hgroup
    by_cases hop : Logical.and.key = op.key
    · obtain rfl := Logical.key_injective hop
      rw [stored] at hgroup
      cases hgroup
      exact .inr ⟨_, rfl, isIn_named.mpr ⟨child, hc, own, hg, hlike⟩⟩
    · have hgroup := (group?_eq_some_iff hq).mpr ((rest _ _ hop).mp hgroup).1
      exact .inl (hsaid (by simpa [hgroup] using hc))
  | @extended others existing additions _ group grown asked =>
    rw [grown.group_and hr] at hgroup
    cases hgroup
    rcases List.mem_append.mp hc with hc | hc
    · exact .inl (hsaid (by simpa [group] using hc))
    · exact .inr ⟨_, rfl, isIn_named.mpr ⟨child, asked child hc, own, hg, hlike⟩⟩
  | conjoined group uncovered grown told asked =>
    rw [grown.group_and hr] at hgroup
    cases hgroup
    rcases asked child hc with hc | rfl
    · exact .inl (hsaid hc)
    · rw [alternatives_get?] at hg
      split at hg
      · next he => simp [he] at hf
      · cases hg

end

-- ---------------------------------------------------------------------------
-- The clause that a step merges
-- ---------------------------------------------------------------------------

section
variable {q result : Query} {found : List Conflict} {key field : String} {node clause own : Node}

theorem isIn_named_of_same {existing : List Query} {child : Query}
    (h : child.isIn existing = true) (hg : child.get? field = some own)
    (hlike : clause.same own = true) : clause.isIn (named existing field) = true := by
  obtain ⟨other, ho, hsame⟩ := List.any_eq_true.mp h
  obtain ⟨held, hheld, hown⟩ := get?_of_same hsame hg
  exact isIn_named.mpr ⟨other, ho, held, hheld, Node.same_trans hlike hown⟩

theorem MergeStep.says_group {children : List Query} (h : MergeStep q found key node result)
    (hnode : node = .group .and children) (hq : q.WellFormed) (hr : result.Keyed)
    (hin : clause.isIn (named children field) = true) : result.Says field clause := by
  cases h with
  | agreed plain | implied plain | added plain | replaced plain =>
    rw [hnode] at plain
    cases plain
  | installed lacks stored =>
    cases hnode
    unfold Says
    rw [(group?_eq_some_iff hr).mpr stored]
    exact hin
  | @extended _ existing additions _ group grown asked told =>
    cases hnode
    obtain ⟨child, hc, own, hg, hlike⟩ := isIn_named.mp hin
    have hsaid : clause.isIn (named existing field) = true ∨ child ∈ additions := by
      rcases told child hc with hin | himplied | hadded
      · exact .inl (isIn_named_of_same hin hg hlike)
      · obtain ⟨other, ho, held, hheld, hown⟩ := exists_of_isImplied himplied (mem_of_get? hg)
        have hheld := get?_of_mem (hq.child group other ho).keyed hheld
        exact .inl (isIn_named.mpr ⟨other, ho, held, hheld, Node.same_trans hlike hown⟩)
      · exact .inr hadded
    refine says_iff.mpr ⟨_, grown.group_and hr, ?_⟩
    rcases hsaid with hin | hadded
    · obtain ⟨other, ho, held⟩ := isIn_named.mp hin
      exact ⟨other, List.mem_append_left _ ho, held⟩
    · exact ⟨child, List.mem_append_right _ hadded, own, hg, hlike⟩
  | covered | conjoined => cases hnode

theorem MergeStep.inForce (h : MergeStep q found key node result) (hq : q.WellFormed)
    (hn : node.WellFormed key) (hp : node.isGroup = false) : result.InForce key node := by
  cases h with
  | @agreed _ _ own plain held like =>
    have ho := (hq.of_mem (mem_of_get? held)).distinct
    exact .inl ⟨own, held, Node.same_symm ho hn.distinct like⟩
  | @implied _ _ own children child plain absent group mem held like =>
    have ho := ((hq.child group child mem).of_mem (mem_of_get? held)).distinct
    exact .inr (says_iff.mpr ⟨children, group, child, mem, own, held,
      Node.same_symm ho hn.distinct like⟩)
  | added | replaced => exact .inl ⟨node, get?_put_self, Node.same_refl hn.distinct⟩
  | installed | extended | covered | conjoined => cases hp

theorem MergeStep.get?_plain_iff (h : MergeStep q found key node result)
    (hf : Logical.ofKey? field = none) (hne : field ≠ key) (hp : own.isGroup = false) :
    result.get? field = some own ↔ q.get? field = some own ∧
      ¬∃ op children, node = .group op children ∧ q.group? op = none ∧
        Contradicts children field own := by
  have hplain : ∀ op : Logical, field ≠ op.key := by
    rintro op rfl
    simp at hf
  have hkept : (∀ op children, node = .group op children → q.group? op ≠ none) →
      (q.get? field = some own ↔ q.get? field = some own ∧
        ¬∃ op children, node = .group op children ∧ q.group? op = none ∧
          Contradicts children field own) := by
    intro hheld
    refine (and_iff_left ?_).symm
    rintro ⟨op, children, he, hnone, -⟩
    exact hheld op children he hnone
  cases h with
  | agreed plain | implied plain =>
    exact hkept (by rintro op children rfl; cases plain)
  | added plain | replaced plain =>
    rw [get?_put, if_neg hne]
    exact hkept (by rintro op children rfl; cases plain)
  | @installed op children _ lacks _ rest _ =>
    rw [rest field own hne]
    refine and_congr_right fun _ => not_congr ⟨fun hc => ⟨op, children, rfl, lacks, hc.2⟩, ?_⟩
    rintro ⟨op', children', he, -, hc⟩
    cases he
    exact ⟨hp, hc⟩
  | extended group grown | conjoined group _ grown =>
    rw [grown.rest field (hplain .and)]
    exact hkept (by rintro op children he; cases he; simp [group])
  | covered group => exact hkept (by rintro op children he; cases he; simp [group])

theorem MergeStep.holds_like_iff (h : MergeStep q found key node result) (hq : q.WellFormed)
    (hf : Logical.ofKey? field = none) (hne : field ≠ key) (hp : clause.isGroup = false)
    (hd : clause.Distinct) :
    (∃ own, result.get? field = some own ∧ clause.same own = true) ↔
      (∃ own, q.get? field = some own ∧ clause.same own = true) ∧
        ¬∃ op children, node = .group op children ∧ q.group? op = none ∧
          Contradicts children field clause := by
  constructor
  · rintro ⟨own, hg, hlike⟩
    have hown : own.isGroup = false := Node.isGroup_of_same hlike ▸ hp
    obtain ⟨hg, hkept⟩ := (h.get?_plain_iff hf hne hown).mp hg
    refine ⟨⟨own, hg, hlike⟩, ?_⟩
    rintro ⟨op, children, he, hl, hcontra⟩
    exact hkept ⟨op, children, he, hl, hcontra.of_same hlike⟩
  · rintro ⟨⟨own, hg, hlike⟩, hkept⟩
    have hown : own.isGroup = false := Node.isGroup_of_same hlike ▸ hp
    have hback := Node.same_symm hd (hq.of_mem (mem_of_get? hg)).distinct hlike
    refine ⟨own, (h.get?_plain_iff hf hne hown).mpr ⟨hg, ?_⟩, hlike⟩
    rintro ⟨op, children, he, hl, hcontra⟩
    exact hkept ⟨op, children, he, hl, hcontra.of_same hback⟩

theorem MergeStep.group?_eq_none_iff {op : Logical} (h : MergeStep q found key node result)
    (hq : q.Keyed) (hr : result.Keyed) (hn : node.Keyed key) (hne : key ≠ op.key) :
    result.group? op = none ↔ q.group? op = none ∧ (op = .and → ∀ own others,
      q.group? .or = some own → node = .group .or others → Covers own others) := by
  have hkept : (∀ own others, q.group? .or = some own → node = .group .or others →
      Covers own others) → (q.group? op = none ↔ q.group? op = none ∧ (op = .and → ∀ own others,
        q.group? .or = some own → node = .group .or others → Covers own others)) :=
    fun h => (and_iff_left fun _ => h).symm
  cases h with
  | agreed plain | implied plain =>
    exact hkept (by rintro own others - rfl; cases plain)
  | added plain | replaced plain =>
    rw [group?_congr (b := q) (by rw [get?_put, if_neg hne.symm])]
    exact hkept (by rintro own others - rfl; cases plain)
  | @installed op' children _ lacks _ rest _ =>
    have hsame : result.group? op = q.group? op := by
      apply Option.ext
      intro others
      rw [group?_eq_some_iff hr, group?_eq_some_iff hq, rest _ _ hne.symm]
      simp [Node.isGroup]
    rw [hsame]
    refine hkept ?_
    rintro own others hg he
    cases he
    rw [lacks] at hg
    cases hg
  | extended group grown =>
    rw [group?_congr (grown.rest _ hne.symm)]
    exact hkept (by rintro own others - he; cases he)
  | @covered own others group covers =>
    refine hkept ?_
    rintro own' others' hg he
    cases he
    obtain rfl := Option.some.inj (group.symm.trans hg)
    exact covers
  | @conjoined own others children _ group uncovered grown =>
    cases op with
    | or => exact absurd rfl hne
    | and =>
      rw [grown.group_and hr]
      refine iff_of_false (by simp) ?_
      exact fun h => uncovered (h.2 rfl own others group rfl)

end

-- ---------------------------------------------------------------------------
-- Clauses across a run
-- ---------------------------------------------------------------------------

section
variable {caller access : Query} {clauses : List (String × Node)} {key field : String}
  {node clause : Node}

theorem lacks_append {op : Logical} (clauses : List (String × Node)) (hne : key ≠ op.key) :
    Lacks caller (clauses ++ [(key, node)]) op ↔ Lacks caller clauses op ∧
      (op = .and → ∀ own others, caller.group? .or = some own → key = Logical.or.key →
        node = .group .or others → Covers own others) := by
  unfold Lacks
  rw [and_assoc]
  refine and_congr_right fun _ => ⟨fun h => ⟨?_, ?_⟩, ?_⟩
  · exact fun hop own others hg hm => h hop own others hg (List.mem_append_left _ hm)
  · rintro hop own others hg rfl rfl
    exact h hop own others hg (by simp)
  · rintro ⟨hold, hlast⟩ hop own others hg hm
    rcases List.mem_append.mp hm with hm | hm
    · exact hold hop own others hg hm
    · have hclause := List.mem_singleton.mp hm
      exact hlast hop own others hg (congrArg Prod.fst hclause).symm
        (congrArg Prod.snd hclause).symm

theorem merging_group?_eq_none_iff (hc : caller.WellFormed) (ha : access.WellFormed) (op : Logical)
    (h : op.key ∉ access.keys) :
    (merging caller access).query.group? op = none ↔ Lacks caller access.clauses op := by
  induction ha using WellFormed.induct with
  | nil => simp [merging, empty, Lacks]
  | append clauses key node ha hn hnew ih =>
    obtain ⟨found, -, hstep, hq, hr⟩ := merging_step hc ha hn
    have hkeys : Query.keys ⟨clauses ++ [(key, node)]⟩ = Query.keys ⟨clauses⟩ ++ [key] := by
      simp [keys, Members.names]
    rw [hkeys, List.mem_append, not_or, List.mem_singleton] at h
    have hne : key ≠ op.key := Ne.symm h.2
    rw [hstep.group?_eq_none_iff hq.keyed hr.keyed hn.keyed hne, ih h.1, lacks_append clauses hne]
    refine and_congr_right fun _ => forall_congr' fun _ => ?_
    have hor : ∀ others, node = .group .or others →
        (merging caller ⟨clauses⟩).query.group? .or = caller.group? .or ∧ key = Logical.or.key := by
      rintro others rfl
      obtain ⟨rfl, -⟩ := keyed_group.mp hn.keyed
      exact ⟨merging_group_or hc ha fun hm => absurd hm hnew, rfl⟩
    constructor
    · rintro hcovers own others hg - he
      exact hcovers own others ((hor others he).1.trans hg) he
    · intro hcovers own others hg he
      exact hcovers own others ((hor others he).1.symm.trans hg) (hor others he).2 he

theorem exists_group_append (P : List (String × Node) → Logical → List Query → Prop)
    (clauses : List (String × Node)) (last : String × Node) :
    (∃ earlier op children later,
        clauses ++ [last] = earlier ++ (op.key, .group op children) :: later ∧
          P earlier op children) ↔
      (∃ earlier op children later,
        clauses = earlier ++ (op.key, .group op children) :: later ∧ P earlier op children) ∨
      ∃ op children, last = (op.key, .group op children) ∧ P clauses op children := by
  have hplaces : ∀ clauses : List (String × Node),
      (∃ earlier op children later,
        clauses = earlier ++ (op.key, .group op children) :: later ∧ P earlier op children) ↔
      ∃ earlier item later, clauses = earlier ++ item :: later ∧
        ∃ op children, item = (op.key, .group op children) ∧ P earlier op children := by
    intro clauses
    constructor
    · rintro ⟨earlier, op, children, later, he, h⟩
      exact ⟨earlier, _, later, he, op, children, rfl, h⟩
    · rintro ⟨earlier, _, later, he, op, children, rfl, h⟩
      exact ⟨earlier, op, children, later, he, h⟩
  rw [hplaces, hplaces]
  exact exists_split_append _ clauses last

theorem contradicted_append : Contradicted caller (clauses ++ [(key, node)]) field clause ↔
    Contradicted caller clauses field clause ∨ ∃ op children,
      (key, node) = (op.key, .group op children) ∧ (field, clause) ∈ clauses ∧
        Lacks caller clauses op ∧ Contradicts children field clause :=
  exists_group_append (fun earlier op children => (field, clause) ∈ earlier ∧
    Lacks caller earlier op ∧ Contradicts children field clause) clauses (key, node)

theorem merging_lacks_iff (hc : caller.WellFormed) (ha : (⟨clauses⟩ : Query).WellFormed)
    (hn : node.WellFormed key) (hnew : key ∉ Members.names clauses) (P : List Query → Prop) :
    (∃ op children, node = .group op children ∧
      (merging caller ⟨clauses⟩).query.group? op = none ∧ P children) ↔
    ∃ op children, (key, node) = (op.key, .group op children) ∧ Lacks caller clauses op ∧
      P children := by
  constructor
  · rintro ⟨op, children, rfl, hlacks, h⟩
    obtain ⟨rfl, -⟩ := keyed_group.mp hn.keyed
    exact ⟨op, children, rfl, (merging_group?_eq_none_iff hc ha op hnew).mp hlacks, h⟩
  · rintro ⟨op, children, he, hlacks, h⟩
    cases he
    exact ⟨op, children, rfl, (merging_group?_eq_none_iff hc ha op hnew).mpr hlacks, h⟩

theorem Contradicted.mem (h : Contradicted caller clauses field clause) :
    (field, clause) ∈ clauses := by
  obtain ⟨earlier, op, children, later, rfl, hm, -⟩ := h
  exact List.mem_append_left _ hm

theorem says_append (hq : (⟨clauses⟩ : Query).Keyed)
    (hr : (⟨clauses ++ [(key, node)]⟩ : Query).Keyed) :
    Says ⟨clauses ++ [(key, node)]⟩ field clause ↔ Says ⟨clauses⟩ field clause ∨
      ∃ children, node = .group .and children ∧ clause.isIn (named children field) = true := by
  have hkeyed : node.Keyed key := (keyed_iff.mp hr).2 (key, node) (by simp)
  have hgroup : ∀ children, Query.group? ⟨clauses ++ [(key, node)]⟩ .and = some children ↔
      Query.group? ⟨clauses⟩ .and = some children ∨ node = .group .and children := by
    intro children
    rw [group?_eq_some_iff_mem hr, group?_eq_some_iff_mem hq, List.mem_append, List.mem_singleton]
    refine or_congr_right ⟨fun he => (congrArg Prod.snd he).symm, ?_⟩
    rintro rfl
    rw [(keyed_group.mp hkeyed).1]
  simp only [says_iff, hgroup, isIn_named]
  constructor
  · rintro ⟨children, hg | rfl, hsaid⟩
    · exact .inl ⟨children, hg, hsaid⟩
    · exact .inr ⟨children, rfl, hsaid⟩
  · rintro (⟨children, hg, hsaid⟩ | ⟨children, rfl, hsaid⟩)
    · exact ⟨children, .inl hg, hsaid⟩
    · exact ⟨children, .inr rfl, hsaid⟩

theorem merging_says_iff (hc : caller.WellFormed) (ha : access.WellFormed)
    (hf : Logical.ofKey? field = none) :
    (merging caller access).query.Says field clause ↔
      caller.Says field clause ∨ access.Says field clause := by
  induction ha using WellFormed.induct with
  | nil => simp [merging, empty, says_iff, group?, get?, Members.get?]
  | append clauses key node ha hn hnew ih ha' =>
    obtain ⟨found, -, hstep, hq, hr⟩ := merging_step hc ha hn
    rw [says_append ha.keyed ha'.keyed, ← or_assoc, ← ih]
    constructor
    · exact hstep.says_or hq.keyed hr.keyed hn.keyed hf
    · rintro (hs | ⟨children, he, hin⟩)
      · exact hstep.keeps_said hq.keyed hr.keyed hn.keyed hs
      · exact hstep.says_group he hq hr.keyed hin

theorem merging_get?_of_unsaid (hc : caller.WellFormed) (ha : access.WellFormed)
    (hm : (field, clause) ∈ access.clauses) (hp : clause.isGroup = false)
    (hcaller : ¬caller.Says field clause) (haccess : ¬access.Says field clause) :
    (∃ own, (merging caller access).query.get? field = some own ∧ clause.same own = true) ↔
      ¬Contradicted caller access.clauses field clause := by
  have hf := keyed_plain (ha.of_mem hm).keyed hp
  induction ha using WellFormed.induct with
  | nil => simp [empty] at hm
  | append clauses key node ha hn hnew ih ha' =>
    obtain ⟨found, -, hstep, hq, hr⟩ := merging_step hc ha hn
    rw [says_append ha.keyed ha'.keyed, not_or] at haccess
    rcases List.mem_append.mp hm with hold | hlast
    · have hne : field ≠ key := fun he => hnew (he ▸ Members.mem_names hold)
      have ih : _ ↔ _ := ih hold haccess.1
      rw [contradicted_append, not_or, ← ih,
        hstep.holds_like_iff hq hf hne hp (ha.of_mem hold).distinct]
      simp only [and_iff_right hold]
      exact and_congr_right fun _ => not_congr (merging_lacks_iff hc ha hn hnew _)
    · -- The clause is the last one, so that no group comes after it.
      cases List.mem_singleton.mp hlast
      refine iff_of_true ?_ fun hc' => ?_
      · refine (hstep.inForce hq hn hp).resolve_right fun hs => ?_
        rcases hstep.says_or hq.keyed hr.keyed hn.keyed hf hs with hs | ⟨children, rfl, -⟩
        · exact ((merging_says_iff hc ha hf).mp hs).elim hcaller haccess.1
        · cases hp
      · rcases contradicted_append.mp hc' with hc' | ⟨-, -, -, hm, -⟩
        · exact hnew (Members.mem_names hc'.mem)
        · exact hnew (Members.mem_names hm)

/-- A clause is in force in the merged query unless it is overruled. -/
theorem merging_inForce_iff (hc : caller.WellFormed) (ha : access.WellFormed)
    (hm : (field, clause) ∈ access.clauses) (hp : clause.isGroup = false) :
    (merging caller access).query.InForce field clause ↔ ¬Overruled caller access field clause := by
  have hsaid : (merging caller access).query.Says field clause ↔ _ :=
    merging_says_iff hc ha (keyed_plain (ha.of_mem hm).keyed hp)
  unfold InForce Overruled
  rw [hsaid]
  by_cases hcaller : caller.Says field clause
  · exact iff_of_true (.inr (.inl hcaller)) fun h => h.2.1 hcaller
  by_cases haccess : access.Says field clause
  · exact iff_of_true (.inr (.inr haccess)) fun h => h.2.2 haccess
  rw [merging_get?_of_unsaid hc ha hm hp hcaller haccess]
  simp [hcaller, haccess]

theorem not_overruled_of_groups (ha : access.WellFormed)
    (h : ∀ op children, access.group? op = some children → caller.group? op ≠ none) :
    ¬Overruled caller access field clause := by
  rintro ⟨⟨earlier, op, children, later, he, -, hlacks, -⟩, -⟩
  exact h op children ((group?_eq_some_iff_mem ha.keyed).mpr (by simp [he])) hlacks.1

theorem mergeInto_inForce_iff (hc : caller.WellFormed) (ha : access.WellFormed)
    (hm : (field, clause) ∈ access.clauses) (hp : clause.isGroup = false) :
    (mergeInto (some caller) access).2.InForce field clause ↔
      ¬Overruled caller access field clause := by
  rcases mergeInto_cases caller access with ⟨hsame, he⟩ | ⟨-, hlike, he⟩ | he <;> rw [he]
  · have hback := same_symm hc.distinct ha.distinct hsame
    refine iff_of_true (.inl (get?_of_same hback (get?_of_mem ha.keyed hm))) ?_
    refine not_overruled_of_groups ha fun op children hgroup hlacks => ?_
    obtain ⟨own, hown, -⟩ := get?_of_same hback ((group?_eq_some_iff ha.keyed).mp hgroup)
    rw [(group?_eq_none_iff hc.keyed).mp hlacks] at hown
    cases hown
  · rw [← merging_inForce_iff hc ha hm hp]
    have hr := merging_wellFormed hc ha
    have hback := same_symm hr.distinct hc.distinct hlike
    exact ⟨InForce.of_same hc.keyed hr.keyed hback, InForce.of_same hr.keyed hc.keyed hlike⟩
  · exact merging_inForce_iff hc ha hm hp

end

end Query

/-- Whether or not there are conflicts, a plain clause of the access-control
query is in force after the merge, exactly unless it is overruled. -/
theorem RequestContext.merge_inForce_iff {ctx after : RequestContext} {outcome : MergeOutcome}
    {access : Query} {field : String} {node : Node} (ha : access.WellFormed)
    (hc : ∀ caller, ctx.query = some caller → caller.WellFormed)
    (haccess : ctx.accessQuery = some access) (h : ctx.merge = .ok (outcome, after))
    (hm : (field, node) ∈ access.fields) :
    ∃ merged, after.query = some merged ∧ (merged.InForce field node ↔
      ∀ caller, ctx.query = some caller → ¬Overruled caller access field node) := by
  obtain ⟨-, hafter⟩ := RequestContext.merge_eq_ok haccess h
  obtain ⟨hmem, hp⟩ := mem_fields.mp hm
  refine ⟨_, hafter, ?_⟩
  cases hcaller : ctx.query with
  | none =>
    have hheld := get?_of_mem ha.keyed hmem
    exact iff_of_true (.inl ⟨node, hheld, Node.same_refl (ha.of_mem hmem).distinct⟩) (by simp)
  | some caller =>
    rw [mergeInto_inForce_iff (hc caller hcaller) ha hmem hp]
    simp

/-- A clause that a group of the access-control query agrees with stays, though
the group is stored after it and overrides the caller. -/
theorem RequestContext.merge_inForce_agreed :
    ∃ outcome after merged, (RequestContext.ofQueries
        ((ofField "status" .null).insertGroup .or [ofField "status" .null, ofField "team" .null])
        (ofField "team" (.bool true))).merge = .ok (outcome, after) ∧
      outcome.hasConflicts = true ∧ after.query = some merged ∧
      merged.InForce "status" (.literal .null) := by
  have hstatus : (ofField "status" .null).WellFormed := wellFormed_ofField rfl (by trivial)
  have hteam : (ofField "team" .null).WellFormed := wellFormed_ofField rfl (by trivial)
  have hmerge : (RequestContext.ofQueries
      ((ofField "status" .null).insertGroup .or [ofField "status" .null, ofField "team" .null])
      (ofField "team" (.bool true))).merge =
        .ok (.merged [⟨"team", .topLevel, .literal (.bool true), .literal .null, true⟩],
          RequestContext.ofQueries
            ((ofField "status" .null).insertGroup .or
              [ofField "status" .null, ofField "team" .null])
            ((ofField "status" .null).insertGroup .or
              [ofField "status" .null, ofField "team" .null])) := by
    cbv
  obtain ⟨merged, hq, hiff⟩ := RequestContext.merge_inForce_iff
    (hstatus.insertGroup (by simp [hstatus, hteam]))
    (by rintro caller ⟨⟩; exact wellFormed_ofField rfl (by trivial)) rfl hmerge
    (List.mem_cons_self : ("status", Node.literal .null) ∈ _)
  refine ⟨_, _, merged, hmerge, rfl, hq, hiff.mpr ?_⟩
  rintro caller - ⟨⟨earlier, op, children, later, hsplit, -, -, -, hc⟩, -⟩
  have hgroup : (op.key, Node.group op children) ∈
      earlier ++ (op.key, .group op children) :: later := by
    simp
  rw [← hsplit] at hgroup
  have hchildren : children = [ofField "status" .null, ofField "team" .null] := by
    have hclauses : (op.key, Node.group op children) ∈ [("status", Node.literal .null),
        ("$or", Node.group .or [ofField "status" .null, ofField "team" .null])] := hgroup
    simp at hclauses
    exact hclauses.2.2
  have hagreed : (Node.literal .null).isIn
      (named [ofField "status" .null, ofField "team" .null] "status") = true := by
    cbv
  rw [hchildren, hagreed] at hc
  cases hc

/-- A conjunction of the access-control query that contradicts a clause of its
own removes it, as though the clause were the caller's. -/
theorem RequestContext.merge_overrules_own :
    ∃ after merged, (RequestContext.ofQueries
        ((ofField "status" (.string "x")).insertGroup .and [ofField "status" (.string "y")])
        empty).merge = .ok (.merged
          [⟨"status", .topLevel, .literal (.string "x"), .literal (.string "y"), true⟩], after) ∧
      after.query = some merged ∧ ¬merged.InForce "status" (.literal (.string "x")) := by
  refine ⟨_, empty.insertGroup .and [ofField "status" (.string "y")], by cbv, by cbv, ?_⟩
  rintro (⟨own, hg, -⟩ | hs)
  · cases hg
  · have hsaid : (Node.literal (.string "x")).isIn
        (named [ofField "status" (.string "y")] "status") = false := by
      cbv
    exact absurd (hs.symm.trans hsaid) (by simp)

end QueryGuard
