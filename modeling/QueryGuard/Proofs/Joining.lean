import QueryGuard.Proofs.Sameness
import QueryGuard.Proofs.Writings
import QueryGuard.Query.Lowering

/-!
# Merging constraints

Constraints under one key are merged clause by clause. A place of the merged
query holds what was merged, and otherwise what was there, unless an operand
or another kind of node took the place: `Records.merge` says so of writings.
-/

namespace QueryGuard

open Query

-- ---------------------------------------------------------------------------
-- Merging clauses
-- ---------------------------------------------------------------------------

namespace Query

section
variable {key other : String} {node : Node} {clauses : List (String × Node)} {source target : Query}

theorem keyed_cons : (⟨(key, node) :: clauses⟩ : Query).Keyed ↔
    node.Keyed key ∧ key ∉ Members.names clauses ∧ (⟨clauses⟩ : Query).Keyed := by
  simp only [keyed_iff, Members.Distinct, Members.names, List.map_cons, List.nodup_cons,
    List.forall_mem_cons]
  tauto

theorem Keyed.unheld_rest (hk : (⟨(key, node) :: clauses⟩ : Query).Keyed)
    (hnew : ∀ other ∈ Members.names ((key, node) :: clauses), target.get? other = none) :
    ∀ other ∈ Members.names clauses, (target.put key node).get? other = none := by
  intro other ho
  have hne : other ≠ key := fun he => (keyed_cons.mp hk).2.1 (he ▸ ho)
  rw [get?_put, if_neg hne]
  exact hnew other (List.mem_cons_of_mem _ ho)

/-- What a key holds after a node was merged under it. -/
def joined : Node → Option Node → Node
  | .constraint ⟨nested⟩, some (.constraint existing) => .constraint (mergeClauses nested existing)
  | node, _ => node

theorem joined_constraint (source target : Query) :
    joined (.constraint source) (some (.constraint target)) =
      .constraint (mergeClauses source.clauses target) := by
  cases source
  rfl

theorem joined_cases (node : Node) (held : Option Node) : joined node held = node ∨
    ∃ source target, node = .constraint source ∧ held = some (.constraint target) ∧
      joined node held = .constraint (mergeClauses source.clauses target) := by
  unfold joined
  split
  · next nested existing => exact .inr ⟨⟨nested⟩, existing, rfl, rfl, rfl⟩
  · exact .inl rfl

theorem mergeNode_eq_put (hn : node.Keyed key) :
    mergeNode key node target = target.put key (joined node (target.get? key)) := by
  cases node with
  | literal value => simp [mergeNode, joined, insert, keyFor]
  | group op children => simp [mergeNode, joined, insert, keyFor, (keyed_group.mp hn).1]
  | constraint query =>
    obtain ⟨nested⟩ := query
    unfold mergeNode joined
    split <;> simp_all

theorem get?_mergeClauses (hs : source.Keyed) (target : Query) (key : String) :
    (mergeClauses source.clauses target).get? key =
      (source.get? key).elim (target.get? key) fun node =>
        some (joined node (target.get? key)) := by
  obtain ⟨clauses⟩ := source
  induction clauses generalizing target with
  | nil => rfl
  | cons clause rest ih =>
    obtain ⟨first, node⟩ := clause
    obtain ⟨hn, hnew, hrest⟩ := keyed_cons.mp hs
    rw [mergeClauses, ih _ hrest, mergeNode_eq_put hn, get?_put]
    simp only [Query.get?, Members.get?_cons]
    by_cases he : key = first
    · subst he
      simp [Members.get?_eq_none_iff.mpr hnew]
    · simp [he]

theorem keyed_of_merge : (∀ q : Query, ∀ target, q.Keyed → target.Keyed →
      (mergeClauses q.clauses target).Keyed) ∧
    ∀ n : Node, ∀ key target, n.Keyed key → target.Keyed → (mergeNode key n target).Keyed := by
  refine induct (fun value key target hn ht => ?_) (fun q ih key target hn ht => ?_)
    (fun op children ih key target hn ht => ?_) fun clauses ih target hq ht => ?_
  · exact mergeNode_eq_put hn ▸ ht.put hn
  · rw [mergeNode_eq_put hn]
    refine ht.put ?_
    rcases joined_cases (.constraint q) (target.get? key) with
      hj | ⟨source, existing, hs, hheld, hj⟩
    · exact hj.symm ▸ hn
    · cases hs
      rw [hj]
      exact ⟨hn.1, ih existing hn.2 (ht.of_get? hheld).2⟩
  · exact mergeNode_eq_put hn ▸ ht.put hn
  · induction clauses generalizing target with
    | nil => exact ht
    | cons clause rest ihrest =>
      obtain ⟨hnode, hnodes⟩ := List.forall_mem_cons.mp ih
      obtain ⟨hn, -, hrest⟩ := keyed_cons.mp hq
      exact ihrest hnodes _ hrest (hnode _ _ hn ht)

end

-- ---------------------------------------------------------------------------
-- Places of a merged query
-- ---------------------------------------------------------------------------

section
variable {source target q : Query} {w : Writing} {c : Content} {place : Place} {step : Step}

theorem shows_root : (Node.constraint q).Shows .root := Node.shows_nil.mpr rfl

theorem shows_key {key : String} : (Node.constraint q).Shows ⟨.key key :: place, c⟩ ↔
    ∃ node, q.get? key = some node ∧ node.Shows ⟨place, c⟩ :=
  Node.shows_cons

theorem not_shows_child {index : Nat} : ¬(Node.constraint q).Shows ⟨.child index :: place, c⟩ := by
  simp [Node.shows_cons, Node.step?]

theorem shows_merge_of_source (hs : source.Keyed) (h : (Node.constraint source).Shows w) :
    (Node.constraint (mergeClauses source.clauses target)).Shows w := by
  obtain ⟨place, c⟩ := w
  induction place generalizing source target with
  | nil => exact Node.shows_nil.mpr (Node.shows_nil.mp h)
  | cons step place ih =>
    cases step with
    | child => exact absurd h not_shows_child
    | key key =>
      obtain ⟨node, hg, hnode⟩ := shows_key.mp h
      have hget := get?_mergeClauses hs target key
      rw [hg] at hget
      refine shows_key.mpr ⟨_, hget, ?_⟩
      rcases joined_cases node (target.get? key) with hj | ⟨inner, existing, rfl, hheld, hj⟩ <;>
        rw [hj]
      · exact hnode
      · exact ih (hs.of_get? hg).2 hnode

theorem shows_merge_cases (hs : source.Keyed)
    (h : (Node.constraint (mergeClauses source.clauses target)).Shows w) :
    (Node.constraint source).Shows w ∨ (Node.constraint target).Shows w := by
  obtain ⟨place, c⟩ := w
  induction place generalizing source target with
  | nil => exact .inl (Node.shows_nil.mpr (Node.shows_nil.mp h))
  | cons step place ih =>
    cases step with
    | child => exact absurd h not_shows_child
    | key key =>
      obtain ⟨node, hg, hnode⟩ := shows_key.mp h
      rw [get?_mergeClauses hs] at hg
      cases hown : source.get? key with
      | none => exact .inr (shows_key.mpr ⟨node, by simpa [hown] using hg, hnode⟩)
      | some own =>
        obtain rfl : joined own (target.get? key) = node := by simpa [hown] using hg
        rcases joined_cases own (target.get? key) with hj | ⟨inner, existing, rfl, hheld, hj⟩ <;>
          rw [hj] at hnode
        · exact .inl (shows_key.mpr ⟨own, hown, hnode⟩)
        · refine (ih (hs.of_get? hown).2 hnode).imp ?_ ?_
          · exact fun h => shows_key.mpr ⟨_, hown, h⟩
          · exact fun h => shows_key.mpr ⟨_, hheld, h⟩

theorem literal_or_constraints {key : String} {own held : Node} (ho : own.Keyed key)
    (hh : held.Keyed key) (h : held.Shows w) (hfree : ∀ y, own.Shows y → ¬y.Overrides w)
    (hgroups : own.Shows ⟨[], .group⟩ → ¬held.Shows ⟨[], .group⟩) :
    (∃ value, own = .literal value ∧ own.Shows w) ∨
      ∃ source target, own = .constraint source ∧ held = .constraint target := by
  cases own with
  | literal value =>
    have hlike : (⟨[], .operand value⟩ : Writing) = w := by
      by_contra hne
      exact hfree _ (Node.shows_nil.mpr rfl) ⟨hne, List.nil_prefix, .inr ⟨value, rfl⟩⟩
    exact .inl ⟨value, rfl, hlike ▸ Node.shows_nil.mpr rfl⟩
  | group op children =>
    obtain ⟨rfl, -⟩ := keyed_group.mp ho
    cases held with
    | literal | constraint => simp [Node.Keyed] at hh
    | group => exact absurd (Node.shows_nil.mpr rfl) (hgroups (Node.shows_nil.mpr rfl))
  | constraint source =>
    cases held with
    | constraint target => exact .inr ⟨source, target, rfl, rfl⟩
    | group other existing =>
      obtain ⟨rfl, -⟩ := keyed_group.mp hh
      simp [Node.Keyed] at ho
    | literal value =>
      have hleaf : (Node.literal value).Shows ⟨[], .operand value⟩ := Node.shows_nil.mpr rfl
      obtain rfl := hleaf.eq_of_below rfl h List.nil_prefix
      exact absurd ⟨by simp, List.nil_prefix, .inl rfl⟩ (hfree ⟨[], .map⟩ (Node.shows_nil.mpr rfl))

theorem shows_merge_of_target (hs : source.Keyed) (ht : target.Keyed)
    (h : (Node.constraint target).Shows w)
    (hover : ∀ y, (Node.constraint source).Shows y → y.place ≠ [] → ¬y.Overrides w)
    (hapart : ∀ place, (Node.constraint source).Shows ⟨place, .group⟩ →
      ¬(Node.constraint target).Shows ⟨place, .group⟩) :
    (Node.constraint (mergeClauses source.clauses target)).Shows w := by
  obtain ⟨place, c⟩ := w
  induction place generalizing source target with
  | nil => exact Node.shows_nil.mpr (Node.shows_nil.mp h)
  | cons step place ih =>
    cases step with
    | child => exact absurd h not_shows_child
    | key key =>
      obtain ⟨held, hheld, hshown⟩ := shows_key.mp h
      have hget := get?_mergeClauses hs target key
      cases hown : source.get? key with
      | none =>
        rw [hown] at hget
        exact shows_key.mpr ⟨held, hget.trans hheld, hshown⟩
      | some own =>
        rw [hown] at hget
        refine shows_key.mpr ⟨_, hget, ?_⟩
        rw [hheld]
        have hfree : ∀ y, own.Shows y → ¬y.Overrides ⟨place, c⟩ := by
          intro y hy hc
          exact hover (y.under (.key key)) (shows_key.mpr ⟨own, hown, hy⟩) (by simp [Writing.under])
            (Writing.overrides_under.mpr hc)
        have hgroups : own.Shows ⟨[], .group⟩ → ¬held.Shows ⟨[], .group⟩ := by
          intro hy hy'
          exact hapart [.key key] (shows_key.mpr ⟨own, hown, hy⟩) (shows_key.mpr ⟨held, hheld, hy'⟩)
        have hkeyed := hs.of_get? hown
        have hkeyed' := ht.of_get? hheld
        rcases literal_or_constraints hkeyed hkeyed' hshown hfree hgroups with
          ⟨value, rfl, hvalue⟩ | ⟨inner, existing, rfl, rfl⟩
        · exact hvalue
        · rw [joined_constraint]
          refine ih hkeyed.2 hkeyed'.2 (fun below hy hy' => ?_) hshown fun y hy _ => hfree y hy
          exact hapart (.key key :: below) (shows_key.mpr ⟨_, hown, hy⟩)
            (shows_key.mpr ⟨_, hheld, hy'⟩)

end

-- ---------------------------------------------------------------------------
-- Records of merged queries
-- ---------------------------------------------------------------------------

section
variable {source target : Query} {key : String} {node : Node} {earlier later : List Writing}

theorem Records.empty : Records empty [] := by
  refine ⟨fun w hw => ?_, fun w hw => ?_⟩
  · obtain rfl := List.mem_singleton.mp hw.mem
    exact shows_root
  · obtain ⟨place, c⟩ := w
    cases place with
    | nil => cases Node.shows_nil.mp hw; simp [Writing.root, Node.content]
    | cons step place =>
      cases step with
      | child => exact absurd hw not_shows_child
      | key key => obtain ⟨node, hg, -⟩ := shows_key.mp hw; cases hg

theorem get?_single (key other : String) (node : Node) :
    Query.get? ⟨[(key, node)]⟩ other = if other = key then some node else none :=
  Members.get?_cons ..

theorem shows_single {w : Writing} : (Node.constraint ⟨[(key, node)]⟩).Shows w ↔
    w = .root ∨ ∃ inner, w = inner.under (.key key) ∧ node.Shows inner := by
  obtain ⟨place, c⟩ := w
  cases place with
  | nil =>
    rw [Node.shows_nil]
    constructor
    · rintro rfl
      exact .inl rfl
    · rintro (h | ⟨inner, h, -⟩) <;> cases h
      rfl
  | cons step place =>
    cases step with
    | child => simp [not_shows_child, Writing.root, Writing.under]
    | key other =>
      rw [shows_key]
      constructor
      · rintro ⟨own, hg, hown⟩
        rw [get?_single] at hg
        obtain ⟨rfl, rfl⟩ : other = key ∧ node = own := by simpa using hg
        exact .inr ⟨_, rfl, hown⟩
      · rintro (h | ⟨⟨_, _⟩, h, hinner⟩)
        · cases h
        · cases h
          exact ⟨node, by rw [get?_single, if_pos rfl], hinner⟩

theorem Records.single (h : node.Records earlier) :
    Records ⟨[(key, node)]⟩ (earlier.map (Writing.under (.key key))) := by
  refine ⟨fun w hw => shows_single.mpr ?_, fun w hw => ?_⟩
  · refine hw.of_cons.imp_right fun hw => ?_
    obtain ⟨inner, rfl, hinner⟩ := hw.of_map_under
    exact ⟨inner, rfl, h.shown inner hinner⟩
  · rcases shows_single.mp hw with rfl | ⟨inner, rfl, hinner⟩
    · exact List.mem_cons_self
    · exact List.mem_cons_of_mem _ (List.mem_map_of_mem (h.written inner hinner))

/-- Merging appends what was written, where no group meets a group. -/
theorem Records.merge (hs : source.Keyed) (ht : target.Keyed) (hsource : source.Records later)
    (htarget : target.Records earlier)
    (hapart : ∀ place, (Node.constraint source).Shows ⟨place, .group⟩ →
      ¬(Node.constraint target).Shows ⟨place, .group⟩) :
    (mergeClauses source.clauses target).Records (earlier ++ later) := by
  refine ⟨fun w hw => ?_, fun w hw => ?_⟩
  · rcases hw.of_cons with rfl | hw
    · exact shows_root
    rcases Writing.stands_append.mp hw with hw | ⟨hw, hkept⟩
    · exact shows_merge_of_source hs (hsource.shown w hw.cons)
    · refine shows_merge_of_target hs ht (htarget.shown w hw.cons) (fun y hy hne => ?_) hapart
      rcases List.mem_cons.mp (hsource.written y hy) with rfl | hm
      · exact absurd rfl hne
      · exact hkept y hm
  · rcases shows_merge_cases hs hw with hw | hw
    · exact (List.mem_cons.mp (hsource.written w hw)).elim (fun h => h ▸ by simp)
        fun hm => by simp [hm]
    · exact (List.mem_cons.mp (htarget.written w hw)).elim (fun h => h ▸ by simp)
        fun hm => by simp [hm]

end

end Query

end QueryGuard
