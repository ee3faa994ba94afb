import QueryGuard.Proofs.Joining
import QueryGuard.Proofs.RoundTrip
import QueryGuard.Query.Fold

/-!
# What folding fragments keeps

Folding a fragment changes what stands under its keys and nothing else: a group
is joined to one that is there, and any other node takes the place of what is
there. So the objects among the operands of the folded query are those of the
clauses that last (`objectless_iff_lasts`).
-/

namespace QueryGuard.Query

-- ---------------------------------------------------------------------------
-- Uniting groups
-- ---------------------------------------------------------------------------

section
variable {existing incoming : List Query} {child : Query}

theorem mem_unite (h : child ∈ unite existing incoming) : child ∈ existing ∨ child ∈ incoming := by
  induction incoming generalizing existing with
  | nil => exact .inl h
  | cons first rest ih =>
    rw [unite] at h
    rcases ih h with h | h
    · split at h
      · exact .inl h
      · rcases List.mem_append.mp h with h | h
        · exact .inl h
        · exact .inr (by simp [List.mem_singleton.mp h])
    · exact .inr (List.mem_cons_of_mem _ h)

theorem subset_unite : existing ⊆ unite existing incoming := by
  induction incoming generalizing existing with
  | nil => exact List.Subset.refl _
  | cons first rest ih =>
    rw [unite]
    refine List.Subset.trans ?_ ih
    split
    · exact List.Subset.refl _
    · exact List.subset_append_left ..

theorem exists_of_mem_incoming (existing : List Query) (h : child ∈ incoming) :
    ∃ own ∈ unite existing incoming, child = own ∨ child.same own = true := by
  induction incoming generalizing existing with
  | nil => cases h
  | cons first rest ih =>
    rw [unite]
    rcases List.mem_cons.mp h with rfl | h
    · split
      next hin =>
        obtain ⟨own, ho, hs⟩ := List.any_eq_true.mp hin
        exact ⟨own, subset_unite ho, .inr hs⟩
      · exact ⟨child, subset_unite (by simp), .inl rfl⟩
    · exact ih _ h

theorem objectless_unite (he : ∀ own ∈ existing, own.Keyed) (hi : ∀ own ∈ incoming, own.Keyed) :
    (∀ own ∈ unite existing incoming, own.Objectless) ↔
      (∀ own ∈ existing, own.Objectless) ∧ ∀ own ∈ incoming, own.Objectless := by
  constructor
  · intro h
    refine ⟨fun own ho => h own (subset_unite ho), fun child hc => ?_⟩
    obtain ⟨own, ho, rfl | hs⟩ := exists_of_mem_incoming existing hc
    · exact h child ho
    · have hk : own.Keyed := (mem_unite ho).elim (he own) (hi own)
      exact (objectless_of_same (hi child hc) hk hs).mpr (h own ho)
  · rintro ⟨hexisting, hincoming⟩ own ho
    exact (mem_unite ho).elim (hexisting own) (hincoming own)

end

-- ---------------------------------------------------------------------------
-- Folding clauses
-- ---------------------------------------------------------------------------

/-- What a key holds after a node has been folded in under it. -/
def folded : Node → Option Node → Node
  | .group op incoming, some (.group _ existing) => .group op (unite existing incoming)
  | node, _ => node

section
variable {target fragment : Query} {key : String} {node : Node} {held : Option Node}
  {clauses : List (String × Node)} {q : Query}

theorem exists_group_of_keyed {op : Logical} (h : node.Keyed op.key) :
    ∃ children, node = .group op children := by
  cases node with
  | group own children =>
    obtain rfl := Logical.key_injective (keyed_group.mp h).1
    exact ⟨children, rfl⟩
  | _ => simp [Node.Keyed] at h

theorem foldClause_eq_put (ht : target.Keyed) (hn : node.Keyed key) :
    target.foldClause key node = target.put key (folded node (target.get? key)) := by
  cases node with
  | group op incoming =>
    obtain ⟨rfl, -⟩ := keyed_group.mp hn
    cases hg : target.group? op with
    | some existing =>
      have hget := (group?_eq_some_iff ht).mp hg
      simp only [foldClause, hg, withGroup_eq ht hg, hget, folded]
    | none =>
      have hget := (group?_eq_none_iff ht).mp hg
      simp only [foldClause, hg, insertGroup, hget, folded]
  | _ => rfl

theorem folded_keyed (hn : node.Keyed key) (hh : ∀ own ∈ held, own.Keyed key) :
    (folded node held).Keyed key := by
  unfold folded
  split
  · obtain ⟨hkey, hincoming⟩ := keyed_group.mp hn
    have hexisting := (keyed_group.mp (hh _ rfl)).2
    refine keyed_group.mpr ⟨hkey, fun child hc => ?_⟩
    exact (mem_unite hc).elim (hexisting child) (hincoming child)
  · exact hn

theorem folded_objectless (hn : node.Keyed key) (hh : ∀ own ∈ held, own.Keyed key) :
    (folded node held).Objectless ↔
      node.Objectless ∧ (node.isGroup = true → ∀ own ∈ held, own.Objectless) := by
  cases node with
  | group op incoming =>
    obtain ⟨rfl, hincoming⟩ := keyed_group.mp hn
    cases held with
    | none => simp [folded]
    | some own =>
      obtain ⟨existing, rfl⟩ := exists_group_of_keyed (hh own rfl)
      have hexisting := (keyed_group.mp (hh _ rfl)).2
      simp [folded, objectless_group, objectless_unite hexisting hincoming, Node.isGroup, and_comm]
  | _ => simp [folded, Node.isGroup]

-- ---------------------------------------------------------------------------
-- Folding fragments
-- ---------------------------------------------------------------------------

theorem Keyed.pruned (hk : q.Keyed) : q.pruned.Keyed := by
  obtain ⟨hd, hkeys⟩ := keyed_iff.mp hk
  refine keyed_iff.mpr ⟨?_, fun clause hc => hkeys clause (List.mem_filter.mp hc).1⟩
  exact List.Nodup.sublist (List.filter_sublist.map Prod.fst) hd

theorem Objectless.pruned (ho : q.Objectless) : q.pruned.Objectless :=
  objectless_iff.mpr fun clause hc => objectless_iff.mp ho clause (List.mem_filter.mp hc).1

/-- The key holds an object among its operands. -/
def Bears (q : Query) (key : String) : Prop := ∃ node, q.get? key = some node ∧ ¬node.Objectless

/-- What the fragment has under the key, if anything, is joined to what is there. -/
def Joins (fragment : Query) (key : String) : Prop :=
  ∀ node, fragment.get? key = some node → node.isGroup = true

theorem objectless_iff_bears (hk : q.Keyed) : q.Objectless ↔ ∀ key, ¬q.Bears key := by
  rw [objectless_iff]
  constructor
  · rintro h key ⟨node, hn, hbears⟩
    exact hbears (h _ (mem_of_get? hn))
  · intro h clause hc
    by_contra hbears
    exact h clause.1 ⟨clause.2, get?_of_mem hk hc, hbears⟩

theorem foldAll_get? (hf : fragment.Keyed) (ht : target.Keyed) :
    (target.foldAll fragment).Keyed ∧ ∀ key, (target.foldAll fragment).get? key =
      match fragment.get? key with
      | some node => some (folded node (target.get? key))
      | none => target.get? key := by
  obtain ⟨clauses⟩ := fragment
  induction clauses generalizing target with
  | nil => exact ⟨ht, fun key => rfl⟩
  | cons clause rest ih =>
    obtain ⟨name, node⟩ := clause
    obtain ⟨hn, hnew, hrest⟩ := keyed_cons.mp hf
    have hstep : (target.foldClause name node).Keyed := by
      rw [foldClause_eq_put ht hn]
      exact ht.put (folded_keyed hn fun own ho => ht.of_get? ho)
    obtain ⟨hkeyed, hget⟩ := ih hstep hrest
    refine ⟨hkeyed, fun key => (hget key).trans ?_⟩
    have hcons : (⟨(name, node) :: rest⟩ : Query).get? key =
        if key = name then some node else (⟨rest⟩ : Query).get? key := Members.get?_cons ..
    have hnone : (⟨rest⟩ : Query).get? name = none := Members.get?_eq_none_iff.mpr hnew
    rw [hcons, foldClause_eq_put ht hn, get?_put]
    by_cases he : key = name
    · subst he
      simp [hnone]
    · simp [he]

theorem foldAll_bears (hf : fragment.Keyed) (ht : target.Keyed) :
    (target.foldAll fragment).Bears key ↔
      fragment.Bears key ∨ target.Bears key ∧ fragment.Joins key := by
  unfold Bears Joins
  rw [(foldAll_get? hf ht).2 key]
  cases hfragment : fragment.get? key with
  | none => simp
  | some node =>
    have hfolded := folded_objectless (hf.of_get? hfragment)
      fun own (ho : own ∈ target.get? key) => ht.of_get? ho
    simp only [Option.some.injEq, exists_eq_left', forall_eq', hfolded, Option.mem_def, not_and,
      Classical.not_imp, not_forall]
    tauto

/-- A clause of one of the fragments that none of those after it replaces. -/
def Lasts (fragments : List Query) (key : String) (node : Node) : Prop :=
  ∃ before fragment after, fragments = before ++ fragment :: after ∧
    fragment.get? key = some node ∧ ∀ later ∈ after, later.Joins key

theorem lasts_cons {fragments : List Query} : Lasts (fragment :: fragments) key node ↔
    Lasts fragments key node ∨
      fragment.get? key = some node ∧ ∀ later ∈ fragments, later.Joins key := by
  constructor
  · rintro ⟨_ | ⟨first, before⟩, own, after, he, hget, hjoins⟩
    · obtain ⟨rfl, rfl⟩ := List.cons.inj he
      exact .inr ⟨hget, hjoins⟩
    · obtain ⟨rfl, rfl⟩ := List.cons.inj he
      exact .inl ⟨before, own, after, rfl, hget, hjoins⟩
  · rintro (⟨before, own, after, rfl, hget, hjoins⟩ | ⟨hget, hjoins⟩)
    · exact ⟨fragment :: before, own, after, rfl, hget, hjoins⟩
    · exact ⟨[], fragment, fragments, rfl, hget, hjoins⟩

theorem folding_bears {fragments : List Query} (hf : ∀ f ∈ fragments, f.Keyed)
    (ht : target.Keyed) : (fragments.foldl foldAll target).Keyed ∧ ∀ key,
      ((fragments.foldl foldAll target).Bears key ↔
        (∃ node, Lasts fragments key node ∧ ¬node.Objectless) ∨
          target.Bears key ∧ ∀ f ∈ fragments, f.Joins key) := by
  induction fragments generalizing target with
  | nil => simp [ht, Lasts]
  | cons first rest ih =>
    obtain ⟨hfirst, hrest⟩ := List.forall_mem_cons.mp hf
    obtain ⟨hkeyed, hbears⟩ := ih hrest (foldAll_get? hfirst ht).1
    refine ⟨hkeyed, fun key => ?_⟩
    have hlasts : (∃ node, Lasts (first :: rest) key node ∧ ¬node.Objectless) ↔
        (∃ node, Lasts rest key node ∧ ¬node.Objectless) ∨
          first.Bears key ∧ ∀ f ∈ rest, f.Joins key := by
      simp only [lasts_cons, or_and_right, exists_or, Bears, and_right_comm, exists_and_right]
    rw [List.foldl_cons, hbears, hlasts, foldAll_bears hfirst ht, List.forall_mem_cons,
      or_and_right, or_assoc, and_assoc]

theorem objectless_iff_lasts {fragments : List Query} (hf : ∀ f ∈ fragments, f.Keyed) :
    (fragments.foldl foldAll empty).Objectless ↔
      ∀ key node, Lasts fragments key node → node.Objectless := by
  obtain ⟨hkeyed, hbears⟩ := folding_bears hf keyed_empty
  have hempty : ∀ key, ¬empty.Bears key := (objectless_iff_bears keyed_empty).mp objectless_empty
  simp only [objectless_iff_bears hkeyed, hbears, hempty, false_and, or_false, not_exists, not_and,
    not_not]

end

end QueryGuard.Query
