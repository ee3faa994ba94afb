import QueryGuard.Proofs.Joining

/-!
# What lowering keeps

Lowering writes the operands of a policy query place by place. `Query.writings`
lists what is to be written, an operator over a map of fields being applied to
each operand of the map, and the native query records the list.
-/

namespace QueryGuard

open Query

-- ---------------------------------------------------------------------------
-- What is to be written
-- ---------------------------------------------------------------------------

/-- An operator over a map of fields compares each operand of the map. -/
def Writing.compared (operator : String) (w : Writing) : List Writing :=
  match w.content with
  | .operand value => [⟨w.place, .map⟩, ⟨w.place ++ [.key operator], .operand value⟩]
  | _ => [w]

mutual
/-- What a clause of a policy query writes, in the order in which it is read.
Operators are in native spelling. -/
def Node.writings (key : String) : Node → List Writing
  | .literal value => [⟨[.key (Key.native key)], .operand value⟩]
  | .constraint ⟨clauses⟩ =>
    if Key.isOperator key then
      (Query.writingsOf clauses).flatMap (Writing.compared (Key.native key))
    else (Writing.root :: Query.writingsOf clauses).map (Writing.under (.key key))
  | .group op children =>
    (⟨[], .group⟩ :: Query.writingsAll 0 children).map (Writing.under (.key op.key))
def Query.writingsOf : List (String × Node) → List Writing
  | [] => []
  | (key, node) :: rest => node.writings key ++ Query.writingsOf rest
def Query.writingsAll (index : Nat) : List Query → List Writing
  | [] => []
  | ⟨clauses⟩ :: rest =>
    (Writing.root :: Query.writingsOf clauses).map (Writing.under (.child index)) ++
      Query.writingsAll (index + 1) rest
end

def Query.writings (q : Query) : List Writing := writingsOf q.clauses

namespace Query

-- ---------------------------------------------------------------------------
-- Keys
-- ---------------------------------------------------------------------------

theorem native_of_plain {key : String} (h : Key.isOperator key = false) : Key.native key = key := by
  unfold Key.native
  split
  · next hl => simp [Key.isOperator, hl] at h
  · rfl

theorem key_of_ofName? {name : String} {op : Comparison} (h : Comparison.ofName? name = some op) :
    op.key = "$" ++ name := by
  have hname := List.find?_some h
  simp only [beq_iff_eq] at hname
  rw [Comparison.key, hname]

theorem key_of_comparisonOf {key : String} {op : Comparison} (h : comparisonOf key = .ok op) :
    op.key = Key.native key := by
  unfold comparisonOf at h
  split at h
  · next found hfound =>
    cases h
    obtain ⟨name, hname, hop⟩ := Option.bind_eq_some_iff.mp hfound
    rw [key_of_ofName? hop]
    unfold Key.operatorName? at hname
    unfold Key.native
    split at hname
    · next rest hkey =>
      cases hname
      simp only [hkey]
      exact String.toList_injective (by simp)
    · next rest hkey =>
      cases hname
      simp only [hkey]
      exact String.toList_injective (by simp [hkey])
    · cases hname
  · cases h

theorem ofKey?_comparison (op : Comparison) : Logical.ofKey? op.key = none := by
  cases op <;> decide

-- ---------------------------------------------------------------------------
-- Operators over maps
-- ---------------------------------------------------------------------------

section
variable {source target : Query} {key : String} {node : Node} {earlier later : List Writing}

/-- A record without groups. -/
structure Distributed (q : Query) (writings : List Writing) : Prop where
  keyed : q.Keyed
  records : q.Records writings
  groupless : ∀ place, ¬(Node.constraint q).Shows ⟨place, .group⟩

theorem Distributed.merge (hs : source.Distributed later) (ht : target.Distributed earlier) :
    (mergeClauses source.clauses target).Distributed (earlier ++ later) where
  keyed := keyed_of_merge.1 source target hs.keyed ht.keyed
  records := hs.records.merge hs.keyed ht.keyed ht.records fun place h _ => hs.groupless place h
  groupless place h := (shows_merge_cases hs.keyed h).elim (hs.groupless place) (ht.groupless place)

theorem Distributed.single (hn : node.Keyed key) (hr : node.Records earlier)
    (hg : ∀ place, ¬node.Shows ⟨place, .group⟩) :
    Distributed ⟨[(key, node)]⟩ (earlier.map (Writing.under (.key key))) where
  keyed := keyed_cons.mpr ⟨hn, by simp [Members.names], keyed_empty⟩
  records := Records.single hr
  groupless place h := by
    rcases shows_single.mp h with h | ⟨inner, h, hinner⟩
    · cases h
    · obtain ⟨place, c⟩ := inner
      cases h
      exact hg place hinner

theorem Distributed.field (h : source.Distributed earlier) (hk : Logical.ofKey? key = none) :
    Distributed ⟨[(key, .constraint source)]⟩
      ((Writing.root :: earlier).map (Writing.under (.key key))) :=
  Distributed.single ⟨hk, h.keyed⟩ h.records h.groupless

theorem Distributed.empty : Distributed empty [] where
  keyed := keyed_empty
  records := Records.empty
  groupless place h := by
    rcases List.mem_singleton.mp (Records.empty.written _ h) with h
    cases h

theorem records_literal (value : Json) : (Node.literal value).Records [⟨[], .operand value⟩] := by
  refine ⟨fun w hw => ?_, fun w hw => ?_⟩
  · obtain rfl := List.mem_singleton.mp hw.mem
    exact Node.shows_nil.mpr rfl
  · have := Node.Shows.eq_of_below (Node.shows_nil.mpr rfl : (Node.literal value).Shows ⟨[], _⟩) rfl
      hw List.nil_prefix
    simp [this, Node.content]

theorem groupless_literal {value : Json} (place : Place) :
    ¬(Node.literal value).Shows ⟨place, .group⟩ := by
  intro h
  have := List.mem_singleton.mp ((records_literal value).written _ h)
  cases this

theorem compared_under (operator : String) (step : Step) (writings : List Writing) :
    (writings.map (Writing.under step)).flatMap (Writing.compared operator) =
      (writings.flatMap (Writing.compared operator)).map (Writing.under step) := by
  induction writings with
  | nil => rfl
  | cons w rest ih =>
    have hw : (w.under step).compared operator =
        (w.compared operator).map (Writing.under step) := by
      obtain ⟨place, c⟩ := w
      cases c <;> rfl
    simp only [List.map_cons, List.flatMap_cons, List.map_append, hw, ih]

theorem distribute_records (op : Comparison) (written : String) :
    (∀ q : Query, q.Keyed → ∀ target result earlier,
      distribute op written q.clauses target = .ok result → target.Distributed earlier →
      result.Distributed (earlier ++ q.writings.flatMap (Writing.compared op.key))) ∧
    ∀ n : Node, ∀ field nested, n.Keyed field → Key.isOperator field = false →
      distributeNode op written n = .ok nested →
      Distributed ⟨[(field, .constraint nested)]⟩
        ((n.writings field).flatMap (Writing.compared op.key)) := by
  refine induct (fun value field nested hn hf h => ?_) (fun q ih field nested hn hf h => ?_)
    (fun op children ih field nested hn hf h => ?_)
    fun clauses ih hq target result earlier h ht => ?_
  · simp only [distributeNode, Except.ok.injEq] at h
    subst h
    have hkeyed : (Node.literal value).Keyed op.key := ofKey?_comparison op
    have hinner := Distributed.single hkeyed (records_literal value) groupless_literal
    simpa [Node.writings, native_of_plain hf, Writing.compared, Writing.under, Writing.root]
      using hinner.field hn
  · obtain ⟨fields⟩ := q
    have hinner := ih hn.2 empty nested [] h Distributed.empty
    simpa [Node.writings, hf, compared_under, Query.writings, Writing.compared, Writing.under,
      Writing.root] using hinner.field hn.1
  · simp [distributeNode] at h
  · induction clauses generalizing target earlier with
    | nil =>
      simp only [distribute, Except.ok.injEq] at h
      subst h
      simpa [Query.writings, writingsOf] using ht
    | cons clause rest ihrest =>
      obtain ⟨field, node⟩ := clause
      obtain ⟨hnode, hnodes⟩ := List.forall_mem_cons.mp ih
      obtain ⟨hn, -, hrest⟩ := keyed_cons.mp hq
      simp only [distribute] at h
      split at h
      · cases h
      · next hf =>
        obtain ⟨nested, hnested, h⟩ := bind_ok.mp h
        have hsource := hnode field nested hn (by simpa using hf) hnested
        have hstep := ihrest hnodes hrest _ _ h (hsource.merge ht)
        simpa [Query.writings, writingsOf] using hstep

end

-- ---------------------------------------------------------------------------
-- Groups
-- ---------------------------------------------------------------------------

theorem writingsAll_iff {children lowered : List Query} (index : Nat)
    (h : List.Forall₂ (fun child q => q.Records child.writings) children lowered) :
    (∀ w, Writing.Stands (writingsAll index children) w → ∃ i q inner, lowered[i]? = some q ∧
        w = inner.under (.child (index + i)) ∧ (Node.constraint q).Shows inner) ∧
      ∀ i q inner, lowered[i]? = some q → (Node.constraint q).Shows inner →
        inner.under (.child (index + i)) ∈ writingsAll index children := by
  induction h generalizing index with
  | nil =>
    refine ⟨fun w hw => ?_, fun i q inner hq => by simp at hq⟩
    have hm := hw.mem
    simp [writingsAll] at hm
  | @cons child q children lowered hfirst hrest ih =>
    obtain ⟨clauses⟩ := child
    obtain ⟨hstands, hwritten⟩ := ih (index + 1)
    rw [writingsAll]
    refine ⟨fun w hw => ?_, fun i p inner hp hinner => ?_⟩
    · rcases Writing.stands_append.mp hw with hw | ⟨hw, -⟩
      · obtain ⟨i, p, inner, hp, rfl, hinner⟩ := hstands w hw
        exact ⟨i + 1, p, inner, hp, by rw [Nat.add_assoc, Nat.add_comm 1 i], hinner⟩
      · obtain ⟨inner, rfl, hinner⟩ := hw.of_map_under
        exact ⟨0, q, inner, rfl, rfl, hfirst.shown inner hinner⟩
    · cases i with
      | zero =>
        cases hp
        exact List.mem_append_left _ (List.mem_map_of_mem (hfirst.written inner hinner))
      | succ i =>
        have hm := hwritten i p inner hp hinner
        rw [Nat.add_assoc, Nat.add_comm 1 i] at hm
        exact List.mem_append_right _ hm

theorem records_group {op : Logical} {children lowered : List Query}
    (h : List.Forall₂ (fun child q => q.Records child.writings) children lowered) :
    (Node.group op lowered).Records (⟨[], .group⟩ :: writingsAll 0 children) := by
  obtain ⟨hstands, hwritten⟩ := writingsAll_iff 0 h
  refine ⟨fun w hw => ?_, fun w hw => ?_⟩
  · rcases hw.of_cons with rfl | hw
    · exact Node.shows_nil.mpr rfl
    · obtain ⟨i, q, inner, hq, rfl, hinner⟩ := hstands w hw
      exact Node.shows_cons.mpr ⟨.constraint q, by simp [Node.step?, hq], hinner⟩
  · obtain ⟨place, c⟩ := w
    cases place with
    | nil => cases Node.shows_nil.mp hw; exact List.mem_cons_self
    | cons step place =>
      obtain ⟨inner, hs, hinner⟩ := Node.shows_cons.mp hw
      cases step with
      | key => simp [Node.step?] at hs
      | child i =>
        obtain ⟨q, hq, rfl⟩ : ∃ q, lowered[i]? = some q ∧ .constraint q = inner := by
          simpa [Node.step?] using hs
        have hm := hwritten i q ⟨place, c⟩ hq hinner
        rw [Nat.zero_add] at hm
        exact List.mem_cons_of_mem _ hm

-- ---------------------------------------------------------------------------
-- Lowering
-- ---------------------------------------------------------------------------

section
variable {source target : Query} {key : String} {node : Node} {earlier later : List Writing}

/-- What a step of lowering brings: a keyed record whose groups stand under the
key of the clause. -/
structure Contribution (q : Query) (key : String) (writings : List Writing) : Prop where
  keyed : q.Keyed
  records : q.Records writings
  groups : ∀ other place, (Node.constraint q).Shows ⟨.key other :: place, .group⟩ → other = key

theorem Distributed.contribution (h : source.Distributed later) (key : String) :
    source.Contribution key later :=
  ⟨h.keyed, h.records, fun _ _ hg => absurd hg (h.groupless _)⟩

theorem Contribution.single (hn : node.Keyed key) (h : node.Records later) :
    Contribution ⟨[(key, node)]⟩ key (later.map (Writing.under (.key key))) where
  keyed := keyed_cons.mpr ⟨hn, by simp [Members.names], keyed_empty⟩
  records := Records.single h
  groups other place hg := by
    rcases shows_single.mp hg with hg | ⟨⟨_, _⟩, hg, -⟩ <;> cases hg
    rfl

theorem Contribution.merge (h : source.Contribution key later) (ht : target.Keyed)
    (hr : target.Records earlier)
    (hfresh : ∀ place, ¬(Node.constraint target).Shows ⟨.key key :: place, .group⟩) :
    (mergeClauses source.clauses target).Keyed ∧
      (mergeClauses source.clauses target).Records (earlier ++ later) ∧
      ∀ other place,
        (Node.constraint (mergeClauses source.clauses target)).Shows ⟨.key other :: place, .group⟩ →
          other = key ∨ (Node.constraint target).Shows ⟨.key other :: place, .group⟩ := by
  refine ⟨keyed_of_merge.1 source target h.keyed ht, h.records.merge h.keyed ht hr ?_, ?_⟩
  · intro place hg
    cases place with
    | nil => cases Node.shows_nil.mp hg
    | cons step place =>
      cases step with
      | child => exact absurd hg not_shows_child
      | key other => exact h.groups other place hg ▸ hfresh place
  · exact fun other place hg => (shows_merge_cases h.keyed hg).imp_left (h.groups other place)

/-- Lowering the node under a key merges one contribution into the result. -/
def Contributes (node : Node) : Prop :=
  ∀ key, node.Keyed key → ∀ inField target result, lowerNode inField key node target = .ok result →
    ∃ source, Contribution source key (node.writings key) ∧
      result = mergeClauses source.clauses target

theorem lowerClauses_records {clauses : List (String × Node)} {inField : Bool} {result : Query}
    (hnodes : ∀ clause ∈ clauses, Contributes clause.2) (hq : (⟨clauses⟩ : Query).Keyed)
    (ht : target.Keyed) (hr : target.Records earlier)
    (hfresh : ∀ key ∈ Members.names clauses, ∀ place,
      ¬(Node.constraint target).Shows ⟨.key key :: place, .group⟩)
    (h : lowerClauses inField clauses target = .ok result) :
    result.Keyed ∧ result.Records (earlier ++ writingsOf clauses) := by
  induction clauses generalizing target earlier with
  | nil =>
    simp only [lowerClauses, Except.ok.injEq] at h
    subst h
    exact ⟨ht, by simpa [writingsOf] using hr⟩
  | cons clause rest ih =>
    obtain ⟨key, node⟩ := clause
    obtain ⟨hn, hnew, hrest⟩ := keyed_cons.mp hq
    simp only [lowerClauses] at h
    obtain ⟨step, hstep, h⟩ := bind_ok.mp h
    obtain ⟨source, hsource, rfl⟩ := hnodes (key, node) (by simp) key hn inField target step hstep
    obtain ⟨hk, hrecords, hgroups⟩ := hsource.merge ht hr (hfresh key (by simp [Members.names]))
    rw [writingsOf, ← List.append_assoc]
    refine ih (fun clause hc => hnodes clause (List.mem_cons_of_mem _ hc)) hrest hk hrecords ?_ h
    intro other ho place hg
    rcases hgroups other place hg with rfl | hg
    · exact hnew ho
    · exact hfresh other (List.mem_cons_of_mem _ ho) place hg

theorem contribution_literal {inField : Bool} {value : Json} {result : Query}
    (hk : Logical.ofKey? key = none) (h : lowerLiteral inField key value target = .ok result) :
    ∃ source, Contribution source key ((Node.literal value).writings key) ∧
      result = mergeClauses source.clauses target := by
  have hput : (Node.literal value).Keyed (Key.native key) ∧
      result = target.put (Key.native key) (.literal value) := by
    unfold lowerLiteral at h
    split at h
    · obtain ⟨op, hop, h⟩ := bind_ok.mp h
      rw [← key_of_comparisonOf hop]
      split at h
      · exact ⟨ofKey?_comparison op, (pure_ok.mp h).symm⟩
      · cases h
    · next hplain =>
      rw [native_of_plain (by simpa using hplain)]
      split at h
      · cases h
      · cases h
        exact ⟨hk, rfl⟩
  have hsource := Distributed.single hput.1 (records_literal value) groupless_literal
  exact ⟨_, hsource.contribution key, by simp [hput.2, mergeClauses, mergeNode, insert, keyFor]⟩

theorem lowerAll_records {children lowered : List Query} (hk : ∀ child ∈ children, child.Keyed)
    (hchildren : ∀ child ∈ children, child.Keyed → ∀ inField result,
      lowerClauses inField child.clauses empty = .ok result →
        result.Keyed ∧ result.Records child.writings)
    (h : lowerAll children = .ok lowered) :
    (∀ q ∈ lowered, q.Keyed) ∧
      List.Forall₂ (fun child q => q.Records child.writings) children lowered := by
  induction children generalizing lowered with
  | nil =>
    simp only [lowerAll, Except.ok.injEq] at h
    subst h
    exact ⟨by simp, .nil⟩
  | cons child rest ih =>
    obtain ⟨hchild, hrest⟩ := List.forall_mem_cons.mp hchildren
    obtain ⟨hkeyed, hkeyeds⟩ := List.forall_mem_cons.mp hk
    obtain ⟨clauses⟩ := child
    simp only [lowerAll, bind_ok, pure_ok] at h
    obtain ⟨first, hfirst, others, hothers, rfl⟩ := h
    obtain ⟨hfirst, hrecords⟩ := hchild hkeyed false first hfirst
    obtain ⟨hothers, hall⟩ := ih hkeyeds hrest hothers
    exact ⟨List.forall_mem_cons.mpr ⟨hfirst, hothers⟩, .cons hrecords hall⟩

/-- Lowering a keyed query gives a record of what is to be written. -/
theorem lowering_records :
    (∀ q : Query, q.Keyed → ∀ inField result, lowerClauses inField q.clauses empty = .ok result →
      result.Keyed ∧ result.Records q.writings) ∧
    ∀ n : Node, Contributes n := by
  refine induct (fun value key hn inField target result h => ?_)
    (fun q ih key hn inField target result h => ?_)
    (fun op children ih key hn inField target result h => ?_)
    fun clauses ih hq inField result h => ?_
  · exact contribution_literal hn h
  · obtain ⟨inner⟩ := q
    simp only [lowerNode] at h
    split at h
    · next hoperator =>
      simp only [bind_ok, pure_ok] at h
      obtain ⟨op, hop, distributed, hd, rfl⟩ := h
      have hsource := (distribute_records op key).1 ⟨inner⟩ hn.2 empty distributed [] hd
        Distributed.empty
      refine ⟨distributed, ?_, rfl⟩
      simpa [Node.writings, hoperator, key_of_comparisonOf hop, Query.writings] using
        hsource.contribution key
    · next hplain =>
      simp only [bind_ok, pure_ok] at h
      obtain ⟨nested, hnested, rfl⟩ := h
      obtain ⟨hk, hrecords⟩ := ih hn.2 true nested hnested
      refine ⟨⟨[(key, .constraint nested)]⟩, ?_, by simp [mergeClauses]⟩
      simpa [Node.writings, hplain, Query.writings] using
        Contribution.single (show (Node.constraint nested).Keyed key from ⟨hn.1, hk⟩) hrecords
  · obtain ⟨rfl, hk⟩ := keyed_group.mp hn
    simp only [lowerNode, bind_ok, pure_ok] at h
    obtain ⟨lowered, hlowered, rfl⟩ := h
    obtain ⟨hk, hrecords⟩ := lowerAll_records hk ih hlowered
    refine ⟨⟨[(op.key, .group op lowered)]⟩, ?_, ?_⟩
    · exact Contribution.single (keyed_group.mpr ⟨rfl, hk⟩) (records_group hrecords)
    · simp [mergeClauses, mergeNode, insert, keyFor, insertGroup]
  · have hfresh : ∀ key ∈ Members.names clauses, ∀ place,
        ¬(Node.constraint empty).Shows ⟨.key key :: place, .group⟩ :=
      fun _ _ _ => Distributed.empty.groupless _
    simpa [Query.writings] using lowerClauses_records ih hq keyed_empty Records.empty hfresh h

end

end Query

-- ---------------------------------------------------------------------------
-- Fragments
-- ---------------------------------------------------------------------------

namespace Json

variable {fragment : Json} {lowered : Query}

theorem lower?_eq_none_iff : fragment.lower? = .ok none ↔ fragment = .null := by
  cases fragment with
  | null => simp [lower?, isNull]
  | object members =>
    cases hread : Query.ofJson (.object members) with
    | error e => simp [lower?, isNull, hread]
    | ok q => cases hlower : q.lower <;> simp [lower?, isNull, hread, hlower]
  | _ => simp [lower?, isNull, Query.ofJson]

theorem lower?_eq_some_iff : fragment.lower? = .ok (some lowered) ↔
    ∃ q, Query.ofJson fragment = .ok q ∧ q.lower = .ok lowered := by
  cases fragment with
  | object members =>
    cases hread : Query.ofJson (.object members) with
    | error e => simp [lower?, isNull, hread]
    | ok q => cases hlower : q.lower <;> simp [lower?, isNull, hread, hlower]
  | _ => simp [lower?, isNull, Query.ofJson]

end Json

end QueryGuard
