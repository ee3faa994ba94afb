import QueryGuard.Proofs.Conflicts
import QueryGuard.Proofs.Folding

/-!
# What a run of fragments leaves

Fragments are folded one after the other. Keys stand in the order in which
something was first said under them, a plain key holds what the last fragment
says, and a group has the children of the fragments' groups, each where it first
appeared (`folds_leave`). A group that is there takes no child in twice, but one
that is stored whole keeps the repetitions that it came with
(`fold_unrepeated_iff`).
-/

namespace QueryGuard

theorem eraseDupsBy_eq_foldl {α : Type} (like : α → α → Bool) (items : List α) :
    items.eraseDupsBy like =
      items.foldl (fun seen item => if seen.any (like item) then seen else seen ++ [item]) [] := by
  -- The library's loop collects what it keeps in reverse.
  have hloop : ∀ seen : List α, List.eraseDupsBy.loop like items seen =
      items.foldl (fun seen item => if seen.any (like item) then seen else seen ++ [item])
        seen.reverse := by
    induction items with
    | nil => exact fun seen => rfl
    | cons item rest ih =>
      intro seen
      rw [List.eraseDupsBy.loop, List.foldl_cons, List.any_reverse]
      cases seen.any (like item) with
      | true => exact ih seen
      | false => simpa using ih (item :: seen)
  exact hloop []

namespace Query

/-- What a query says under a key, if anything. -/
def said? (q : Query) (key : String) : Option Node :=
  (q.get? key).filter fun node => !node.isEmpty

/-- No child is the same as an earlier one. -/
def Unrepeated (children : List Query) : Prop :=
  children.Pairwise fun a b => a.same b = false

-- ---------------------------------------------------------------------------
-- Uniting groups
-- ---------------------------------------------------------------------------

section
variable {existing incoming : List Query} {child : Query}

theorem unite_eq_foldl (existing incoming : List Query) : unite existing incoming =
    incoming.foldl (fun seen child => if child.isIn seen then seen else seen ++ [child])
      existing := by
  induction incoming generalizing existing with
  | nil => rfl
  | cons child rest ih => exact ih _

theorem eraseDupsBy_eq_unite (children : List Query) :
    children.eraseDupsBy same = unite [] children :=
  (eraseDupsBy_eq_foldl same children).trans (unite_eq_foldl [] children).symm

theorem unite_append (existing first second : List Query) :
    unite existing (first ++ second) = unite (unite existing first) second := by
  simp only [unite_eq_foldl, List.foldl_append]

theorem isIn_unite : child.isIn (unite existing incoming) = true ↔
    child.isIn existing = true ∨ child.isIn incoming = true := by
  simp only [isIn, List.any_eq_true]
  constructor
  · rintro ⟨own, ho, hlike⟩
    exact (mem_unite ho).imp (fun ho => ⟨own, ho, hlike⟩) fun ho => ⟨own, ho, hlike⟩
  · rintro (⟨own, ho, hlike⟩ | ⟨own, ho, hlike⟩)
    · exact ⟨own, subset_unite ho, hlike⟩
    · obtain ⟨other, hother, rfl | hsame⟩ := exists_of_mem_incoming existing ho
      · exact ⟨own, hother, hlike⟩
      · exact ⟨other, hother, same_trans hlike hsame⟩

theorem unite_unite (existing incoming : List Query) :
    unite [] (unite existing incoming) = unite (unite [] existing) incoming := by
  induction incoming generalizing existing with
  | nil => rfl
  | cons child rest ih =>
    rw [unite, unite, ih]
    have hin : child.isIn (unite [] existing) = child.isIn existing := by
      rw [Bool.eq_iff_iff, isIn_unite, or_iff_right (by simp [isIn])]
    rw [hin]
    cases hexisting : child.isIn existing with
    | true => simp
    | false => simp [unite_append, unite, hin, hexisting]

theorem unrepeated_unite (he : ∀ own ∈ existing, own.Distinct)
    (hi : ∀ own ∈ incoming, own.Distinct) (h : Unrepeated existing) :
    Unrepeated (unite existing incoming) := by
  induction incoming generalizing existing with
  | nil => exact h
  | cons child rest ih =>
    obtain ⟨hchild, hrest⟩ := List.forall_mem_cons.mp hi
    rw [unite]
    cases hin : child.isIn existing with
    | true => exact ih he hrest h
    | false =>
      have happended : ∀ own ∈ existing ++ [child], own.Distinct := by
        intro own ho
        rcases List.mem_append.mp ho with ho | ho
        · exact he own ho
        · exact List.mem_singleton.mp ho ▸ hchild
      refine ih happended hrest (List.pairwise_append.mpr ⟨h, List.pairwise_singleton .., ?_⟩)
      intro own ho other hother
      obtain rfl := List.mem_singleton.mp hother
      by_contra hsame
      have hback := same_symm (he own ho) hchild (Bool.of_not_eq_false hsame)
      exact absurd hback (by simpa using List.any_eq_false.mp hin own ho)

end

-- ---------------------------------------------------------------------------
-- Folding one fragment
-- ---------------------------------------------------------------------------

section
variable {target fragment : Query} {key : String} {node : Node} {op : Logical}

theorem get?_pruned (hf : fragment.Keyed) (key : String) :
    fragment.pruned.get? key = fragment.said? key :=
  Members.get?_filter (keyed_iff.mp hf).1 (fun node => !node.isEmpty) key

theorem keys_pruned (hf : fragment.Keyed) :
    fragment.pruned.keys = fragment.keys.filter fun key => (fragment.said? key).isSome := by
  simp only [keys, pruned, Members.names, List.filter_map]
  refine congrArg (List.map Prod.fst) (List.filter_congr fun clause hc => ?_)
  cases he : clause.2.isEmpty <;> simp [said?, get?_of_mem hf hc, he]

theorem Keyed.fold (ht : target.Keyed) (hf : fragment.Keyed) : (target.fold fragment).Keyed :=
  (foldAll_get? hf.pruned ht).1

theorem get?_fold (ht : target.Keyed) (hf : fragment.Keyed) (key : String) :
    (target.fold fragment).get? key =
      match fragment.said? key with
      | some node => some (folded node (target.get? key))
      | none => target.get? key := by
  rw [← get?_pruned hf]
  exact (foldAll_get? hf.pruned ht).2 key

theorem get?_fold_plain (ht : target.Keyed) (hf : fragment.Keyed)
    (hkey : Logical.ofKey? key = none) :
    (target.fold fragment).get? key = (fragment.said? key).or (target.get? key) := by
  rw [get?_fold ht hf]
  cases hs : fragment.said? key with
  | none => rfl
  | some node =>
    have hp := plain_of_keyed (hf.of_get? (Option.filter_eq_some_iff.mp hs).1) hkey
    cases node with
    | group => cases hp
    | _ => rfl

theorem childrenOf_of_said?_none (hf : fragment.Keyed) (h : fragment.said? op.key = none) :
    fragment.childrenOf op = [] := by
  cases hg : fragment.group? op with
  | none => exact childrenOf_of_none hg
  | some children =>
    rw [childrenOf_of_group? hg]
    simpa [said?, (group?_eq_some_iff hf).mp hg, Node.isEmpty] using h

theorem childrenOf_fold (ht : target.Keyed) (hf : fragment.Keyed) (op : Logical) :
    (target.fold fragment).childrenOf op =
      match target.group? op with
      | some existing => unite existing (fragment.childrenOf op)
      | none => fragment.childrenOf op := by
  have hget := get?_fold ht hf op.key
  cases hs : fragment.said? op.key with
  | none =>
    rw [hs] at hget
    rw [childrenOf_of_said?_none hf hs, childrenOf, group?_congr hget]
    cases target.group? op <;> rfl
  | some node =>
    obtain ⟨hnode, -⟩ := Option.filter_eq_some_iff.mp hs
    obtain ⟨incoming, rfl⟩ := exists_group_of_keyed (hf.of_get? hnode)
    rw [childrenOf_of_group? ((group?_eq_some_iff hf).mpr hnode)]
    refine childrenOf_of_group? ((group?_eq_some_iff (ht.fold hf)).mpr ?_)
    rw [hget, hs]
    cases hg : target.group? op with
    | none => simp [(group?_eq_none_iff ht).mp hg, folded]
    | some existing => simp [(group?_eq_some_iff ht).mp hg, folded]

theorem keys_foldAll (ht : target.Keyed) (hf : fragment.Keyed) :
    (target.foldAll fragment).keys =
      fragment.keys.foldl (fun seen key => if seen.any (key == ·) then seen else seen ++ [key])
        target.keys := by
  obtain ⟨clauses⟩ := fragment
  induction clauses generalizing target with
  | nil => rfl
  | cons clause rest ih =>
    obtain ⟨name, node⟩ := clause
    obtain ⟨hn, -, hrest⟩ := keyed_cons.mp hf
    have hput := foldClause_eq_put ht hn
    have hstep : (target.foldClause name node).Keyed := by
      rw [hput]
      exact ht.put (folded_keyed hn fun own ho => ht.of_get? ho)
    have hkeys : (target.foldClause name node).keys =
        if target.keys.any (name == ·) then target.keys else target.keys ++ [name] := by
      rw [hput]
      simpa [keys, Query.put] using
        Members.names_put name (folded node (target.get? name)) target.clauses
    refine (ih hstep hrest).trans ?_
    rw [hkeys]
    rfl

end

-- ---------------------------------------------------------------------------
-- Folding one after the other
-- ---------------------------------------------------------------------------

section
variable {fragments : List Query} {target : Query} {key : String} {op : Logical} {child : Query}

theorem keys_folds (hf : ∀ fragment ∈ fragments, fragment.Keyed) (ht : target.Keyed) :
    (fragments.foldl fold target).keys =
      (fragments.flatMap fun fragment =>
        fragment.keys.filter fun key => (fragment.said? key).isSome).foldl
        (fun seen key => if seen.any (key == ·) then seen else seen ++ [key]) target.keys := by
  induction fragments generalizing target with
  | nil => rfl
  | cons first rest ih =>
    obtain ⟨hfirst, hrest⟩ := List.forall_mem_cons.mp hf
    rw [List.foldl_cons, ih hrest (ht.fold hfirst), fold, keys_foldAll ht hfirst.pruned,
      keys_pruned hfirst, List.flatMap_cons, List.foldl_append]

theorem get?_folds_plain (hf : ∀ fragment ∈ fragments, fragment.Keyed) (ht : target.Keyed)
    (hkey : Logical.ofKey? key = none) :
    (fragments.foldl fold target).get? key =
      (fragments.reverse.findSome? (·.said? key)).or (target.get? key) := by
  induction fragments generalizing target with
  | nil => rfl
  | cons first rest ih =>
    obtain ⟨hfirst, hrest⟩ := List.forall_mem_cons.mp hf
    rw [List.foldl_cons, ih hrest (ht.fold hfirst), get?_fold_plain ht hfirst hkey]
    simp [List.findSome?_append, Option.or_assoc]

theorem isIn_folds (hf : ∀ fragment ∈ fragments, fragment.Keyed) (ht : target.Keyed) :
    child.isIn ((fragments.foldl fold target).childrenOf op) = true ↔
      child.isIn (target.childrenOf op) = true ∨
        ∃ fragment ∈ fragments, child.isIn (fragment.childrenOf op) = true := by
  induction fragments generalizing target with
  | nil => simp
  | cons first rest ih =>
    obtain ⟨hfirst, hrest⟩ := List.forall_mem_cons.mp hf
    have hstep : child.isIn ((target.fold first).childrenOf op) = true ↔
        child.isIn (target.childrenOf op) = true ∨ child.isIn (first.childrenOf op) = true := by
      rw [childrenOf_fold ht hfirst]
      cases hg : target.group? op with
      | none => simp [childrenOf_of_none hg, isIn]
      | some existing => rw [childrenOf_of_group? hg, isIn_unite]
    rw [List.foldl_cons, ih hrest (ht.fold hfirst), hstep, or_assoc]
    simp

/-- Each child of a group stands where it first appears. -/
theorem firsts_folds (hf : ∀ fragment ∈ fragments, fragment.Keyed) (ht : target.Keyed) :
    unite [] ((fragments.foldl fold target).childrenOf op) =
      unite (unite [] (target.childrenOf op)) (fragments.flatMap (·.childrenOf op)) := by
  induction fragments generalizing target with
  | nil => rfl
  | cons first rest ih =>
    obtain ⟨hfirst, hrest⟩ := List.forall_mem_cons.mp hf
    have hstep : unite [] ((target.fold first).childrenOf op) =
        unite (unite [] (target.childrenOf op)) (first.childrenOf op) := by
      rw [childrenOf_fold ht hfirst]
      cases hg : target.group? op with
      | none => simp [childrenOf_of_none hg, unite]
      | some existing => rw [childrenOf_of_group? hg, unite_unite]
    rw [List.foldl_cons, ih hrest (ht.fold hfirst), hstep, List.flatMap_cons, unite_append]

end

-- ---------------------------------------------------------------------------
-- What is left
-- ---------------------------------------------------------------------------

/-- What a list of fragments leaves that are folded in order into an empty query.
Fragments are keyed, as queries are meant to be throughout: no key comes twice, a
logical key holds a group of its operator, and a plain key none. What a rule's
query is lowered to is (`Json.lower?_objectless`), and pruning and substitution
leave it so (`Keyed.pruned`, `keyed_mapLiterals`). -/
theorem folds_leave {fragments : List Query} (hf : ∀ fragment ∈ fragments, fragment.Keyed) :
    (fragments.foldl fold empty).keys =
        (fragments.flatMap fun fragment =>
          fragment.keys.filter fun key => (fragment.said? key).isSome).eraseDups ∧
      (∀ key, Logical.ofKey? key = none →
        (fragments.foldl fold empty).get? key =
          fragments.reverse.findSome? (·.said? key)) ∧
      ∀ op,
        (∀ child : Query, child.isIn ((fragments.foldl fold empty).childrenOf op) = true ↔
          ∃ fragment ∈ fragments, child.isIn (fragment.childrenOf op) = true) ∧
        ((fragments.foldl fold empty).childrenOf op).eraseDupsBy same =
          (fragments.flatMap (·.childrenOf op)).eraseDupsBy same := by
  have hempty : ∀ op, empty.childrenOf op = [] := by
    intro op
    cases op <;> rfl
  refine ⟨?_, fun key hkey => ?_, fun op => ⟨fun child => ?_, ?_⟩⟩
  · exact (keys_folds hf keyed_empty).trans (eraseDupsBy_eq_foldl ..).symm
  · rw [get?_folds_plain hf keyed_empty hkey]
    exact Option.or_none
  · rw [isIn_folds hf keyed_empty, hempty, or_iff_right (by simp [isIn])]
  · rw [eraseDupsBy_eq_unite, eraseDupsBy_eq_unite, firsts_folds hf keyed_empty, hempty]
    rfl

/-- The second fragment says nothing of the status, and an alternative three
times. -/
theorem folds_leave_status :
    ∃ fragments : List Query, fragments = [ofField "status" (.string "x"),
        (ofField "status" .null).insertGroup .or [ofField "a" .null, ofField "a" .null],
        alternatives [ofField "b" .null, ofField "a" .null]] ∧
      (∀ fragment ∈ fragments, fragment.Keyed) ∧
      (fragments.foldl fold empty).keys = ["status", "$or"] ∧
      (fragments.foldl fold empty).get? "status" = some (.literal (.string "x")) ∧
      ((fragments.foldl fold empty).childrenOf .or).eraseDupsBy same =
        [ofField "a" .null, ofField "b" .null] := by
  have hfield : ∀ field value, Logical.ofKey? field = none → (ofField field value).Keyed :=
    fun field value h => keyed_empty.put h
  have ha := hfield "a" .null rfl
  have hb := hfield "b" .null rfl
  have hkeyed : ∀ fragment ∈ [ofField "status" (.string "x"),
      (ofField "status" .null).insertGroup .or [ofField "a" .null, ofField "a" .null],
      alternatives [ofField "b" .null, ofField "a" .null]], fragment.Keyed := by
    simp only [List.forall_mem_cons, List.not_mem_nil, false_imp_iff, implies_true, and_true]
    refine ⟨hfield _ _ rfl, (hfield _ _ rfl).put (keyed_group.mpr ⟨rfl, ?_⟩), keyed_alternatives ?_⟩
    · simp [ha]
    · simp [ha, hb]
  obtain ⟨hkeys, hplain, hgroups⟩ := folds_leave hkeyed
  exact ⟨_, rfl, hkeyed, hkeys.trans (by cbv), (hplain "status" rfl).trans (by cbv),
    (hgroups .or).2.trans (by cbv)⟩

/-- A group that is there takes no child in twice. One that is stored whole has
the repetitions that it came with. -/
theorem fold_unrepeated_iff {target fragment : Query} {op : Logical} (ht : target.WellFormed)
    (hf : fragment.WellFormed) (h : Unrepeated (target.childrenOf op)) :
    Unrepeated ((target.fold fragment).childrenOf op) ↔
      (target.group? op = none → Unrepeated (fragment.childrenOf op)) := by
  rw [childrenOf_fold ht.keyed hf.keyed]
  cases hg : target.group? op with
  | none => simp
  | some existing =>
    rw [childrenOf_of_group? hg] at h
    refine iff_of_true (unrepeated_unite ?_ ?_ h) (by simp)
    · exact fun own ho => (ht.child hg own ho).distinct
    · exact fun own ho => (hf.childrenOf own ho).distinct

theorem fold_unrepeated_united :
    Unrepeated ((alternatives [ofField "a" .null]).childrenOf .or) ∧
      Unrepeated (((alternatives [ofField "a" .null]).fold
        (alternatives [ofField "b" .null, ofField "b" .null])).childrenOf .or) := by
  have hfield : ∀ field, Logical.ofKey? field = none → (ofField field .null).WellFormed :=
    fun field h => wellFormed_ofField h (by trivial)
  have ha := hfield "a" rfl
  have hb := hfield "b" rfl
  have hbefore : Unrepeated ((alternatives [ofField "a" .null]).childrenOf .or) :=
    List.pairwise_singleton ..
  refine ⟨hbefore, (fold_unrepeated_iff (wellFormed_empty.insertGroup (by simp [ha]))
    (wellFormed_empty.insertGroup (by simp [hb])) hbefore).mpr ?_⟩
  intro hnone
  cases hnone

/-- Alternatives that say one thing twice are stored as they stand. -/
theorem fold_repeats :
    (∀ op, Unrepeated (empty.childrenOf op)) ∧
      ¬Unrepeated ((empty.fold (alternatives [ofField "a" .null, ofField "a" .null])).childrenOf
        .or) := by
  refine ⟨fun op => ?_, fun h => ?_⟩
  · cases op <;> exact List.Pairwise.nil
  · have hchildren : (empty.fold (alternatives [ofField "a" .null, ofField "a" .null])).childrenOf
        .or = [ofField "a" .null, ofField "a" .null] := by
      cbv
    rw [hchildren] at h
    have hunlike : (ofField "a" .null).same (ofField "a" .null) = false :=
      (List.pairwise_cons.mp h).1 _ List.mem_cons_self
    rw [same_refl (wellFormed_ofField rfl (by trivial)).distinct] at hunlike
    cases hunlike

end Query

end QueryGuard
