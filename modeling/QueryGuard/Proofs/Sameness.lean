import QueryGuard.Proofs.Members
import QueryGuard.Query

/-!
# Sameness is an equivalence

Deep equality of documents and of queries looks names up instead of walking
both sides in step. Where no name stands twice this comes to the same from
either side, so sameness is reflexive, symmetric and transitive there.
-/

namespace QueryGuard

-- ---------------------------------------------------------------------------
-- Lists in step
-- ---------------------------------------------------------------------------

theorem forall₂_symm {α β : Type} {like : α → β → Prop} {back : β → α → Prop} {first : List α}
    {second : List β} (h : List.Forall₂ like first second)
    (hback : ∀ a ∈ first, ∀ b ∈ second, like a b → back b a) : List.Forall₂ back second first := by
  induction h with
  | nil => exact .nil
  | cons hab _ ih =>
    refine .cons (hback _ (by simp) _ (by simp) hab) (ih fun a ha b hb => ?_)
    exact hback a (List.mem_cons_of_mem _ ha) b (List.mem_cons_of_mem _ hb)

theorem forall₂_trans {α β γ : Type} {ab : α → β → Prop} {bc : β → γ → Prop} {ac : α → γ → Prop}
    {first : List α} {second : List β} {third : List γ} (hab : List.Forall₂ ab first second)
    (hbc : List.Forall₂ bc second third)
    (h : ∀ a ∈ first, ∀ b c, ab a b → bc b c → ac a c) : List.Forall₂ ac first third := by
  induction hab generalizing third with
  | nil => cases hbc; exact .nil
  | cons hlike _ ih =>
    obtain _ | ⟨hlike', hrest⟩ := hbc
    refine .cons (h _ (by simp) _ _ hlike hlike') (ih hrest fun a ha => ?_)
    exact h a (List.mem_cons_of_mem _ ha)

theorem forall₂_iff_eq_map {α β : Type} {like : α → β → Prop} {f : α → β} {items : List α}
    {results : List β} (h : ∀ item ∈ items, ∀ result, like item result ↔ result = f item) :
    List.Forall₂ like items results ↔ results = items.map f := by
  induction items generalizing results with
  | nil => simp
  | cons item rest ih =>
    obtain ⟨hitem, hrest⟩ := List.forall_mem_cons.mp h
    rw [List.forall₂_cons_left_iff, List.map_cons]
    constructor
    · rintro ⟨result, others, hlike, hothers, rfl⟩
      rw [(hitem result).mp hlike, (ih hrest).mp hothers]
    · rintro rfl
      exact ⟨_, _, (hitem _).mpr rfl, (ih hrest).mpr rfl, rfl⟩

theorem exists_of_forall₂_left {α β : Type} {like : α → β → Prop} {first : List α}
    {second : List β} (h : List.Forall₂ like first second) {a : α} (ha : a ∈ first) :
    ∃ b ∈ second, like a b := by
  induction h with
  | nil => simp at ha
  | cons hab _ ih =>
    rcases List.mem_cons.mp ha with rfl | ha
    · exact ⟨_, List.mem_cons_self, hab⟩
    · obtain ⟨b, hb, h⟩ := ih ha
      exact ⟨b, List.mem_cons_of_mem _ hb, h⟩

theorem exists_of_forall₂_right {α β : Type} {like : α → β → Prop} {first : List α}
    {second : List β} (h : List.Forall₂ like first second) {b : β} (hb : b ∈ second) :
    ∃ a ∈ first, like a b :=
  exists_of_forall₂_left h.flip hb

theorem forall₂_congr_mem {α β : Type} {like own : α → β → Prop} {first : List α} {second : List β}
    (h : ∀ a ∈ first, ∀ b ∈ second, (like a b ↔ own a b)) :
    List.Forall₂ like first second ↔ List.Forall₂ own first second := by
  constructor <;> intro hall
  · exact (forall₂_symm hall fun a ha b hb => (h a ha b hb).mp).flip
  · exact (forall₂_symm hall fun a ha b hb => (h a ha b hb).mpr).flip

theorem forall_mem_replaced {α : Type} {holds : α → Prop} {before after : List α} {a : α}
    (h : ∀ item ∈ before ++ a :: after, holds item) :
    holds a ∧ ∀ b, holds b → ∀ item ∈ before ++ b :: after, holds item := by
  simp only [List.forall_mem_append, List.forall_mem_cons] at h ⊢
  obtain ⟨hbefore, ha, hafter⟩ := h
  exact ⟨ha, fun b hb => ⟨hbefore, hb, hafter⟩⟩

theorem forall₂_replaced {α : Type} {like : α → α → Prop} {before after : List α} {a b : α}
    (h : like a b) (hrefl : ∀ item ∈ before ++ a :: after, like item item) :
    List.Forall₂ like (before ++ a :: after) (before ++ b :: after) := by
  obtain ⟨hbefore, hafter⟩ := List.forall_mem_append.mp hrefl
  have hafter := (List.forall_mem_cons.mp hafter).2
  exact List.rel_append (List.forall₂_same.mpr hbefore) (.cons h (List.forall₂_same.mpr hafter))

-- ---------------------------------------------------------------------------
-- Numbers
-- ---------------------------------------------------------------------------

theorem Number.same_refl (a : Number) : a.same a = true := by
  cases a <;> simp [Number.same]

theorem Number.same_symm {a b : Number} (h : a.same b = true) : b.same a = true := by
  cases a <;> cases b <;> simp_all [Number.same]

theorem Number.same_trans {a b c : Number} (hab : a.same b = true) (hbc : b.same c = true) :
    a.same c = true := by
  cases a <;> cases b <;> cases c <;> simp_all [Number.same]

-- ---------------------------------------------------------------------------
-- Documents
-- ---------------------------------------------------------------------------

namespace Json

/-- Induction over the tree, with the hypothesis for every item and member. -/
theorem induct {motive : Json → Prop} (null : motive .null) (bool : ∀ b, motive (.bool b))
    (number : ∀ n, motive (.number n)) (string : ∀ s, motive (.string s))
    (array : ∀ items, (∀ item ∈ items, motive item) → motive (.array items))
    (object : ∀ members, (∀ member ∈ members, motive member.2) → motive (.object members))
    (value : Json) : motive value :=
  @Json.rec motive (fun items => ∀ item ∈ items, motive item)
    (fun members => ∀ member ∈ members, motive member.2) (fun member => motive member.2)
    null bool number string array object
    (by simp) (fun _ _ h hs => List.forall_mem_cons.mpr ⟨h, hs⟩)
    (by simp) (fun _ _ h hs => List.forall_mem_cons.mpr ⟨h, hs⟩) (fun _ _ h => h) value

theorem distinctItems_iff {items : List Json} :
    DistinctItems items ↔ ∀ item ∈ items, item.Distinct := by
  induction items with
  | nil => simp [DistinctItems]
  | cons item rest ih => simp [DistinctItems, ih]

theorem distinctMembers_iff {members : Members Json} :
    DistinctMembers members ↔ ∀ member ∈ members, member.2.Distinct := by
  induction members with
  | nil => simp [DistinctMembers]
  | cons member rest ih => simp [DistinctMembers, ih]

theorem distinct_object {members : Members Json} :
    (Json.object members).Distinct ↔
      Members.Distinct members ∧ ∀ member ∈ members, member.2.Distinct := by
  simp [Distinct, distinctMembers_iff]

theorem sameItems_iff {items others : List Json} :
    sameItems items others = true ↔ List.Forall₂ (fun a b => a.same b = true) items others := by
  induction items generalizing others with
  | nil => cases others <;> simp [sameItems]
  | cons item rest ih => cases others <;> simp [sameItems, ih]

theorem sameMembers_iff {members others : Members Json} :
    sameMembers members others = true ↔
      Members.Matched (fun a b => a.same b = true) members others := by
  induction members with
  | nil => simp [sameMembers, Members.Matched]
  | cons member rest ih =>
    obtain ⟨name, value⟩ := member
    simp only [sameMembers, Bool.and_eq_true, ih, Members.Matched, List.forall_mem_cons]
    cases others.get? name <;> simp

theorem same_object {members others : Members Json} :
    (Json.object members).same (.object others) = true ↔
      members.length = others.length ∧
        Members.Matched (fun a b => a.same b = true) members others := by
  simp [same, sameMembers_iff]

theorem same_refl {a : Json} (ha : a.Distinct) : a.same a = true := by
  induction a using induct with
  | null => rfl
  | bool b => simp [same]
  | number n => exact Number.same_refl n
  | string s => simp [same]
  | array items ih =>
    rw [same, sameItems_iff, List.forall₂_same]
    exact fun item hi => ih item hi (distinctItems_iff.mp ha item hi)
  | object members ih =>
    obtain ⟨hd, hs⟩ := distinct_object.mp ha
    refine same_object.mpr ⟨rfl, fun member hm => ?_⟩
    exact ⟨member.2, Members.get?_of_mem hd hm, ih member hm (hs member hm)⟩

theorem same_symm {a b : Json} (ha : a.Distinct) (hb : b.Distinct) (h : a.same b = true) :
    b.same a = true := by
  induction a using induct generalizing b with
  | null => cases b <;> simp_all [same]
  | bool => cases b <;> simp_all [same]
  | number n =>
    cases b with
    | number m => exact Number.same_symm h
    | _ => simp [same] at h
  | string => cases b <;> simp_all [same]
  | array items ih =>
    cases b with
    | array others =>
      rw [same, sameItems_iff] at h ⊢
      rw [Distinct, distinctItems_iff] at ha hb
      exact forall₂_symm h fun item hi other ho => ih item hi (ha item hi) (hb other ho)
    | _ => simp [same] at h
  | object members ih =>
    cases b with
    | object others =>
      obtain ⟨hl, hm⟩ := same_object.mp h
      obtain ⟨hd, hs⟩ := distinct_object.mp ha
      obtain ⟨hd', hs'⟩ := distinct_object.mp hb
      refine same_object.mpr ⟨hl.symm, hm.symm hd hd' (Nat.le_of_eq hl.symm) ?_⟩
      exact fun member hm value hv => ih member hm (hs member hm) (hs' _ hv)
    | _ => simp [same] at h

theorem same_trans {a b c : Json} (hab : a.same b = true) (hbc : b.same c = true) :
    a.same c = true := by
  induction a using induct generalizing b c with
  | null =>
    cases b with
    | null => exact hbc
    | _ => simp [same] at hab
  | bool x =>
    cases b with
    | bool y => rwa [show x = y by simpa [same] using hab]
    | _ => simp [same] at hab
  | number n =>
    cases b with
    | number m =>
      cases c with
      | number k => exact Number.same_trans hab hbc
      | _ => simp [same] at hbc
    | _ => simp [same] at hab
  | string x =>
    cases b with
    | string y => rwa [show x = y by simpa [same] using hab]
    | _ => simp [same] at hab
  | array items ih =>
    cases b with
    | array others =>
      cases c with
      | array more =>
        rw [same, sameItems_iff] at hab hbc ⊢
        exact forall₂_trans hab hbc fun item hi _ _ => ih item hi
      | _ => simp [same] at hbc
    | _ => simp [same] at hab
  | object members ih =>
    cases b with
    | object others =>
      cases c with
      | object more =>
        obtain ⟨hl, hm⟩ := same_object.mp hab
        obtain ⟨hl', hm'⟩ := same_object.mp hbc
        refine same_object.mpr ⟨hl.trans hl', hm.trans hm' ?_⟩
        exact fun member hm b c _ _ hb hc => ih member hm hb hc
      | _ => simp [same] at hbc
    | _ => simp [same] at hab

end Json

-- ---------------------------------------------------------------------------
-- Queries
-- ---------------------------------------------------------------------------

namespace Query

/-- Induction over queries and nodes at once. -/
theorem induct {onQuery : Query → Prop} {onNode : Node → Prop}
    (literal : ∀ value, onNode (.literal value))
    (constraint : ∀ query, onQuery query → onNode (.constraint query))
    (group : ∀ op children, (∀ child ∈ children, onQuery child) → onNode (.group op children))
    (query : ∀ clauses, (∀ clause ∈ clauses, onNode clause.2) → onQuery ⟨clauses⟩) :
    (∀ query, onQuery query) ∧ ∀ node, onNode node := by
  let onChildren := fun children : List Query => ∀ child ∈ children, onQuery child
  let onClauses := fun clauses : List (String × Node) => ∀ clause ∈ clauses, onNode clause.2
  let onClause := fun clause : String × Node => onNode clause.2
  have nil : onChildren [] := by simp [onChildren]
  have cons : ∀ child rest, onQuery child → onChildren rest → onChildren (child :: rest) :=
    fun _ _ h hs => List.forall_mem_cons.mpr ⟨h, hs⟩
  have nil' : onClauses [] := by simp [onClauses]
  have cons' : ∀ clause rest, onClause clause → onClauses rest → onClauses (clause :: rest) :=
    fun _ _ h hs => List.forall_mem_cons.mpr ⟨h, hs⟩
  exact ⟨@Query.rec onNode onQuery onChildren onClauses onClause
      literal constraint group query nil cons nil' cons' (fun _ _ h => h),
    @Node.rec onNode onQuery onChildren onClauses onClause
      literal constraint group query nil cons nil' cons' (fun _ _ h => h)⟩

theorem distinctAll_iff {children : List Query} :
    DistinctAll children ↔ ∀ child ∈ children, child.Distinct := by
  induction children with
  | nil => simp [DistinctAll]
  | cons child rest ih => simp [DistinctAll, ih]

theorem distinctClauses_iff {clauses : List (String × Node)} :
    DistinctClauses clauses ↔ ∀ clause ∈ clauses, clause.2.Distinct := by
  induction clauses with
  | nil => simp [DistinctClauses]
  | cons clause rest ih => simp [DistinctClauses, ih]

theorem distinct_iff {q : Query} :
    q.Distinct ↔ Members.Distinct q.clauses ∧ ∀ clause ∈ q.clauses, clause.2.Distinct := by
  cases q
  simp only [Distinct, distinctClauses_iff]

theorem distinct_group {op : Logical} {children : List Query} :
    (Node.group op children).Distinct ↔ ∀ child ∈ children, child.Distinct := by
  simp [Node.Distinct, distinctAll_iff]

theorem sameAll_iff {children others : List Query} :
    sameAll children others = true ↔ List.Forall₂ (fun a b => a.same b = true) children others := by
  induction children generalizing others with
  | nil => cases others <;> simp [sameAll]
  | cons child rest ih => cases others <;> simp [sameAll, ih]

theorem sameClauses_iff {clauses : List (String × Node)} {others : Members Node} :
    sameClauses clauses others = true ↔
      Members.Matched (fun a b => a.same b = true) clauses others := by
  induction clauses with
  | nil => simp [sameClauses, Members.Matched]
  | cons clause rest ih =>
    obtain ⟨key, node⟩ := clause
    simp only [sameClauses, Bool.and_eq_true, ih, Members.Matched, List.forall_mem_cons]
    cases others.get? key <;> simp

theorem same_iff {a b : Query} :
    a.same b = true ↔
      a.clauses.length = b.clauses.length ∧
        Members.Matched (fun x y => x.same y = true) a.clauses b.clauses := by
  cases a
  cases b
  simp only [same, Bool.and_eq_true, beq_iff_eq, sameClauses_iff]

@[simp] theorem same_literal {v w : Json} :
    (Node.literal v).same (.literal w) = v.same w := by
  rw [Node.same]

@[simp] theorem same_constraint {q r : Query} :
    (Node.constraint q).same (.constraint r) = q.same r := by
  rw [Node.same]

theorem same_group {op op' : Logical} {children others : List Query} :
    (Node.group op children).same (.group op' others) = true ↔
      op = op' ∧ List.Forall₂ (fun a b => a.same b = true) children others := by
  simp [Node.same, sameAll_iff]

theorem same_refl_both :
    (∀ q : Query, q.Distinct → q.same q = true) ∧ ∀ n : Node, n.Distinct → n.same n = true := by
  refine induct (fun v hv => ?_) (fun q ih hq => ?_) (fun op cs ih hn => ?_)
    fun clauses ih hq => ?_
  · exact same_literal.trans (Json.same_refl hv)
  · exact same_constraint.trans (ih hq)
  · refine same_group.mpr ⟨rfl, List.forall₂_same.mpr fun child hc => ?_⟩
    exact ih child hc (distinct_group.mp hn child hc)
  · obtain ⟨hd, hs⟩ := distinct_iff.mp hq
    refine same_iff.mpr ⟨rfl, fun clause hc => ?_⟩
    exact ⟨clause.2, Members.get?_of_mem hd hc, ih clause hc (hs clause hc)⟩

theorem same_symm_both :
    (∀ a : Query, ∀ b, a.Distinct → b.Distinct → a.same b = true → b.same a = true) ∧
      ∀ a : Node, ∀ b, a.Distinct → b.Distinct → a.same b = true → b.same a = true := by
  refine induct (fun v b hv hb h => ?_) (fun q ih b hq hb h => ?_) (fun op cs ih b ha hb h => ?_)
    fun clauses ih b ha hb h => ?_
  · cases b with
    | literal w =>
      rw [same_literal] at h ⊢
      exact Json.same_symm hv hb h
    | _ => simp [Node.same] at h
  · cases b with
    | constraint r =>
      rw [same_constraint] at h ⊢
      exact ih r hq hb h
    | _ => simp [Node.same] at h
  · cases b with
    | group op' others =>
      obtain ⟨rfl, hs⟩ := same_group.mp h
      have ha := distinct_group.mp ha
      have hb := distinct_group.mp hb
      refine same_group.mpr ⟨rfl, forall₂_symm hs fun child hc other ho => ?_⟩
      exact ih child hc other (ha child hc) (hb other ho)
    | _ => simp [Node.same] at h
  · obtain ⟨hl, hm⟩ := same_iff.mp h
    obtain ⟨hd, hs⟩ := distinct_iff.mp ha
    obtain ⟨hd', hs'⟩ := distinct_iff.mp hb
    refine same_iff.mpr ⟨hl.symm, hm.symm hd hd' (Nat.le_of_eq hl.symm) ?_⟩
    exact fun clause hc node hn => ih clause hc node (hs clause hc) (hs' _ hn)

theorem same_trans_both :
    (∀ a b c : Query, a.same b = true → b.same c = true → a.same c = true) ∧
      ∀ a b c : Node, a.same b = true → b.same c = true → a.same c = true := by
  refine induct (fun v b c hab hbc => ?_) (fun q ih b c hab hbc => ?_)
    (fun op cs ih b c hab hbc => ?_) fun clauses ih b c hab hbc => ?_
  · cases b with
    | literal w =>
      cases c with
      | literal x =>
        rw [same_literal] at hab hbc ⊢
        exact Json.same_trans hab hbc
      | _ => simp [Node.same] at hbc
    | _ => simp [Node.same] at hab
  · cases b with
    | constraint r =>
      cases c with
      | constraint s =>
        rw [same_constraint] at hab hbc ⊢
        exact ih r s hab hbc
      | _ => simp [Node.same] at hbc
    | _ => simp [Node.same] at hab
  · cases b with
    | group op' others =>
      cases c with
      | group op'' more =>
        obtain ⟨rfl, hs⟩ := same_group.mp hab
        obtain ⟨rfl, hs'⟩ := same_group.mp hbc
        exact same_group.mpr ⟨rfl, forall₂_trans hs hs' fun child hc b c => ih child hc b c⟩
      | _ => simp [Node.same] at hbc
    | _ => simp [Node.same] at hab
  · obtain ⟨hl, hm⟩ := same_iff.mp hab
    obtain ⟨hl', hm'⟩ := same_iff.mp hbc
    refine same_iff.mpr ⟨hl.trans hl', hm.trans hm' ?_⟩
    exact fun clause hc b c _ _ hb hc' => ih clause hc b c hb hc'

theorem same_refl {q : Query} (h : q.Distinct) : q.same q = true := same_refl_both.1 q h

theorem same_symm {a b : Query} (ha : a.Distinct) (hb : b.Distinct) (h : a.same b = true) :
    b.same a = true := same_symm_both.1 a b ha hb h

theorem same_trans {a b c : Query} (hab : a.same b = true) (hbc : b.same c = true) :
    a.same c = true := same_trans_both.1 a b c hab hbc

section
variable {child : Query} {children existing : List Query}

theorem isIn_of_mem (hc : child.Distinct) (h : child ∈ children) : child.isIn children = true :=
  List.any_eq_true.mpr ⟨child, h, same_refl hc⟩

theorem isIn_mono (hsub : existing ⊆ children) (h : child.isIn existing = true) :
    child.isIn children = true := by
  obtain ⟨own, ho, hlike⟩ := List.any_eq_true.mp h
  exact List.any_eq_true.mpr ⟨own, hsub ho, hlike⟩

end

end Query

namespace Node

theorem same_refl {n : Node} (h : n.Distinct) : n.same n = true := Query.same_refl_both.2 n h

theorem same_symm {a b : Node} (ha : a.Distinct) (hb : b.Distinct) (h : a.same b = true) :
    b.same a = true := Query.same_symm_both.2 a b ha hb h

theorem same_trans {a b c : Node} (hab : a.same b = true) (hbc : b.same c = true) :
    a.same c = true := Query.same_trans_both.2 a b c hab hbc

theorem same_comm {a b : Node} (ha : a.Distinct) (hb : b.Distinct) : a.same b = b.same a :=
  Bool.eq_iff_iff.mpr ⟨same_symm ha hb, same_symm hb ha⟩

theorem isGroup_of_same {a b : Node} (h : a.same b = true) : a.isGroup = b.isGroup := by
  cases a <;> cases b <;> simp_all [Node.same, isGroup]

end Node

end QueryGuard
