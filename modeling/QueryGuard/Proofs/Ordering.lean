import QueryGuard.Comparison.Evaluation
import QueryGuard.Proofs.Sameness

/-!
# The order of values

Numbers stand in one order and texts that name instants in another (`standing?`), and
a value is greater or less than one of the same order only (`Ranked`). The laws of
the comparison operators (`evaluate_laws`) are those of the integers that values
stand for. Equality goes by other rules: texts are equal up to case, whatever they
name, and anything but texts and numbers just if it is the same.
-/

namespace QueryGuard

/-- Two numbers, or two texts that name instants. -/
inductive Json.Comparable : Json → Json → Prop where
  | numbers (m n : Number) : Comparable (.number m) (.number n)
  | instants {text other : String} {s t : Instant} (ht : Instant.ofText? text = some s)
      (ho : Instant.ofText? other = some t) : Comparable (.string text) (.string other)

namespace Comparison

-- ---------------------------------------------------------------------------
-- Standing
-- ---------------------------------------------------------------------------

inductive Scale where
  | numeric
  | temporal
  deriving DecidableEq

/-- Where a value stands, if it has an order. -/
def standing? : Json → Option (Scale × Int)
  | .number n => some (.numeric, n.place)
  | .string text => (Instant.ofText? text).map fun t => (.temporal, t)
  | _ => none

/-- Both sides stand on one scale, and as the relation says. -/
def Ranked (rel : Int → Int → Prop) (a b : Json) : Prop :=
  ∃ scale x y, standing? a = some (scale, x) ∧ standing? b = some (scale, y) ∧ rel x y

section
variable {rel : Int → Int → Prop} {a b c : Json}

theorem Ranked.iff_of_standing {scale : Scale} {x y : Int} (ha : standing? a = some (scale, x))
    (hb : standing? b = some (scale, y)) : Ranked rel a b ↔ rel x y := by
  constructor
  · rintro ⟨own, u, v, hu, hv, h⟩
    cases ha.symm.trans hu
    cases hb.symm.trans hv
    exact h
  · exact fun h => ⟨scale, x, y, ha, hb, h⟩

theorem ranked_swap : Ranked (fun x y => rel y x) a b ↔ Ranked rel b a := by
  constructor <;> rintro ⟨scale, x, y, hx, hy, h⟩ <;> exact ⟨scale, y, x, hy, hx, h⟩

theorem Ranked.trans (htrans : ∀ {x y z}, rel x y → rel y z → rel x z) (hab : Ranked rel a b)
    (hbc : Ranked rel b c) : Ranked rel a c := by
  obtain ⟨scale, x, y, hx, hy, h⟩ := hab
  obtain ⟨other, y', z, hy', hz, h'⟩ := hbc
  cases hy.symm.trans hy'
  exact ⟨scale, x, z, hx, hz, htrans h h'⟩

theorem standing?_numeric {x : Int} :
    standing? a = some (.numeric, x) ↔ ∃ n, a = .number n ∧ n.place = x := by
  cases a <;> simp [standing?]

theorem standing?_temporal {x : Int} :
    standing? a = some (.temporal, x) ↔
      ∃ text, a = .string text ∧ Instant.ofText? text = some x := by
  cases a <;> simp [standing?]

theorem comparable_iff : a.Comparable b ↔ Ranked (fun _ _ => True) a b := by
  constructor
  · rintro (⟨m, n⟩ | ⟨ht, ho⟩)
    · exact ⟨.numeric, m.place, n.place, rfl, rfl, trivial⟩
    · exact ⟨.temporal, _, _, standing?_temporal.mpr ⟨_, rfl, ht⟩,
        standing?_temporal.mpr ⟨_, rfl, ho⟩, trivial⟩
  · rintro ⟨scale, x, y, ha, hb, -⟩
    cases scale with
    | numeric =>
      obtain ⟨m, rfl, -⟩ := standing?_numeric.mp ha
      obtain ⟨n, rfl, -⟩ := standing?_numeric.mp hb
      exact .numbers m n
    | temporal =>
      obtain ⟨text, rfl, ht⟩ := standing?_temporal.mp ha
      obtain ⟨other, rfl, ho⟩ := standing?_temporal.mp hb
      exact .instants ht ho

theorem order?_eq_some_iff {o : Ordering} :
    order? a b = some o ↔ Ranked (fun x y => compare x y = o) a b := by
  constructor
  · intro h
    unfold order? at h
    split at h
    · cases h
      exact ⟨.numeric, _, _, rfl, rfl, rfl⟩
    · split at h
      next hs ht =>
        cases h
        exact ⟨.temporal, _, _, standing?_temporal.mpr ⟨_, rfl, hs⟩,
          standing?_temporal.mpr ⟨_, rfl, ht⟩, rfl⟩
      · cases h
    · cases h
  · rintro ⟨scale, x, y, ha, hb, rfl⟩
    cases scale with
    | numeric =>
      obtain ⟨m, rfl, rfl⟩ := standing?_numeric.mp ha
      obtain ⟨n, rfl, rfl⟩ := standing?_numeric.mp hb
      rfl
    | temporal =>
      obtain ⟨text, rfl, ht⟩ := standing?_temporal.mp ha
      obtain ⟨other, rfl, ho⟩ := standing?_temporal.mp hb
      simp only [order?, ht, ho]

theorem order?_any_iff (p : Ordering → Bool) : (order? a b).any p = true ↔
    Ranked (fun x y => p (compare x y) = true) a b := by
  simp only [Option.any_eq_true, order?_eq_some_iff]
  constructor
  · rintro ⟨_, ⟨scale, x, y, ha, hb, rfl⟩, h⟩
    exact ⟨scale, x, y, ha, hb, h⟩
  · rintro ⟨scale, x, y, ha, hb, h⟩
    exact ⟨_, ⟨scale, x, y, ha, hb, rfl⟩, h⟩

-- ---------------------------------------------------------------------------
-- Greater and less
-- ---------------------------------------------------------------------------

theorem gt_iff : Comparison.gt.evaluate a b = true ↔ Ranked (fun x y => y < x) a b := by
  simp only [evaluate, order?_any_iff, Ordering.isGT_iff_eq_gt, Int.compare_eq_gt]

theorem gte_iff : Comparison.gte.evaluate a b = true ↔ Ranked (fun x y => y ≤ x) a b := by
  simp only [evaluate, order?_any_iff, Int.isGE_compare]

theorem lt_iff : Comparison.lt.evaluate a b = true ↔ Ranked (fun x y => x < y) a b := by
  simp only [evaluate, order?_any_iff, Ordering.isLT_iff_eq_lt, Int.compare_eq_lt]

theorem lte_iff : Comparison.lte.evaluate a b = true ↔ Ranked (fun x y => x ≤ y) a b := by
  simp only [evaluate, order?_any_iff, Int.isLE_compare]

theorem gt_eq_lt_swap (a b : Json) : Comparison.gt.evaluate a b = Comparison.lt.evaluate b a := by
  rw [Bool.eq_iff_iff, gt_iff, lt_iff]
  exact ranked_swap

theorem gte_eq_lte_swap (a b : Json) :
    Comparison.gte.evaluate a b = Comparison.lte.evaluate b a := by
  rw [Bool.eq_iff_iff, gte_iff, lte_iff]
  exact ranked_swap

theorem gte_trans (hab : Comparison.gte.evaluate a b = true)
    (hbc : Comparison.gte.evaluate b c = true) : Comparison.gte.evaluate a c = true :=
  gte_iff.mpr ((gte_iff.mp hab).trans (fun hxy hyz => Int.le_trans hyz hxy) (gte_iff.mp hbc))

theorem trichotomy (h : a.Comparable b) :
    [Comparison.gt.evaluate a b, Comparison.lt.evaluate a b,
      Comparison.gte.evaluate a b && Comparison.lte.evaluate a b].count true = 1 := by
  obtain ⟨scale, x, y, ha, hb, -⟩ := comparable_iff.mp h
  have hgt : Comparison.gt.evaluate a b = decide (y < x) := by
    rw [Bool.eq_iff_iff, gt_iff, Ranked.iff_of_standing ha hb, decide_eq_true_iff]
  have hlt : Comparison.lt.evaluate a b = decide (x < y) := by
    rw [Bool.eq_iff_iff, lt_iff, Ranked.iff_of_standing ha hb, decide_eq_true_iff]
  have hboth : (Comparison.gte.evaluate a b && Comparison.lte.evaluate a b) = decide (x = y) := by
    rw [Bool.eq_iff_iff, Bool.and_eq_true, gte_iff, lte_iff, Ranked.iff_of_standing ha hb,
      Ranked.iff_of_standing ha hb, decide_eq_true_iff]
    omega
  rw [hgt, hlt, hboth]
  rcases Int.lt_trichotomy x y with hxy | rfl | hxy
  · simp [hxy, Int.ne_of_lt hxy, Int.le_of_lt hxy]
  · simp
  · simp [hxy, Int.ne_of_gt hxy, Int.le_of_lt hxy]

theorem not_ranked (h : ¬ a.Comparable b) : ∀ op ∈ [Comparison.gt, .gte, .lt, .lte],
    op.evaluate a b = false := by
  have hnone : ∀ rel, ¬ Ranked rel a b := fun rel ⟨scale, x, y, ha, hb, _⟩ =>
    h (comparable_iff.mpr ⟨scale, x, y, ha, hb, trivial⟩)
  intro op hop
  refine Bool.eq_false_iff.mpr fun heval => ?_
  simp only [List.mem_cons, List.not_mem_nil, or_false] at hop
  rcases hop with rfl | rfl | rfl | rfl
  · exact hnone _ (gt_iff.mp heval)
  · exact hnone _ (gte_iff.mp heval)
  · exact hnone _ (lt_iff.mp heval)
  · exact hnone _ (lte_iff.mp heval)

end

-- ---------------------------------------------------------------------------
-- Equality
-- ---------------------------------------------------------------------------

/-- What a value counts as: a text without its case, a number as a double. -/
def loosened : Json → Json
  | .string text => .string (Text.lowerCase text)
  | .number n => .number (.double n.toDouble)
  | value => value

theorem looseEq_eq_same (a b : Json) : looseEq a b = (loosened a).same (loosened b) := by
  cases a <;> cases b <;> simp [looseEq, loosened, Json.same, Number.same, Number.place]

theorem distinct_loosened {a : Json} (h : a.Distinct) : (loosened a).Distinct := by
  cases a with
  | string => trivial
  | number => trivial
  | _ => exact h

theorem eq_equivalence : Equivalence fun a b : { value : Json // value.Distinct } =>
    Comparison.eq.evaluate a b = true where
  refl a := by
    rw [evaluate, looseEq_eq_same]
    exact Json.same_refl (distinct_loosened a.2)
  symm {a b} h := by
    rw [evaluate, looseEq_eq_same] at h ⊢
    exact Json.same_symm (distinct_loosened a.2) (distinct_loosened b.2) h
  trans {a b c} hab hbc := by
    rw [evaluate, looseEq_eq_same] at hab hbc ⊢
    exact Json.same_trans hab hbc

theorem eq_numbers (m n : Number) : Comparison.eq.evaluate (.number m) (.number n) =
    (Comparison.gte.evaluate (.number m) (.number n) &&
      Comparison.lte.evaluate (.number m) (.number n)) := by
  have hm : standing? (.number m) = some (.numeric, m.place) := rfl
  have hn : standing? (.number n) = some (.numeric, n.place) := rfl
  rw [Bool.eq_iff_iff, Bool.and_eq_true, gte_iff, lte_iff, Ranked.iff_of_standing hm hn,
    Ranked.iff_of_standing hm hn, evaluate, looseEq, beq_iff_eq]
  omega

/-- The operators obey the laws of an order. Equality looks into objects, which repeat
no name. -/
theorem evaluate_laws :
    (∀ a b : Json, Comparison.gt.evaluate a b = Comparison.lt.evaluate b a ∧
      Comparison.gte.evaluate a b = Comparison.lte.evaluate b a) ∧
    (∀ a b : Json, a.Comparable b →
      [Comparison.gt.evaluate a b, Comparison.lt.evaluate a b,
        Comparison.gte.evaluate a b && Comparison.lte.evaluate a b].count true = 1) ∧
    (∀ a b : Json, ¬ a.Comparable b →
      ∀ op ∈ [Comparison.gt, .gte, .lt, .lte], op.evaluate a b = false) ∧
    (∀ a b c : Json, Comparison.gte.evaluate a b = true → Comparison.gte.evaluate b c = true →
      Comparison.gte.evaluate a c = true) ∧
    (Equivalence fun a b : { value : Json // value.Distinct } =>
      Comparison.eq.evaluate a b = true) ∧
    (∀ a b : Json, Comparison.ne.evaluate a b = !Comparison.eq.evaluate a b) ∧
    ∀ m n : Number, Comparison.eq.evaluate (.number m) (.number n) =
      (Comparison.gte.evaluate (.number m) (.number n) &&
        Comparison.lte.evaluate (.number m) (.number n)) :=
  ⟨fun a b => ⟨gt_eq_lt_swap a b, gte_eq_lte_swap a b⟩, fun _ _ => trichotomy,
    fun _ _ => not_ranked, fun _ _ _ => gte_trans, eq_equivalence, fun _ _ => rfl, eq_numbers⟩

/-- A midnight, the same instant elsewhere, and the midnight before: the first two are
each as great as the other, though not equal. None of them has an order with null. -/
theorem evaluate_laws_midnight :
    let midnight : Json := .string "2024-06-01"
    let elsewhere : Json := .string "2024-05-31T23:00:00-01:00"
    let before : Json := .string "2024-05-31"
    midnight.Comparable elsewhere ∧ ¬ midnight.Comparable .null ∧
      Comparison.eq.evaluate midnight elsewhere = false ∧
      [Comparison.gt.evaluate midnight elsewhere, Comparison.lt.evaluate midnight elsewhere,
        Comparison.gte.evaluate midnight elsewhere &&
          Comparison.lte.evaluate midnight elsewhere].count true = 1 ∧
      Comparison.gte.evaluate midnight .null = false ∧
      Comparison.gte.evaluate elsewhere before = true ∧
      Comparison.gte.evaluate midnight before = true := by
  intro midnight elsewhere before
  have hmidnight : Instant.ofText? "2024-06-01" = some 1717200000000000000 := by rfl
  have helsewhere : Instant.ofText? "2024-05-31T23:00:00-01:00" = some 1717200000000000000 := by rfl
  have hcomparable : midnight.Comparable elsewhere := .instants hmidnight helsewhere
  have hnull : ¬ (Json.string "2024-06-01").Comparable .null := by rintro ⟨⟩
  have hfirst : Comparison.gte.evaluate midnight elsewhere = true := by rfl
  have hsecond : Comparison.gte.evaluate elsewhere before = true := by rfl
  obtain ⟨-, hone, hnone, htrans, -⟩ := evaluate_laws
  exact ⟨hcomparable, hnull, by rfl, hone midnight elsewhere hcomparable,
    hnone midnight .null hnull .gte (by simp), hsecond,
    htrans midnight elsewhere before hfirst hsecond⟩

end Comparison

end QueryGuard
