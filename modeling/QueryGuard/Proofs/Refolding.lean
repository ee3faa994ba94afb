import QueryGuard.Proofs.Gathering
import QueryGuard.Proofs.Interruption

/-!
# Folding again

What has been folded is folded again without a trace (`folds_again`), although
on the way what was overwritten comes back: a clause of a plain key is either the
last one under it, or a later one overwrites it once more, and a group has every
child by then. Projections only ever narrow, so they are narrowed to where they
are (`narrowings_again`). So rulings contribute nothing the second time
(`gather_again`).
-/

namespace QueryGuard

/-- What a key holds once the node is folded in under it, whatever stands there. A
group that is there keeps the operator that it was built with. -/
def Node.over : Node → Option Node → Node
  | .group _ incoming, some (.group own existing) => .group own (Query.unite existing incoming)
  | node, _ => node

/-- Folding the node in again makes no difference. -/
def Node.RestsIn : Node → Node → Prop
  | .group _ incoming, .group _ existing => ∀ child ∈ incoming, child.isIn existing = true
  | node, held => held = node

theorem Query.unite_of_isIn {existing incoming : List Query}
    (h : ∀ child ∈ incoming, child.isIn existing = true) :
    unite existing incoming = existing := by
  induction incoming with
  | nil => rfl
  | cons child rest ih =>
    obtain ⟨hchild, hrest⟩ := List.forall_mem_cons.mp h
    rw [unite, if_pos hchild]
    exact ih hrest

namespace Node

section
variable {node held : Node} {before : Option Node}

theorem RestsIn.over (h : node.RestsIn held) : node.over (some held) = held := by
  cases node with
  | group op incoming =>
    cases held with
    | group own existing => rw [Node.over, Query.unite_of_isIn h]
    | _ => cases h
  | _ => cases held <;> exact h.symm

theorem restsIn_over (hd : node.Distinct) : node.RestsIn (node.over before) := by
  cases node with
  | group op incoming =>
    have hincoming : ∀ child ∈ incoming, child.isIn incoming = true :=
      fun child hc => Query.isIn_of_mem (Query.distinct_group.mp hd child hc) hc
    cases before with
    | none => exact hincoming
    | some held =>
      cases held with
      | group own existing => exact fun child hc => Query.isIn_unite.mpr (.inr (hincoming child hc))
      | _ => exact hincoming
  | _ => cases before <;> rfl

theorem RestsIn.grown {later : Node} (hn : node.isGroup = true) (hl : later.isGroup = true)
    (h : node.RestsIn held) : node.RestsIn (later.over (some held)) := by
  cases node with
  | group op incoming =>
    cases held with
    | group own existing =>
      cases later with
      | group op' others => exact fun child hc => Query.isIn_unite.mpr (.inl (h child hc))
      | _ => cases hl
    | _ => cases h
  | _ => cases hn

end

end Node

-- ---------------------------------------------------------------------------
-- Clauses
-- ---------------------------------------------------------------------------

namespace Query

section
variable {target : Query} {key : String} {node held : Node} {steps : List (String × Node)}

theorem foldClause_eq_over (target : Query) (hn : node.Keyed key) :
    target.foldClause key node = target.put key (node.over (target.get? key)) := by
  cases node with
  | group op incoming =>
    obtain ⟨rfl, -⟩ := keyed_group.mp hn
    cases hheld : target.get? op.key with
    | none => simp [foldClause, group?, insertGroup, hheld, Node.over]
    | some held =>
      cases held <;> simp [foldClause, group?, withGroup, insertGroup, hheld, Node.over]
  | _ => rfl

/-- The clauses of fragments. -/
def Fitting (steps : List (String × Node)) : Prop :=
  ∀ clause ∈ steps, clause.2.WellFormed clause.1

theorem foldAll_cons : target.foldAll ⟨(key, node) :: steps⟩ =
    (target.foldClause key node).foldAll ⟨steps⟩ := rfl

theorem foldAll_append (target : Query) (before after : List (String × Node)) :
    target.foldAll ⟨before ++ after⟩ = (target.foldAll ⟨before⟩).foldAll ⟨after⟩ :=
  List.foldl_append

theorem get?_foldAll_of_mem (hs : Fitting steps) (h : target.get? key ≠ none) :
    (target.foldAll ⟨steps⟩).get? key ≠ none := by
  induction steps generalizing target with
  | nil => exact h
  | cons clause rest ih =>
    obtain ⟨hclause, hrest⟩ := List.forall_mem_cons.mp hs
    rw [foldAll_cons]
    apply ih hrest
    rw [foldClause_eq_over target hclause.keyed, get?_put]
    split
    · simp
    · exact h

theorem get?_foldAll_of_not_mem (hs : Fitting steps) (h : key ∉ Members.names steps) :
    (target.foldAll ⟨steps⟩).get? key = target.get? key := by
  induction steps generalizing target with
  | nil => rfl
  | cons clause rest ih =>
    obtain ⟨hclause, hrest⟩ := List.forall_mem_cons.mp hs
    obtain ⟨hne, hnot⟩ := not_or.mp (List.mem_cons.not.mp h)
    rw [foldAll_cons, ih hrest hnot, foldClause_eq_over target hclause.keyed, get?_put, if_neg hne]

theorem foldAll_put (hs : Fitting steps) (hkey : Logical.ofKey? key = none)
    (hheld : target.get? key ≠ none) (h : key ∈ Members.names steps) :
    (target.put key node).foldAll ⟨steps⟩ = target.foldAll ⟨steps⟩ := by
  induction steps generalizing target with
  | nil => cases h
  | cons clause rest ih =>
    obtain ⟨name, later⟩ := clause
    obtain ⟨hlater, hrest⟩ := List.forall_mem_cons.mp hs
    rw [foldAll_cons, foldAll_cons, foldClause_eq_over _ hlater.keyed,
      foldClause_eq_over _ hlater.keyed]
    by_cases he : name = key
    · subst he
      have hplain := plain_of_keyed hlater.keyed hkey
      have hover : ∀ before, later.over before = later := by
        intro before
        cases later with
        | group => cases hplain
        | _ => rfl
      rw [hover, hover, put, put, put, Members.put_put_self]
    · have hmem : key ∈ Members.names rest := (List.mem_cons.mp h).resolve_left (Ne.symm he)
      have hcomm : (target.put key node).put name (later.over (target.get? name)) =
          (target.put name (later.over (target.get? name))).put key node :=
        congrArg Query.mk (Members.put_comm hheld he node _)
      rw [get?_put, if_neg he, hcomm]
      apply ih hrest _ hmem
      rw [get?_put, if_neg (Ne.symm he)]
      exact hheld

theorem get?_foldAll_restsIn (hs : Fitting steps) (hk : node.Keyed key) (hn : node.isGroup = true)
    (hget : target.get? key = some held) (h : node.RestsIn held) :
    ∃ grown, (target.foldAll ⟨steps⟩).get? key = some grown ∧ node.RestsIn grown := by
  induction steps generalizing target held with
  | nil => exact ⟨held, hget, h⟩
  | cons clause rest ih =>
    obtain ⟨name, later⟩ := clause
    obtain ⟨hlater, hrest⟩ := List.forall_mem_cons.mp hs
    rw [foldAll_cons, foldClause_eq_over _ hlater.keyed]
    by_cases he : key = name
    · subst he
      have hgroup : later.isGroup = true := by
        cases node with
        | group op incoming =>
          obtain ⟨rfl, -⟩ := keyed_group.mp hk
          obtain ⟨children, rfl⟩ := exists_group_of_keyed hlater.keyed
          rfl
        | _ => cases hn
      rw [hget]
      exact ih hrest get?_put_self (h.grown hn hgroup)
    · have hheld : (target.put name (later.over (target.get? name))).get? key = some held := by
        rw [get?_put, if_neg he, hget]
      exact ih hrest hheld h

/-- Clauses that have been folded in are folded in again without a trace: under a
plain key the last one decides, before and after, and a group has them all. -/
theorem foldAll_again (target : Query) (hs : Fitting steps) :
    (target.foldAll ⟨steps⟩).foldAll ⟨steps⟩ = target.foldAll ⟨steps⟩ := by
  suffices h : ∀ before after, steps = before ++ after →
      (target.foldAll ⟨steps⟩).foldAll ⟨after⟩ = target.foldAll ⟨steps⟩ from h [] steps rfl
  intro before after he
  induction after generalizing before with
  | nil => rfl
  | cons clause rest ih =>
    obtain ⟨key, node⟩ := clause
    have hrest := ih (before ++ [(key, node)]) (by simp [he])
    have hclause : node.WellFormed key := hs (key, node) (by simp [he])
    have hlater : Fitting rest := fun clause hc => hs clause (by simp [he, hc])
    -- What the clause leaves, and what is folded in after it.
    let left := (target.foldAll ⟨before⟩).put key (node.over ((target.foldAll ⟨before⟩).get? key))
    have hleft : target.foldAll ⟨steps⟩ = left.foldAll ⟨rest⟩ := by
      rw [he, foldAll_append, foldAll_cons, foldClause_eq_over _ hclause.keyed]
    have hheld : left.get? key = some (node.over ((target.foldAll ⟨before⟩).get? key)) := get?_put_self
    have hrests : node.RestsIn (node.over ((target.foldAll ⟨before⟩).get? key)) :=
      Node.restsIn_over hclause.distinct
    have hsettled : ∀ held, (target.foldAll ⟨steps⟩).get? key = some held → node.RestsIn held →
        (target.foldAll ⟨steps⟩).foldClause key node = target.foldAll ⟨steps⟩ := by
      intro held hget hrest
      rw [foldClause_eq_over _ hclause.keyed, hget, hrest.over]
      exact put_self hget
    rw [foldAll_cons]
    by_cases hgroup : node.isGroup = true
    · obtain ⟨held, hget, hrest'⟩ :=
        get?_foldAll_restsIn hlater hclause.keyed hgroup hheld hrests
      rw [hsettled held (hleft ▸ hget) hrest', hrest]
    · by_cases hwritten : key ∈ Members.names rest
      · have hplain := keyed_plain hclause.keyed (Bool.of_not_eq_true hgroup)
        have hthere : (target.foldAll ⟨steps⟩).get? key ≠ none := by
          rw [hleft]
          exact get?_foldAll_of_mem hlater (by simp [hheld])
        rw [foldClause_eq_over _ hclause.keyed, foldAll_put hlater hplain hthere hwritten, hrest]
      · rw [hsettled _ ?_ hrests, hrest]
        rw [hleft, get?_foldAll_of_not_mem hlater hwritten, hheld]

theorem folds_again {fragments : List Query}
    (hf : ∀ fragment ∈ fragments, fragment.WellFormed) (target : Query) :
    fragments.foldl foldAll (fragments.foldl foldAll target) = fragments.foldl foldAll target := by
  have hone : ∀ target : Query, fragments.foldl foldAll target =
      target.foldAll ⟨fragments.flatMap clauses⟩ := by
    intro target
    rw [foldAll, List.foldl_flatMap]
    rfl
  rw [hone, hone]
  refine foldAll_again target fun clause hc => ?_
  obtain ⟨fragment, hm, hc⟩ := List.mem_flatMap.mp hc
  exact (hf fragment hm).of_mem hc

end

end Query

-- ---------------------------------------------------------------------------
-- Projections
-- ---------------------------------------------------------------------------

namespace Projection

section
variable {p other : Projection}

theorem subset_unite {fields others : List String} : fields ⊆ unite fields others := by
  induction others generalizing fields with
  | nil => exact List.Subset.refl _
  | cons field rest ih =>
    rw [unite]
    refine List.Subset.trans ?_ ih
    split
    · exact List.Subset.refl _
    · exact List.subset_append_left ..

theorem subset_unite_right {fields others : List String} : others ⊆ unite fields others := by
  induction others generalizing fields with
  | nil => exact List.nil_subset _
  | cons field rest ih =>
    rw [unite]
    apply List.cons_subset.mpr ⟨subset_unite ?_, ih⟩
    split
    next hin => exact hin
    · simp

theorem unite_of_subset {fields others : List String} (h : others ⊆ fields) :
    unite fields others = fields := by
  induction others with
  | nil => rfl
  | cons field rest ih =>
    obtain ⟨hfield, hrest⟩ := List.cons_subset.mp h
    rw [unite, if_pos hfield, ih hrest]

/-- The projection returns nothing that the other does not. -/
structure Within (p other : Projection) : Prop where
  included : ∀ theirs, other.included = some theirs → ∃ own, p.included = some own ∧ own ⊆ theirs
  excluded : other.excluded ⊆ p.excluded

theorem Within.refl (p : Projection) : p.Within p :=
  ⟨fun theirs h => ⟨theirs, h, List.Subset.refl _⟩, List.Subset.refl _⟩

theorem Within.narrow_eq (h : p.Within other) : p.narrow other = p := by
  obtain ⟨included, excluded⟩ := p
  unfold narrow
  rw [unite_of_subset h.excluded]
  cases htheirs : other.included with
  | none => cases included <;> rfl
  | some theirs =>
    obtain ⟨own, rfl, hsub⟩ := h.included theirs htheirs
    have hall : own.filter (fun field => theirs.contains field) = own :=
      List.filter_eq_self.mpr fun field hf => by simpa using hsub hf
    simp only [hall]

theorem narrow_within (p other : Projection) : (p.narrow other).Within other := by
  refine ⟨fun theirs h => ?_, subset_unite_right⟩
  unfold narrow
  rw [h]
  cases p.included with
  | none => exact ⟨theirs, rfl, List.Subset.refl _⟩
  | some own => exact ⟨_, rfl, fun field hf => by simpa using (List.mem_filter.mp hf).2⟩

theorem Within.narrow (h : p.Within other) (later : Projection) :
    (p.narrow later).Within other := by
  refine ⟨fun theirs htheirs => ?_, List.Subset.trans h.excluded subset_unite⟩
  obtain ⟨own, hown, hsub⟩ := h.included theirs htheirs
  unfold Projection.narrow
  rw [hown]
  cases later.included with
  | none => exact ⟨own, rfl, hsub⟩
  | some others => exact ⟨_, rfl, fun field hf => hsub (List.mem_filter.mp hf).1⟩

end

/-- Narrows what there is so far; at first that is every field. -/
def narrowing (current : Option Projection) (own : Projection) : Option Projection :=
  some (current.elim own fun p => p.narrow own)

theorem narrowings_within {projections : List Projection} {own : Projection} {current : Option Projection}
    (h : own ∈ projections ∨ ∃ p, current = some p ∧ p.Within own) :
    ∃ p, projections.foldl narrowing current = some p ∧ p.Within own := by
  induction projections generalizing current with
  | nil => exact h.resolve_left List.not_mem_nil
  | cons first rest ih =>
    apply ih
    rcases h with h | ⟨p, rfl, hp⟩
    · rcases List.mem_cons.mp h with rfl | h
      · right
        cases current with
        | none => exact ⟨own, rfl, .refl own⟩
        | some p => exact ⟨p.narrow own, rfl, narrow_within p own⟩
      · exact .inl h
    · exact .inr ⟨p.narrow first, rfl, hp.narrow first⟩

theorem narrowings_again (projections : List Projection) (current : Option Projection) :
    projections.foldl narrowing (projections.foldl narrowing current) =
      projections.foldl narrowing current := by
  have hsettled : ∀ own ∈ projections, narrowing (projections.foldl narrowing current) own =
      projections.foldl narrowing current := by
    intro own ho
    obtain ⟨p, hp, hwithin⟩ : ∃ p, projections.foldl narrowing current = some p ∧ p.Within own :=
      narrowings_within (.inl ho)
    rw [hp, narrowing, Option.elim_some, hwithin.narrow_eq]
  generalize projections.foldl narrowing current = settled at hsettled
  induction projections with
  | nil => rfl
  | cons own rest ih =>
    obtain ⟨hown, hrest⟩ := List.forall_mem_cons.mp hsettled
    rw [List.foldl_cons, hown, ih hrest]

end Projection

-- ---------------------------------------------------------------------------
-- Rulings
-- ---------------------------------------------------------------------------

/-- The projection that a rule that applied contributes. -/
def Ruling.projection? (r : Ruling) : Option Projection :=
  if r.verdict.isApplied then r.projection else none

namespace RequestContext

theorem gather_accessProjection (ctx : RequestContext) (rulings : List Ruling) :
    (ctx.gather rulings).accessProjection =
      (rulings.filterMap Ruling.projection?).foldl Projection.narrowing ctx.accessProjection := by
  induction rulings generalizing ctx with
  | nil => rfl
  | cons r rest ih =>
    rw [gather_cons, ih, List.filterMap_cons]
    cases hv : r.verdict with
    | applies fragment =>
      cases hp : r.projection with
      | none => simp [Ruling.contribute, Ruling.projection?, Verdict.isApplied, hv, hp]
      | some own =>
        cases hc : ctx.accessProjection <;>
          simp [Ruling.contribute, Ruling.projection?, Verdict.isApplied, Projection.narrowing, hv,
            hp, hc]
    | _ => simp [Ruling.contribute, Ruling.projection?, Verdict.isApplied, hv]

theorem gather_again {rulings : List Ruling}
    (hr : ∀ r ∈ rulings, ∀ fragment, r.fragment? = some fragment → fragment.WellFormed)
    (ctx : RequestContext) : (ctx.gather rulings).gather rulings = ctx.gather rulings := by
  have hfragments : ∀ fragment ∈ rulings.filterMap Ruling.fragment?, fragment.WellFormed := by
    intro fragment hm
    obtain ⟨r, hmem, hfragment⟩ := List.mem_filterMap.mp hm
    exact hr r hmem fragment hfragment
  have hprojection : ((ctx.gather rulings).gather rulings).accessProjection =
      (ctx.gather rulings).accessProjection := by
    rw [gather_accessProjection, gather_accessProjection, Projection.narrowings_again]
  have hquery : ((ctx.gather rulings).gather rulings).accessQuery =
      (ctx.gather rulings).accessQuery := by
    have hcontents : ((ctx.gather rulings).gather rulings).accessQuery.getD Query.empty =
        (ctx.gather rulings).accessQuery.getD Query.empty := by
      rw [gather_accessQuery, gather_accessQuery, Query.folds_again hfragments]
    have hnone : ((ctx.gather rulings).gather rulings).accessQuery = none ↔
        (ctx.gather rulings).accessQuery = none := by
      simp only [gather_accessQuery_eq_none, and_assoc, and_self]
    cases hfirst : (ctx.gather rulings).accessQuery with
    | none => exact hnone.mpr hfirst
    | some first =>
      cases hsecond : ((ctx.gather rulings).gather rulings).accessQuery with
      | none => rw [hnone.mp hsecond] at hfirst; cases hfirst
      | some second =>
        rw [hfirst, hsecond] at hcontents
        exact congrArg some hcontents
  rw [gather_frame (ctx.gather rulings) rulings, hquery, hprojection]

end RequestContext

end QueryGuard
