import QueryGuard.Proofs.WellFormed

/-!
# Writings

A query is filled place by place: an operand goes to its place, and so do the
maps and the groups that it stands in. `Stands` says of a list of writings
which of them are still there at the end, and `Records` that a query holds
those and nothing that was not written.
-/

namespace QueryGuard

/-- One level down: what stands under a key, or a child of a group. -/
inductive Step where
  | key (name : String)
  | child (index : Nat)
  deriving DecidableEq

/-- The way down from a query to a node inside it. -/
abbrev Place := List Step

inductive Content where
  | operand (value : Json)
  | map
  | group

@[ext] structure Writing where
  place : Place
  content : Content

namespace Writing

/-- The map that a query is. -/
def root : Writing := ⟨[], .map⟩

def under (step : Step) (w : Writing) : Writing := ⟨step :: w.place, w.content⟩

def isLeaf (w : Writing) : Bool :=
  match w.content with
  | .operand _ => true
  | _ => false

/-- A map joins what stands at its place if that is a map as well. Anything else
takes its place, and an operand has nothing below it. -/
def Overrides (later earlier : Writing) : Prop :=
  later ≠ earlier ∧ later.place <+: earlier.place ∧
    (later.place = earlier.place ∨ ∃ value, later.content = .operand value)

/-- The writing is made, and none of those after it overrides it. -/
def Stands (writings : List Writing) (w : Writing) : Prop :=
  ∃ before after, writings = before ++ w :: after ∧ ∀ later ∈ after, ¬later.Overrides w

section
variable {step other : Step} {w later earlier : Writing} {first second : List Writing}

theorem overrides_under :
    (later.under step).Overrides (earlier.under step) ↔ later.Overrides earlier := by
  simp [Overrides, under, List.cons_prefix_cons, Writing.ext_iff]

theorem isLeaf_iff : w.isLeaf = true ↔ ∃ value, w.content = .operand value := by
  cases h : w.content <;> simp [isLeaf, h]

theorem Stands.mem (h : Stands first w) : w ∈ first := by
  obtain ⟨before, after, rfl, -⟩ := h
  simp

theorem stands_append : Stands (first ++ second) w ↔
    Stands second w ∨ (Stands first w ∧ ∀ later ∈ second, ¬later.Overrides w) := by
  constructor
  · rintro ⟨before, after, he, hafter⟩
    rcases List.append_eq_append_iff.mp he with ⟨middle, rfl, hs⟩ | ⟨middle, rfl, hs⟩
    · exact .inl ⟨middle, after, hs, hafter⟩
    · cases middle with
      | nil => exact .inl ⟨[], after, by simpa using hs.symm, hafter⟩
      | cons _ rest =>
        obtain ⟨rfl, rfl⟩ := List.cons.inj hs
        refine .inr ⟨⟨before, rest, rfl, fun later hl => ?_⟩, fun later hl => ?_⟩
        · exact hafter later (List.mem_append_left _ hl)
        · exact hafter later (List.mem_append_right _ hl)
  · rintro (⟨before, after, rfl, hafter⟩ | ⟨⟨before, after, rfl, hafter⟩, hsecond⟩)
    · exact ⟨first ++ before, after, by simp, hafter⟩
    · refine ⟨before, after ++ second, by simp, fun later hl => ?_⟩
      exact (List.mem_append.mp hl).elim (hafter later) (hsecond later)

theorem Stands.of_cons (h : Stands (later :: first) w) : w = later ∨ Stands first w := by
  rcases (stands_append : Stands ([later] ++ first) w ↔ _).mp h with h | ⟨h, -⟩
  · exact .inr h
  · exact .inl (by simpa using h.mem)

theorem Stands.cons (h : Stands first w) : Stands (later :: first) w :=
  (stands_append : Stands ([later] ++ first) w ↔ _).mpr (.inl h)

theorem stands_of_pairwise (h : first.Pairwise fun earlier later => ¬later.Overrides earlier)
    (hm : w ∈ first) : Stands first w := by
  obtain ⟨before, after, rfl⟩ := List.append_of_mem hm
  exact ⟨before, after, rfl, (List.pairwise_cons.mp (List.pairwise_append.mp h).2.1).1⟩

theorem Stands.of_map_under (h : Stands (first.map (under step)) w) :
    ∃ inner, w = inner.under step ∧ Stands first inner := by
  obtain ⟨before, after, he, hafter⟩ := h
  obtain ⟨before', rest, rfl, rfl, hrest⟩ := List.map_eq_append_iff.mp he
  obtain ⟨inner, after', rfl, rfl, rfl⟩ := List.map_eq_cons_iff.mp hrest
  refine ⟨inner, rfl, before', after', rfl, fun later hl hover => ?_⟩
  exact hafter _ (List.mem_map_of_mem hl) (overrides_under.mpr hover)

end

end Writing

-- ---------------------------------------------------------------------------
-- Looking a place up
-- ---------------------------------------------------------------------------

namespace Node

def content : Node → Content
  | .literal value => .operand value
  | .constraint _ => .map
  | .group .. => .group

def step? : Step → Node → Option Node
  | .key name, .constraint query => query.get? name
  | .child index, .group _ children => children[index]?.map .constraint
  | _, _ => none

def at? : Place → Node → Option Node
  | [], node => some node
  | step :: rest, node => (node.step? step).bind (at? rest)

/-- The place holds what was written there. -/
def Shows (node : Node) (w : Writing) : Prop :=
  (node.at? w.place).map content = some w.content

section
variable {node inner : Node} {step : Step} {place rest : Place} {c d : Content} {value : Json}

theorem shows_nil : node.Shows ⟨[], c⟩ ↔ node.content = c := by
  simp [Shows, at?]

theorem shows_cons :
    node.Shows ⟨step :: rest, c⟩ ↔
      ∃ inner, node.step? step = some inner ∧ inner.Shows ⟨rest, c⟩ := by
  unfold Shows
  cases h : node.step? step <;> simp [at?, h]

theorem Shows.below_operand (h : node.Shows ⟨place, .operand value⟩)
    (h' : node.Shows ⟨place ++ rest, c⟩) : rest = [] ∧ c = .operand value := by
  induction place generalizing node with
  | nil =>
    cases node with
    | literal =>
      cases rest with
      | nil => exact ⟨rfl, (shows_nil.mp h').symm.trans (shows_nil.mp h)⟩
      | cons step rest => cases step <;> simp [Shows, at?, step?] at h'
    | _ => cases shows_nil.mp h
  | cons step place ih =>
    obtain ⟨inner, hs, hi⟩ := shows_cons.mp h
    obtain ⟨inner', hs', hi'⟩ := shows_cons.mp h'
    obtain rfl := Option.some.inj (hs.symm.trans hs')
    exact ih hi hi'

theorem Shows.eq_of_below {leaf w : Writing} (h : node.Shows leaf) (hl : leaf.isLeaf = true)
    (h' : node.Shows w) (hp : leaf.place <+: w.place) : w = leaf := by
  obtain ⟨value, hv⟩ := Writing.isLeaf_iff.mp hl
  obtain ⟨place, c⟩ := leaf
  obtain ⟨below, d⟩ := w
  obtain ⟨rest, rfl⟩ := hp
  cases hv
  obtain ⟨rfl, rfl⟩ := h.below_operand h'
  simp

end

end Node

-- ---------------------------------------------------------------------------
-- Queries as records of writings
-- ---------------------------------------------------------------------------

/-- What still stands is there, and all that is there was written. -/
structure Node.Records (node : Node) (writings : List Writing) : Prop where
  shown : ∀ w, Writing.Stands writings w → node.Shows w
  written : ∀ w, node.Shows w → w ∈ writings

/-- The same of a query, itself apart. -/
def Query.Records (q : Query) (writings : List Writing) : Prop :=
  (Node.constraint q).Records (Writing.root :: writings)

theorem exists_last {α : Type} {p : α → Prop} {values : List α}
    (h : ∃ a ∈ values, p a) :
    ∃ before a after, values = before ++ a :: after ∧ p a ∧ ∀ b ∈ after, ¬p b := by
  induction values with
  | nil => simp at h
  | cons first rest ih =>
    by_cases hrest : ∃ a ∈ rest, p a
    · obtain ⟨before, a, after, rfl, ha, hafter⟩ := ih hrest
      exact ⟨first :: before, a, after, rfl, ha, hafter⟩
    · obtain ⟨a, hm, ha⟩ := h
      rcases List.mem_cons.mp hm with rfl | hm
      · exact ⟨[], a, rest, rfl, ha, fun b hb hp => hrest ⟨b, hb, hp⟩⟩
      · exact absurd ⟨a, hm, ha⟩ hrest

/-- All operands are there at the end exactly if all still stand. One that does
not is not there: the last writing that overrides it is there in its stead. -/
theorem Node.Records.leaves_iff {node : Node} {writings : List Writing}
    (h : node.Records writings) :
    (∀ w ∈ writings, w.isLeaf = true → node.Shows w) ↔
      ∀ w ∈ writings, w.isLeaf = true → Writing.Stands writings w := by
  refine ⟨fun hall w hm hleaf => ?_, fun hall w hm hleaf => h.shown w (hall w hm hleaf)⟩
  have hshown := hall w hm hleaf
  have hunique : ∀ y ∈ writings, y.isLeaf = true → y.place <+: w.place → y = w :=
    fun y hy hleaf' hp => ((hall y hy hleaf').eq_of_below hleaf' hshown hp).symm
  obtain ⟨before, w, after, rfl, rfl, hlast⟩ := exists_last ⟨w, hm, rfl⟩
  refine ⟨before, after, rfl, fun later hl hover => ?_⟩
  obtain ⟨between, y, rest, rfl, hy, hrest⟩ := exists_last (p := (·.Overrides w)) ⟨later, hl, hover⟩
  have hleaf' : y.isLeaf = false := by
    rw [Bool.eq_false_iff]
    exact fun hleaf' => hy.1 (hunique y (by simp) hleaf' hy.2.1)
  have hplace : y.place = w.place := hy.2.2.resolve_right fun hc => by
    simp [Writing.isLeaf_iff.mpr hc] at hleaf'
  have hstands : Writing.Stands (before ++ w :: (between ++ y :: rest)) y := by
    refine ⟨before ++ w :: between, rest, by simp, fun z hz hover' => ?_⟩
    refine hrest z hz ⟨?_, hplace ▸ hover'.2.1, hplace ▸ hover'.2.2⟩
    exact fun he => hlast z (by simp [hz]) he.symm
  have := hshown.eq_of_below hleaf (h.shown y hstands) (hplace ▸ List.prefix_refl _)
  exact hy.1 this

theorem Query.Records.leaves_iff {q : Query} {writings : List Writing} (h : q.Records writings) :
    (∀ w ∈ writings.filter Writing.isLeaf, (Node.constraint q).Shows w) ↔
      ∀ w ∈ writings.filter Writing.isLeaf, Writing.Stands writings w := by
  have hroot : ∀ w : Writing, w.isLeaf = true → w ≠ .root := by
    rintro w hleaf rfl
    cases hleaf
  have hleaves := Node.Records.leaves_iff h
  constructor
  · intro hall w hw
    obtain ⟨hm, hleaf⟩ := List.mem_filter.mp hw
    have hstands := hleaves.mp (fun y hy hl => hall y (List.mem_filter.mpr
      ⟨(List.mem_cons.mp hy).resolve_left (hroot y hl), hl⟩)) w (List.mem_cons_of_mem _ hm) hleaf
    exact hstands.of_cons.resolve_left (hroot w hleaf)
  · exact fun hall w hw => h.shown w (hall w hw).cons

end QueryGuard
