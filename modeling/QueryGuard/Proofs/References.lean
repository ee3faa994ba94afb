import QueryGuard.Proofs.Substituting

/-!
# What takes the place of references

A query mentions the texts that are operands or stand in arrays that are
operands, at any depth. Those of them that are references have an image each, and
a query is `Replaced` by one that has these images in their places and is the same
everywhere else. Substitution resolves the references one after the other, each
once, and replaces the query in this sense (`substitute_replaces`).
-/

namespace QueryGuard

-- ---------------------------------------------------------------------------
-- Mentioning and replacing
-- ---------------------------------------------------------------------------

/-- The text stands in the value, but not in an object. -/
inductive Json.Mentions (text : String) : Json → Prop
  | text : Mentions text (.string text)
  | item {items : List Json} {item : Json} (member : item ∈ items) (inside : item.Mentions text) :
      Mentions text (.array items)

mutual
/-- The text stands in an operand. -/
inductive Node.Mentions (text : String) : Node → Prop
  | literal {value : Json} (h : value.Mentions text) : Node.Mentions text (.literal value)
  | constraint {query : Query} (h : query.Mentions text) : Node.Mentions text (.constraint query)
  | group {op : Logical} {children : List Query} {child : Query} (member : child ∈ children)
      (h : child.Mentions text) : Node.Mentions text (.group op children)
inductive Query.Mentions (text : String) : Query → Prop
  | clause {clauses : List (String × Node)} {clause : String × Node} (member : clause ∈ clauses)
      (h : clause.2.Mentions text) : Query.Mentions text ⟨clauses⟩
end

/-- References give way to their images, and nothing else changes. Images are not
looked into, and neither are objects. -/
inductive Json.Replaced (image : String → Json) : Json → Json → Prop
  | reference {text : String} (h : (Environment.reference? text).isSome = true) :
      Replaced image (.string text) (image text)
  | text {text : String} (h : Environment.reference? text = none) :
      Replaced image (.string text) (.string text)
  | array {items results : List Json} (h : List.Forall₂ (Replaced image) items results) :
      Replaced image (.array items) (.array results)
  | other {value : Json} (string : value.asString? = none) (array : value.asArray? = none) :
      Replaced image value value

mutual
/-- Only operands change: the form stays, and so do the operators of groups. -/
inductive Node.Replaced (image : String → Json) : Node → Node → Prop
  | literal {value result : Json} (h : value.Replaced image result) :
      Node.Replaced image (.literal value) (.literal result)
  | constraint {query result : Query} (h : query.Replaced image result) :
      Node.Replaced image (.constraint query) (.constraint result)
  | group {op : Logical} {children results : List Query}
      (h : List.Forall₂ (Query.Replaced image) children results) :
      Node.Replaced image (.group op children) (.group op results)
inductive Query.ReplacedClause (image : String → Json) : String × Node → String × Node → Prop
  | node {key : String} {node result : Node} (h : node.Replaced image result) :
      Query.ReplacedClause image (key, node) (key, result)
/-- The keys are the same, in the same order. -/
inductive Query.Replaced (image : String → Json) : Query → Query → Prop
  | clauses {clauses results : List (String × Node)}
      (h : List.Forall₂ (Query.ReplacedClause image) clauses results) :
      Query.Replaced image ⟨clauses⟩ ⟨results⟩
end

-- ---------------------------------------------------------------------------
-- The references of a query
-- ---------------------------------------------------------------------------

section
variable {text own : String} {items : List Json} {value result : Json}

@[simp] theorem Json.mentions_string : (Json.string own).Mentions text ↔ text = own := by
  constructor
  · rintro ⟨⟩
    rfl
  · rintro rfl
    exact .text

@[simp] theorem Json.mentions_array :
    (Json.array items).Mentions text ↔ ∃ item ∈ items, item.Mentions text := by
  constructor
  · rintro (_ | ⟨member, inside⟩)
    exact ⟨_, member, inside⟩
  · rintro ⟨item, member, inside⟩
    exact .item member inside

theorem Json.mem_referencesIn : text ∈ referencesIn items ↔ ∃ item ∈ items, text ∈ item.references := by
  induction items with
  | nil => simp [referencesIn]
  | cons item rest ih => simp [referencesIn, ih]

theorem Json.mem_references : text ∈ value.references ↔
    value.Mentions text ∧ (Environment.reference? text).isSome = true := by
  induction value using Json.induct with
  | string own =>
    rw [references, mentions_string]
    split
    next h => simp only [List.mem_singleton, and_iff_left_of_imp (fun he : text = own => he ▸ h)]
    next h =>
      refine iff_of_false List.not_mem_nil ?_
      rintro ⟨rfl, hreference⟩
      exact h hreference
  | array items ih =>
    rw [references, mem_referencesIn, mentions_array]
    constructor
    · rintro ⟨item, member, hm⟩
      obtain ⟨inside, hreference⟩ := (ih item member).mp hm
      exact ⟨⟨item, member, inside⟩, hreference⟩
    · rintro ⟨⟨item, member, inside⟩, hreference⟩
      exact ⟨item, member, (ih item member).mpr ⟨inside, hreference⟩⟩
  | _ =>
    refine iff_of_false List.not_mem_nil ?_
    rintro ⟨⟨⟩, -⟩

theorem Query.mentions_iff (text : String) :
    (∀ q : Query, q.Mentions text ↔ ∃ value ∈ q.literals, value.Mentions text) ∧
      ∀ node : Node, node.Mentions text ↔ ∃ value ∈ node.literals, value.Mentions text := by
  refine induct (fun own => ?_) (fun q ih => ?_) (fun op children ih => ?_) fun clauses ih => ?_
  · simp only [Node.literals, List.mem_singleton, exists_eq_left]
    constructor
    · rintro (h | _)
      exact h
    · exact .literal
  · rw [Node.literals, ← ih]
    constructor
    · rintro (_ | h)
      exact h
    · exact .constraint
  · simp only [mem_literals_group]
    constructor
    · rintro (_ | _ | ⟨member, h⟩)
      obtain ⟨value, hv, h⟩ := (ih _ member).mp h
      exact ⟨value, ⟨_, member, hv⟩, h⟩
    · rintro ⟨value, ⟨child, member, hv⟩, h⟩
      exact .group member ((ih child member).mpr ⟨value, hv, h⟩)
  · simp only [mem_literals]
    constructor
    · rintro ⟨member, h⟩
      obtain ⟨value, hv, h⟩ := (ih _ member).mp h
      exact ⟨value, ⟨_, member, hv⟩, h⟩
    · rintro ⟨value, ⟨clause, member, hv⟩, h⟩
      exact .clause member ((ih clause member).mpr ⟨value, hv, h⟩)

theorem Query.mem_references_iff {q : Query} : text ∈ q.references ↔
    q.Mentions text ∧ (Environment.reference? text).isSome = true := by
  rw [references, List.mem_eraseDups, (mentions_iff text).1]
  simp only [List.mem_flatMap, Json.mem_references]
  constructor
  · rintro ⟨value, hv, hmentions, hreference⟩
    exact ⟨⟨value, hv, hmentions⟩, hreference⟩
  · rintro ⟨⟨value, hv, hmentions⟩, hreference⟩
    exact ⟨value, hv, hmentions, hreference⟩

theorem nodup_eraseDups (items : List String) : items.eraseDups.Nodup := by
  match items with
  | [] => exact List.nodup_nil
  | item :: rest =>
    rw [List.eraseDups_cons, List.nodup_cons, List.mem_eraseDups]
    exact ⟨by simp, nodup_eraseDups _⟩
termination_by items.length
decreasing_by exact Nat.lt_succ_of_le (List.length_filter_le ..)

theorem Query.nodup_references (q : Query) : q.references.Nodup :=
  nodup_eraseDups _

end

-- ---------------------------------------------------------------------------
-- Replacing by look-up
-- ---------------------------------------------------------------------------

/-- References with their images. -/
def imagesOf (image : String → Json) (references : List String) : Members Json :=
  references.map fun reference => (reference, image reference)

theorem get?_imagesOf (image : String → Json) (references : List String) (text : String) :
    (imagesOf image references).get? text = if text ∈ references then some (image text) else none := by
  induction references with
  | nil => rfl
  | cons reference rest ih =>
    rw [imagesOf, List.map_cons, Members.get?_cons, ← imagesOf, ih]
    by_cases he : text = reference
    · simp [he]
    · simp [he]

section
variable {image : String → Json} {references : List String}

theorem Json.replaced_iff {value : Json}
    (hreferences : ∀ text ∈ references, (Environment.reference? text).isSome = true)
    (h : value.references ⊆ references) (result : Json) :
    value.Replaced image result ↔ result = value.replace (imagesOf image references) := by
  induction value using Json.induct generalizing result with
  | string text =>
    rw [replace, get?_imagesOf]
    cases hpath : Environment.reference? text with
    | none =>
      have hnot : text ∉ references := by
        intro hm
        simpa [hpath] using hreferences text hm
      rw [if_neg hnot]
      constructor
      · rintro (hown | _ | _ | ⟨⟨⟩, -⟩)
        · simp [hpath] at hown
        · rfl
      · rintro rfl
        exact .text hpath
    | some path =>
      have hm : text ∈ references := h (by simp [Json.references, hpath])
      rw [if_pos hm]
      constructor
      · rintro (_ | hown | _ | ⟨⟨⟩, -⟩)
        · rfl
        · cases hpath.symm.trans hown
      · rintro rfl
        exact .reference (by simp [hpath])
  | array items ih =>
    have hitems : ∀ item ∈ items, item.references ⊆ references := fun item member text ht =>
      h (Json.mem_referencesIn.mpr ⟨item, member, ht⟩)
    have hall : ∀ results, List.Forall₂ (Replaced image) items results ↔
        results = items.map (replace (imagesOf image references)) :=
      fun results => forall₂_iff_eq_map fun item member => ih item member (hitems item member)
    rw [replace, replaceIn_eq]
    constructor
    · rintro (_ | _ | hresults | ⟨-, ⟨⟩⟩)
      rw [(hall _).mp hresults]
    · rintro rfl
      exact .array ((hall _).mpr rfl)
  | _ =>
    constructor
    · rintro ⟨⟩
      rfl
    · rintro rfl
      exact .other rfl rfl

theorem Query.replaced_iff
    (hreferences : ∀ text ∈ references, (Environment.reference? text).isSome = true) :
    (∀ q : Query, (∀ value ∈ q.literals, value.references ⊆ references) → ∀ result,
      (q.Replaced image result ↔
        result = q.mapLiterals (Json.replace (imagesOf image references)))) ∧
    ∀ node : Node, (∀ value ∈ node.literals, value.references ⊆ references) → ∀ result,
      (node.Replaced image result ↔
        result = node.mapLiterals (Json.replace (imagesOf image references))) := by
  refine induct (fun own h result => ?_) (fun q ih h result => ?_)
    (fun op children ih h result => ?_) fun clauses ih h result => ?_
  · have hown : ∀ result, own.Replaced image result ↔
        result = own.replace (imagesOf image references) :=
      Json.replaced_iff hreferences (h own (by simp [Node.literals]))
    rw [Node.mapLiterals]
    constructor
    · rintro (h | _)
      rw [(hown _).mp h]
    · rintro rfl
      exact .literal ((hown _).mpr rfl)
  · have hq := ih h
    rw [Node.mapLiterals]
    constructor
    · rintro (_ | h)
      rw [(hq _).mp h]
    · rintro rfl
      exact .constraint ((hq _).mpr rfl)
  · have hall : ∀ results, List.Forall₂ (Query.Replaced image) children results ↔
        results = children.map (mapLiterals (Json.replace (imagesOf image references))) :=
      fun results => forall₂_iff_eq_map fun child member =>
        ih child member fun value hv => h value (mem_literals_group.mpr ⟨child, member, hv⟩)
    rw [Node.mapLiterals, mapLiteralsAll_eq]
    constructor
    · rintro (_ | _ | h)
      rw [(hall _).mp h]
    · rintro rfl
      exact .group ((hall _).mpr rfl)
  · have hclause : ∀ clause ∈ clauses, ∀ result, ReplacedClause image clause result ↔
        result = (clause.1, clause.2.mapLiterals (Json.replace (imagesOf image references))) := by
      rintro ⟨key, node⟩ member ⟨key', result⟩
      have hnode := ih _ member (fun value hv => h value (mem_literals.mpr ⟨_, member, hv⟩)) result
      rw [Prod.mk.injEq]
      constructor
      · rintro ⟨h⟩
        exact ⟨rfl, hnode.mp h⟩
      · rintro ⟨rfl, he⟩
        exact .node (hnode.mpr he)
    rw [mapLiterals, mapLiteralsClauses_eq]
    constructor
    · rintro ⟨h⟩
      rw [(forall₂_iff_eq_map hclause).mp h]
    · rintro rfl
      exact .clauses ((forall₂_iff_eq_map hclause).mpr rfl)

end

-- ---------------------------------------------------------------------------
-- Substitution
-- ---------------------------------------------------------------------------

namespace Resolution

/-- Each reference is resolved in the session that those before it leave, and its
image is what is found, or null where that is admitted. -/
inductive Resolves (mode : UnresolvedMode) (directory : Directory) (app : String)
    (image : String → Json) : Session → List String → Session → Prop
  | nil (s : Session) : Resolves mode directory app image s [] s
  | cons {s mid s' : Session} {reference : String} {rest : List String} {found : Option Json}
      (h : Runs (ofText directory app reference) s found mid)
      (value : image reference = found.getD .null) (admitted : found = none → mode = .null)
      (hrest : Resolves mode directory app image mid rest s') :
      Resolves mode directory app image s (reference :: rest) s'

section
variable {mode : UnresolvedMode} {directory : Directory} {app reference : String}
  {image other : String → Json} {references : List String} {s s' : Session} {value : Json}

theorem Resolves.congr (h : Resolves mode directory app image s references s')
    (he : ∀ reference ∈ references, other reference = image reference) :
    Resolves mode directory app other s references s' := by
  induction h with
  | nil s => exact .nil s
  | cons h value admitted hrest ih =>
    obtain ⟨hfirst, hothers⟩ := List.forall_mem_cons.mp he
    exact .cons h (hfirst.trans value) admitted (ih hothers)

theorem ofReferences_runs {values : Members Json} (hd : references.Nodup) :
    Runs (ofReferences mode directory app references) s values s' ↔
      ∃ image, Resolves mode directory app image s references s' ∧
        values = imagesOf image references := by
  induction references generalizing s s' values with
  | nil =>
    rw [ofReferences, runs_pure]
    constructor
    · rintro ⟨rfl, rfl⟩
      exact ⟨fun _ => .null, .nil _, rfl⟩
    · rintro ⟨image, ⟨⟩, rfl⟩
      exact ⟨rfl, rfl⟩
  | cons reference rest ih =>
    obtain ⟨hnew, hd⟩ := List.nodup_cons.mp hd
    rw [ofReferences, runs_bind]
    simp only [runs_bind, runs_pure, ofReference_runs, ih hd]
    constructor
    · rintro ⟨value, mid, ⟨found, h, hvalue, hadmitted⟩, _, last, ⟨image, hrest, rfl⟩, rfl, rfl⟩
      let all := fun text => if text = reference then value else image text
      have hall : ∀ text ∈ rest, all text = image text := by
        intro text ht
        exact if_neg (ne_of_mem_of_not_mem ht hnew)
      have hfirst : all reference = value := if_pos rfl
      refine ⟨all, .cons h (hfirst.trans hvalue) hadmitted (hrest.congr hall), ?_⟩
      rw [imagesOf, imagesOf, List.map_cons, hfirst]
      refine congrArg _ (List.map_congr_left fun text ht => ?_)
      rw [hall text ht]
    · rintro ⟨image, _ | ⟨h, hvalue, hadmitted, hrest⟩, rfl⟩
      exact ⟨_, _, ⟨_, h, hvalue, hadmitted⟩, _, _, ⟨image, hrest, rfl⟩, rfl, rfl⟩

theorem substitute_runs {q result : Query} :
    Runs (substitute mode directory app q) s result s' ↔
      ∃ image, Resolves mode directory app image s q.references s' ∧ q.Replaced image result := by
  have hreplaced : ∀ image, q.Replaced image result ↔
      result = q.mapLiterals (Json.replace (imagesOf image q.references)) := by
    intro image
    refine (Query.replaced_iff (fun text ht => (Query.mem_references_iff.mp ht).2)).1 q ?_ result
    intro value hv text ht
    exact List.mem_eraseDups.mpr (List.mem_flatMap.mpr ⟨value, hv, ht⟩)
  simp only [substitute, runs_bind, runs_pure, ofReferences_runs q.nodup_references, hreplaced]
  constructor
  · rintro ⟨_, _, ⟨image, hresolves, rfl⟩, rfl, rfl⟩
    exact ⟨image, hresolves, rfl⟩
  · rintro ⟨image, hresolves, rfl⟩
    exact ⟨_, _, ⟨image, hresolves, rfl⟩, rfl, rfl⟩

end

/-- Substitution gives each reference that the query mentions one image, by
resolving each of them once, and replaces them by it and nothing else. -/
theorem substitute_replaces (mode : UnresolvedMode) (directory : Directory) (app : String)
    (q : Query) :
    q.references.Nodup ∧
      (∀ text, text ∈ q.references ↔
        q.Mentions text ∧ (Environment.reference? text).isSome = true) ∧
      ∀ s result s', Runs (substitute mode directory app q) s result s' ↔
        ∃ image, Resolves mode directory app image s q.references s' ∧
          q.Replaced image result :=
  ⟨q.nodup_references, fun _ => Query.mem_references_iff, fun _ _ _ => substitute_runs⟩

/-- At any depth of arrays, and what is put in is not looked into. -/
example : Runs (substitute .null (.ofStore .empty) "app"
      (Query.ofField "x" (.array [.array [.string "env.a", .string "y"], .string "env.b"])))
    ⟨⟨[("a", .string "env.b"), ("b", .bool true)]⟩, 0⟩
    (Query.ofField "x" (.array [.array [.string "env.b", .string "y"], .bool true]))
    ⟨⟨[("a", .string "env.b"), ("b", .bool true)]⟩, 0⟩ := by
  rfl

end Resolution

end QueryGuard
