import QueryGuard.Proofs.Lowering
import QueryGuard.Proofs.RoundTrip
import QueryGuard.Proofs.Skipped

/-!
# What substitution puts in

Lowered fragments have no objects among their operands. Values that are put in
for references may be objects, and then an operand is one: where there is a
reference to an object, and nowhere else (`objectless_replace`,
`ofReferences_denotes`).
-/

namespace QueryGuard

-- ---------------------------------------------------------------------------
-- Lowered fragments
-- ---------------------------------------------------------------------------

namespace Query

theorem mem_writingsOf {clauses : List (String × Node)} {w : Writing} :
    w ∈ writingsOf clauses ↔ ∃ clause ∈ clauses, w ∈ clause.2.writings clause.1 := by
  induction clauses with
  | nil => simp [writingsOf]
  | cons clause rest ih => simp [writingsOf, ih]

theorem mem_writingsAll {children : List Query} {index : Nat} {w : Writing}
    (h : w ∈ writingsAll index children) : ∃ child ∈ children, ∃ inner step,
      inner ∈ Writing.root :: child.writings ∧ w = inner.under step := by
  induction children generalizing index with
  | nil => cases h
  | cons child rest ih =>
    obtain ⟨clauses⟩ := child
    rw [writingsAll, List.mem_append] at h
    rcases h with h | h
    · obtain ⟨inner, hi, rfl⟩ := List.mem_map.mp h
      exact ⟨⟨clauses⟩, by simp, inner, .child index, hi, rfl⟩
    · obtain ⟨own, ho, found⟩ := ih h
      exact ⟨own, List.mem_cons_of_mem _ ho, found⟩

theorem mem_literals_of_writings :
    (∀ q : Query, ∀ w ∈ q.writings, ∀ value, w.content = .operand value → value ∈ q.literals) ∧
      ∀ node : Node, ∀ key, ∀ w ∈ node.writings key, ∀ value, w.content = .operand value →
        value ∈ node.literals := by
  have hroot : ∀ {q : Query} {w : Writing} {value : Json},
      (∀ w ∈ q.writings, ∀ value, w.content = .operand value → value ∈ q.literals) →
      w ∈ Writing.root :: q.writings → w.content = .operand value → value ∈ q.literals := by
    intro q w value ih hw hv
    rcases List.mem_cons.mp hw with rfl | hw
    · cases hv
    · exact ih w hw value hv
  refine induct (fun own key w hw value hv => ?_) (fun q ih key w hw value hv => ?_)
    (fun op children ih key w hw value hv => ?_) fun clauses ih w hw value hv => ?_
  · obtain rfl := List.mem_singleton.mp hw
    cases hv
    simp [Node.literals]
  · obtain ⟨clauses⟩ := q
    rw [Node.literals]
    rw [Node.writings] at hw
    split at hw
    · obtain ⟨inner, hi, hw⟩ := List.mem_flatMap.mp hw
      refine ih inner hi value ?_
      unfold Writing.compared at hw
      split at hw
      next own ho =>
        rcases List.mem_pair.mp hw with rfl | rfl
        · cases hv
        · exact ho.trans hv
      · exact List.mem_singleton.mp hw ▸ hv
    · obtain ⟨inner, hi, rfl⟩ := List.mem_map.mp hw
      exact hroot ih hi hv
  · rw [Node.writings] at hw
    obtain ⟨inner, hi, rfl⟩ := List.mem_map.mp hw
    rcases List.mem_cons.mp hi with rfl | hi
    · cases hv
    · obtain ⟨child, hc, own, step, ho, rfl⟩ := mem_writingsAll hi
      exact mem_literals_group.mpr ⟨child, hc, hroot (ih child hc) ho hv⟩
  · obtain ⟨clause, hc, hw⟩ := mem_writingsOf.mp hw
    exact mem_literals.mpr ⟨clause, hc, ih clause hc clause.1 w hw value hv⟩

theorem exists_shows_of_mem_literals :
    (∀ q : Query, q.Keyed → ∀ value ∈ q.literals,
      ∃ place, (Node.constraint q).Shows ⟨place, .operand value⟩) ∧
      ∀ node : Node, ∀ key, node.Keyed key → ∀ value ∈ node.literals,
        ∃ place, node.Shows ⟨place, .operand value⟩ := by
  refine induct (fun own key hk value hv => ?_) (fun q ih key hk value hv => ih hk.2 value hv)
    (fun op children ih key hk value hv => ?_) fun clauses ih hk value hv => ?_
  · obtain rfl : value = own := by simpa [Node.literals] using hv
    exact ⟨[], Node.shows_nil.mpr rfl⟩
  · obtain ⟨child, hc, hv⟩ := mem_literals_group.mp hv
    obtain ⟨place, hshows⟩ := ih child hc ((keyed_group.mp hk).2 child hc) value hv
    obtain ⟨index, hindex⟩ := List.mem_iff_getElem?.mp hc
    exact ⟨.child index :: place, Node.shows_cons.mpr ⟨_, by simp [Node.step?, hindex], hshows⟩⟩
  · obtain ⟨⟨key, node⟩, hc, hv⟩ := mem_literals.mp hv
    obtain ⟨place, hshows⟩ := ih _ hc key ((keyed_iff.mp hk).2 _ hc) value hv
    exact ⟨.key key :: place, shows_key.mpr ⟨node, get?_of_mem hk hc, hshows⟩⟩

theorem lower_literals {q native : Query} (hk : q.Keyed) (h : q.lower = .ok native) :
    native.Keyed ∧ native.literals ⊆ q.literals := by
  obtain ⟨hkeyed, hrecords⟩ := lowering_records.1 q hk false native h
  refine ⟨hkeyed, fun value hv => ?_⟩
  obtain ⟨place, hshows⟩ := exists_shows_of_mem_literals.1 native hkeyed value hv
  rcases List.mem_cons.mp (hrecords.written _ hshows) with he | hw
  · cases he
  · exact mem_literals_of_writings.1 q _ hw value rfl

end Query

theorem Json.lower?_objectless {fragment : Json} {lowered : Query}
    (h : fragment.lower? = .ok (some lowered)) : lowered.Keyed ∧ lowered.Objectless := by
  obtain ⟨q, hread, hlower⟩ := Json.lower?_eq_some_iff.mp h
  obtain ⟨hk, hliterals⟩ := Query.lower_literals (Query.ofJson_well hread).1 hlower
  exact ⟨hk, fun value hv => Query.ofJson_objectless hread value (hliterals hv)⟩

-- ---------------------------------------------------------------------------
-- Putting values in
-- ---------------------------------------------------------------------------

namespace Query

section
variable {f : Json → Json} {q : Query} {node : Node} {key : String} {value : Json}

theorem mapLiteralsClauses_eq (f : Json → Json) (clauses : List (String × Node)) :
    mapLiteralsClauses f clauses = clauses.map fun clause => (clause.1, clause.2.mapLiterals f) := by
  induction clauses with
  | nil => rfl
  | cons clause rest ih => simp [mapLiteralsClauses, ih]

theorem mapLiteralsAll_eq (f : Json → Json) (children : List Query) :
    mapLiteralsAll f children = children.map (mapLiterals f) := by
  induction children with
  | nil => rfl
  | cons child rest ih => simp [mapLiteralsAll, ih]

theorem mem_mapLiterals (f : Json → Json) (value : Json) :
    (∀ q : Query, value ∈ (q.mapLiterals f).literals ↔ ∃ own ∈ q.literals, f own = value) ∧
      ∀ node : Node, value ∈ (node.mapLiterals f).literals ↔
        ∃ own ∈ node.literals, f own = value := by
  refine induct (fun own => ?_) (fun q ih => ?_) (fun op children ih => ?_) fun clauses ih => ?_
  · simp [Node.mapLiterals, Node.literals, eq_comm]
  · rw [Node.mapLiterals, Node.literals, Node.literals, ih]
  · simp only [Node.mapLiterals, mapLiteralsAll_eq, mem_literals_group, List.mem_map]
    constructor
    · rintro ⟨_, ⟨child, hc, rfl⟩, hv⟩
      obtain ⟨own, ho, rfl⟩ := (ih child hc).mp hv
      exact ⟨own, ⟨child, hc, ho⟩, rfl⟩
    · rintro ⟨own, ⟨child, hc, ho⟩, rfl⟩
      exact ⟨_, ⟨child, hc, rfl⟩, (ih child hc).mpr ⟨own, ho, rfl⟩⟩
  · simp only [mapLiterals, mapLiteralsClauses_eq, mem_literals, List.mem_map]
    constructor
    · rintro ⟨_, ⟨clause, hc, rfl⟩, hv⟩
      obtain ⟨own, ho, rfl⟩ := (ih clause hc).mp hv
      exact ⟨own, ⟨clause, hc, ho⟩, rfl⟩
    · rintro ⟨own, ⟨clause, hc, ho⟩, rfl⟩
      exact ⟨_, ⟨clause, hc, rfl⟩, (ih clause hc).mpr ⟨own, ho, rfl⟩⟩

theorem get?_mapLiterals (f : Json → Json) (q : Query) (key : String) :
    (q.mapLiterals f).get? key = (q.get? key).map (Node.mapLiterals f) := by
  obtain ⟨clauses⟩ := q
  rw [mapLiterals, mapLiteralsClauses_eq, get?, get?]
  induction clauses with
  | nil => rfl
  | cons clause rest ih =>
    rw [List.map_cons, Members.get?_cons, Members.get?_cons, ih]
    split <;> rfl

theorem keyed_mapLiterals (f : Json → Json) :
    (∀ q : Query, q.Keyed → (q.mapLiterals f).Keyed) ∧
      ∀ node : Node, ∀ key, node.Keyed key → (node.mapLiterals f).Keyed key := by
  refine induct (fun own key hk => hk) (fun q ih key hk => ⟨hk.1, ih hk.2⟩)
    (fun op children ih key hk => ?_) fun clauses ih hk => ?_
  · obtain ⟨hkey, hchildren⟩ := keyed_group.mp hk
    rw [Node.mapLiterals, mapLiteralsAll_eq]
    refine keyed_group.mpr ⟨hkey, fun child hc => ?_⟩
    obtain ⟨own, ho, rfl⟩ := List.mem_map.mp hc
    exact ih own ho (hchildren own ho)
  · obtain ⟨hd, hkeys⟩ := keyed_iff.mp hk
    rw [mapLiterals, mapLiteralsClauses_eq]
    refine keyed_iff.mpr ⟨?_, fun clause hc => ?_⟩
    · simpa [Members.Distinct, Members.names, Function.comp_def] using hd
    · obtain ⟨own, ho, rfl⟩ := List.mem_map.mp hc
      exact ih own ho own.1 (hkeys own ho)

theorem mem_references {text : String} (h : .string text ∈ q.literals)
    (hr : (Environment.reference? text).isSome = true) : text ∈ q.references := by
  refine List.mem_eraseDups.mpr (List.mem_flatMap.mpr ⟨_, h, ?_⟩)
  simp [Json.references, hr]

end

end Query

theorem Json.replaceIn_eq (values : Members Json) (items : List Json) :
    replaceIn values items = items.map (replace values) := by
  induction items with
  | nil => rfl
  | cons item rest ih => rw [replaceIn, ih, List.map_cons]

theorem Json.replace_eq_object {value : Json} {values members : Members Json}
    (h : value.asObject? = none) : value.replace values = .object members ↔
      ∃ text, value = .string text ∧ values.get? text = some (.object members) := by
  cases value with
  | string text =>
    cases hv : values.get? text with
    | none => simp [replace, hv]
    | some found => simp [replace, hv]
  | object own => simp [asObject?] at h
  | _ => simp [replace]

theorem Query.objectless_replace {node : Node} {values : Members Json} (h : node.Objectless) :
    ¬(node.mapLiterals (Json.replace values)).Objectless ↔ ∃ text members,
      .string text ∈ node.literals ∧ values.get? text = some (.object members) := by
  have hobject : ∀ value : Json, value.asObject? ≠ none ↔ ∃ members, value = .object members := by
    intro value
    cases value <;> simp [Json.asObject?]
  simp only [Node.Objectless, (Query.mem_mapLiterals _ _).2, not_forall, exists_prop]
  constructor
  · rintro ⟨_, ⟨own, ho, rfl⟩, hv⟩
    obtain ⟨members, hm⟩ := (hobject _).mp hv
    obtain ⟨text, rfl, hget⟩ := (Json.replace_eq_object (h own ho)).mp hm
    exact ⟨text, members, ho, hget⟩
  · rintro ⟨text, members, ho, hget⟩
    refine ⟨_, ⟨.string text, ho, rfl⟩, (hobject _).mpr ⟨members, ?_⟩⟩
    exact (Json.replace_eq_object rfl).mpr ⟨text, rfl, hget⟩

-- ---------------------------------------------------------------------------
-- Objects that references stand for
-- ---------------------------------------------------------------------------

namespace Environment

/-- The text refers to an object. The sentinel stands for what is known as the id
of the person. -/
def Denotes (env : Environment) (text : String) (members : Members Json) : Prop :=
  ∃ path value, reference? text = some path ∧ env.lookup? path = some value ∧
    (if isSentinel value then env.personId? else some value) = some (.object members)

section
variable {env : Environment} {text : String} {members : Members Json} {value : Json}

theorem walk?_cons_scalar {segment : String} {rest : List String}
    (h : value.asObject? = none ∧ value.asArray? = none) : walk? value (segment :: rest) = none := by
  cases value <;> simp [walk?, child?, Json.asObject?, Json.asArray?] at h ⊢

theorem walk?_scalar {segments : List String} (h : value.asObject? = none ∧ value.asArray? = none) :
    walk? value segments ≠ some (.object members) := by
  cases segments with
  | nil => cases value <;> simp [walk?, Json.asObject?] at h ⊢
  | cons segment rest => simp [walk?_cons_scalar h]

theorem scalar_of_personId?_none (h : env.personId? = none)
    (hv : env.get? personKey = some value) : value.asObject? = none ∧ value.asArray? = none := by
  have hnone : ¬(!value.isNull && !isSentinel value) = true := by
    simpa [personId?, hv, Option.filter_some] using h
  cases value <;> simp [Json.isNull, isSentinel, Json.asObject?, Json.asArray?] at hnone ⊢

theorem denotes_iff (h : env.personId? ≠ some (.object members)) :
    env.Denotes text members ↔ ∃ path, reference? text = some path ∧
      env.lookup? path = some (.object members) := by
  constructor
  · rintro ⟨path, value, hpath, hvalue, hobject⟩
    split at hobject
    · exact absurd hobject h
    · exact ⟨path, hpath, hvalue.trans hobject⟩
  · rintro ⟨path, hpath, hvalue⟩
    exact ⟨path, _, hpath, hvalue, rfl⟩

theorem denotes_put (h : env.personId? = none) (id : String) :
    (env.put personKey (.string id)).Denotes text members ↔ env.Denotes text members := by
  have hput : (env.put personKey (.string id)).personId? ≠ some (.object members) := by
    simp [personId?, get?_put]
  rw [denotes_iff hput, denotes_iff (by simp [h])]
  refine exists_congr fun path => and_congr_right fun _ => ?_
  unfold lookup?
  cases (path.toList.splitOn '.').map String.ofList with
  | nil => exact Iff.rfl
  | cons first rest =>
    by_cases hf : first = personKey
    · subst hf
      simp only [get?_put, if_true, Option.bind_some]
      refine iff_of_false (walk?_scalar ⟨rfl, rfl⟩) fun hw => ?_
      obtain ⟨value, hv, hw⟩ := Option.bind_eq_some_iff.mp hw
      exact walk?_scalar (scalar_of_personId?_none h hv) hw
    · simp only [get?_put, hf, if_false]

end

end Environment

/-- Texts refer to the same objects as before. -/
def Session.Undisturbed (s s' : Session) : Prop :=
  ∀ text members, s'.env.Denotes text members ↔ s.env.Denotes text members

theorem Session.Undisturbed.refl (s : Session) : s.Undisturbed s := fun _ _ => Iff.rfl

theorem Session.Undisturbed.trans {s mid s' : Session} (h : s.Undisturbed mid)
    (h' : mid.Undisturbed s') : s.Undisturbed s' :=
  fun text members => (h' text members).trans (h text members)

namespace Resolution

section
variable {mode : UnresolvedMode} {directory : Directory} {app text : String} {s s' : Session}

theorem personId_undisturbed {id : Json} (h : Runs (personId directory app) s id s') :
    (∀ members, id = .object members ↔ s.env.personId? = some (.object members)) ∧
      s.Undisturbed s' := by
  rcases personId_runs.mp h with ⟨hknown, rfl⟩ | ⟨hnone, user, person, -, -, rfl, rfl⟩
  · exact ⟨fun members => by simp [hknown], .refl s'⟩
  · exact ⟨fun members => by simp [hnone], fun _ _ => Environment.denotes_put hnone person.id⟩

theorem ofText_denotes {found : Option Json} (h : Runs (ofText directory app text) s found s') :
    (∀ members, found = some (.object members) ↔ s.env.Denotes text members) ∧
      s.Undisturbed s' := by
  unfold Environment.Denotes
  cases ofText_yields.mp h with
  | literal hpath => exact ⟨fun members => by simp [hpath], .refl s⟩
  | missing hpath hv => exact ⟨fun members => by simp [hpath, hv], .refl s⟩
  | value hpath hv hs => exact ⟨fun members => by simp [hpath, hv, hs], .refl s⟩
  | personal hpath hv hs hid =>
    obtain ⟨hobject, hundisturbed⟩ := personId_undisturbed hid
    exact ⟨fun members => by simp [hpath, hv, hs, hobject], hundisturbed⟩

theorem ofReference_denotes {value : Json}
    (h : Runs (ofReference mode directory app text) s value s') :
    (∀ members, value = .object members ↔ s.env.Denotes text members) ∧ s.Undisturbed s' := by
  obtain ⟨found, hfound, rfl, -⟩ := ofReference_runs.mp h
  obtain ⟨hobject, hundisturbed⟩ := ofText_denotes hfound
  refine ⟨fun members => ?_, hundisturbed⟩
  rw [← hobject]
  cases found <;> simp

theorem ofReferences_denotes {references : List String} {values : Members Json}
    (h : Runs (ofReferences mode directory app references) s values s') (text : String)
    (members : Members Json) : values.get? text = some (.object members) ↔
      text ∈ references ∧ s.env.Denotes text members := by
  induction references generalizing s values with
  | nil =>
    obtain ⟨rfl, -⟩ := runs_pure.mp h
    simp [Members.get?]
  | cons reference rest ih =>
    obtain ⟨value, next, hvalue, h⟩ := runs_bind.mp h
    obtain ⟨others, last, hothers, h⟩ := runs_bind.mp h
    obtain ⟨rfl, rfl⟩ := runs_pure.mp h
    obtain ⟨hobject, hundisturbed⟩ := ofReference_denotes hvalue
    rw [Members.get?_cons]
    by_cases he : text = reference
    · subst he
      simp [hobject]
    · simp [he, ih hothers, hundisturbed text members]

end

end Resolution

end QueryGuard
