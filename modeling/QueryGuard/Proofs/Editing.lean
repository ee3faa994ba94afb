import QueryGuard.Proofs.Grammar
import QueryGuard.Proofs.RoundTrip

/-!
# Edited queries

A query that is read from a document and then edited, with nothing but nodes that
are themselves read from documents, keeps each group under the key of its
operator. Only an insertion can leave another node under a logical key, since it
looks at the key of a group alone; where none does, the query is read back from
the document that it is written as (`edited_groups_iff`).
-/

namespace QueryGuard

-- ---------------------------------------------------------------------------
-- Edits
-- ---------------------------------------------------------------------------

/-- A node as documents are read to. -/
def Node.IsRead : Node → Prop
  | .group _ children => ∀ child ∈ children, ∃ value, Query.ofJson value = .ok child
  | node => ∃ value, Node.ofJson value = .ok node

inductive Query.Edit where
  | insert (key : String) (node : Node)
  | insertGroup (op : Logical) (children : List Query)
  | remove (key : String)
  /-- Clauses, of the query or others, are inserted into an empty one. -/
  | collect (clauses : List (String × Node))
  /-- A child is added to a group, if the query has it. -/
  | push (op : Logical) (child : Query)

namespace Query

def edit (q : Query) : Edit → Query
  | .insert key node => q.insert key node
  | .insertGroup op children => q.insertGroup op children
  | .remove key => q.remove key
  | .collect clauses => ofClauses clauses
  | .push op child => q.withGroup op ((q.group? op).getD [] ++ [child])

def edited (q : Query) (edits : List Edit) : Query := edits.foldl edit q

/-- Whatever is put in is read from documents. -/
def Edit.IsRead : Edit → Prop
  | .insert _ node => node.IsRead
  | .insertGroup op children => (Node.group op children).IsRead
  | .remove _ => True
  | .collect clauses => ∀ clause ∈ clauses, clause.2.IsRead
  | .push _ child => ∃ value, ofJson value = .ok child

-- ---------------------------------------------------------------------------
-- Nodes that are read
-- ---------------------------------------------------------------------------

section
variable {op : Logical} {children : List Query} {key : String} {node : Node}

theorem isRead_iff : node.IsRead ↔ (∃ key, node.Keyed key) ∧ node.Objectless := by
  cases node with
  | group op children =>
    simp only [Node.IsRead, exists_ofJson_iff, keyed_group, objectless_group]
    constructor
    · intro h
      exact ⟨⟨op.key, rfl, fun child hc => (h child hc).1⟩, fun child hc => (h child hc).2⟩
    · rintro ⟨⟨-, -, hk⟩, ho⟩ child hc
      exact ⟨hk child hc, ho child hc⟩
  | _ =>
    constructor
    · rintro ⟨value, h⟩
      exact ⟨⟨"", (readsWell value).node _ h |>.1 "" rfl⟩, (readsObjectless value).node _ h⟩
    · rintro ⟨⟨key, hk⟩, ho⟩
      exact ⟨_, reads_back.2 _ key hk ho⟩

theorem keyed_of_isRead_group (h : (Node.group op children).IsRead) :
    (Node.group op children).Keyed op.key := by
  obtain ⟨⟨key, hk⟩, -⟩ := isRead_iff.mp h
  exact keyed_group.mpr ⟨rfl, (keyed_group.mp hk).2⟩

theorem keyed_of_isRead_plain (h : node.IsRead) (hn : node.isGroup = false)
    (hkey : Logical.ofKey? key = none) : node.Keyed key := by
  obtain ⟨⟨own, hk⟩, -⟩ := isRead_iff.mp h
  cases node with
  | literal => exact hkey
  | constraint => exact ⟨hkey, hk.2⟩
  | group => cases hn

end

-- ---------------------------------------------------------------------------
-- What edits keep
-- ---------------------------------------------------------------------------

/-- Each key stands once and each group under the key of its operator, and all
nodes are read from documents. -/
structure Assembled (q : Query) : Prop where
  distinct : Members.Distinct q.clauses
  grouped : ∀ key op children, (key, .group op children) ∈ q.clauses → key = op.key
  read : ∀ clause ∈ q.clauses, clause.2.IsRead

section
variable {q child : Query} {op : Logical} {children : List Query} {key : String} {node : Node}
  {value : Json}

theorem Assembled.of_ofJson (h : ofJson value = .ok q) : q.Assembled := by
  obtain ⟨hd, hk⟩ := keyed_iff.mp (ofJson_well h).1
  have ho := objectless_iff.mp (ofJson_objectless h)
  refine ⟨hd, fun key op children hc => (keyed_group.mp (hk _ hc)).1, fun clause hc => ?_⟩
  exact isRead_iff.mpr ⟨⟨clause.1, hk clause hc⟩, ho clause hc⟩

theorem assembled_empty : empty.Assembled := ⟨List.nodup_nil, nofun, nofun⟩

theorem Assembled.put (hq : q.Assembled) (hn : node.IsRead)
    (hg : ∀ op children, node = .group op children → key = op.key) :
    (q.put key node).Assembled := by
  refine ⟨hq.distinct.put key node, fun other op children hc => ?_, fun clause hc => ?_⟩
  · rcases Members.mem_of_mem_put hc with he | hc
    · obtain ⟨rfl, rfl⟩ := Prod.mk.inj he
      exact hg op children rfl
    · exact hq.grouped other op children hc
  · rcases Members.mem_of_mem_put hc with rfl | hc
    · exact hn
    · exact hq.read clause hc

theorem Assembled.insert (hq : q.Assembled) (hn : node.IsRead) : (q.insert key node).Assembled := by
  refine hq.put hn fun op children he => ?_
  subst he
  rfl

theorem Assembled.insertGroup (hq : q.Assembled) (hn : (Node.group op children).IsRead) :
    (q.insertGroup op children).Assembled := by
  refine hq.put hn fun own others he => ?_
  cases he
  rfl

theorem Assembled.remove (hq : q.Assembled) (key : String) : (q.remove key).Assembled := by
  have hsub : Members.remove key q.clauses ⊆ q.clauses := (Members.remove_sublist ..).subset
  exact ⟨hq.distinct.remove key, fun own op children hc => hq.grouped own op children (hsub hc),
    fun clause hc => hq.read clause (hsub hc)⟩

theorem assembled_ofClauses {clauses : List (String × Node)}
    (h : ∀ clause ∈ clauses, clause.2.IsRead) : (ofClauses clauses).Assembled := by
  have hfold : ∀ q : Query, q.Assembled →
      (clauses.foldl (fun q clause => q.insert clause.1 clause.2) q).Assembled := by
    induction clauses with
    | nil => exact fun q hq => hq
    | cons clause rest ih =>
      obtain ⟨hclause, hrest⟩ := List.forall_mem_cons.mp h
      exact fun q hq => ih hrest _ (hq.insert hclause)
  exact hfold empty assembled_empty

theorem Assembled.push (hq : q.Assembled) (hc : ∃ value, ofJson value = .ok child) :
    (q.edit (.push op child)).Assembled := by
  rw [Query.edit, withGroup]
  cases hget : q.get? op.key with
  | none => exact hq
  | some node =>
    cases node with
    | group own children =>
      have hm := mem_of_get? hget
      have hgroup : q.group? op = some children := by rw [group?, hget]
      simp only [hgroup, Option.getD_some]
      refine hq.put (fun own hown => ?_) fun other others he => ?_
      · rcases List.mem_append.mp hown with hown | hown
        · exact hq.read _ hm own hown
        · rwa [List.mem_singleton.mp hown]
      · cases he
        exact hq.grouped _ _ _ hm
    | _ => exact hq

theorem Assembled.edit {e : Edit} (hq : q.Assembled) (he : e.IsRead) : (q.edit e).Assembled := by
  cases e with
  | insert key node => exact hq.insert he
  | insertGroup op children => exact hq.insertGroup he
  | remove key => exact hq.remove key
  | collect clauses => exact assembled_ofClauses he
  | push op child => exact hq.push he

theorem Assembled.edited {edits : List Edit} (hq : q.Assembled) (he : ∀ e ∈ edits, e.IsRead) :
    (q.edited edits).Assembled := by
  induction edits generalizing q with
  | nil => exact hq
  | cons e rest ih =>
    obtain ⟨hfirst, hrest⟩ := List.forall_mem_cons.mp he
    exact ih (hq.edit hfirst) hrest

end

-- ---------------------------------------------------------------------------
-- Plain nodes
-- ---------------------------------------------------------------------------

/-- A node that is no group stands under the key. -/
def HoldsPlain (q : Query) (key : String) : Prop :=
  ∃ node, q.get? key = some node ∧ node.isGroup = false

section
variable {q : Query} {key : String} {node : Node}

theorem Assembled.keyed_iff (hq : q.Assembled) :
    q.Keyed ↔ ∀ op : Logical, ∀ key ∈ op.spellings, ¬q.HoldsPlain key := by
  constructor
  · rintro hk op key hop ⟨node, hget, hplain⟩
    have hnone := keyed_plain (hk.of_get? hget) hplain
    exact Logical.not_mem_spellings hnone op hop
  · intro h
    refine Query.keyed_iff.mpr ⟨hq.distinct, ?_⟩
    rintro ⟨key, node⟩ hc
    cases hn : node.isGroup with
    | false =>
      refine keyed_of_isRead_plain (hq.read _ hc) hn ?_
      cases hkey : Logical.ofKey? key with
      | none => rfl
      | some op =>
        have hget := Members.get?_of_mem hq.distinct hc
        exact absurd ⟨node, hget, hn⟩ (h op key (Logical.ofKey?_eq_some_iff.mp hkey))
    | true =>
      cases node with
      | group op children =>
        obtain rfl := hq.grouped key op children hc
        exact keyed_of_isRead_group (hq.read _ hc)
      | _ => cases hn

theorem Assembled.objectless (hq : q.Assembled) : q.Objectless :=
  objectless_iff.mpr fun clause hc => (isRead_iff.mp (hq.read clause hc)).2

theorem not_same_of_holdsPlain {read : Query} {value : Json} {op : Logical}
    (hkey : key ∈ op.spellings) (hplain : q.HoldsPlain key)
    (h : ofJson value = .ok read) : read.same q = false := by
  rw [Bool.eq_false_iff]
  intro hs
  obtain ⟨node, hget, hn⟩ := hplain
  have hk := (ofJson_well h).1
  obtain ⟨hl, hm⟩ := same_iff.mp hs
  have hnames := hm.names_perm (Query.keyed_iff.mp hk).1 (Nat.le_of_eq hl.symm)
  have hname := hnames.mem_iff.mpr (Members.mem_names (mem_of_get? hget))
  obtain ⟨own, ho⟩ := Members.exists_get?_of_mem_names hname
  obtain ⟨found, hfound, hlike⟩ := hm _ (Members.mem_of_get? ho)
  obtain rfl : found = node := Option.some.inj (hfound.symm.trans hget)
  -- Under a logical key what is read holds a group, and so does what is the same.
  have hown : own.isGroup = false := (Node.isGroup_of_same hlike).trans hn
  exact Logical.not_mem_spellings (keyed_plain (hk.of_get? ho) hown) op hkey

end

-- ---------------------------------------------------------------------------
-- The last word on a key
-- ---------------------------------------------------------------------------

/-- Some item decides, and all items after it leave it at that. -/
def Settled {α : Type} (decides leaves : α → Prop) (items : List α) : Prop :=
  ∃ before item after, items = before ++ item :: after ∧ decides item ∧
    ∀ later ∈ after, leaves later

section
variable {α σ : Type} {decides leaves : α → Prop} {item : α} {items : List α}

theorem not_settled_nil : ¬Settled decides leaves [] := by
  rintro ⟨before, item, after, h, -⟩
  cases before <;> cases h

theorem settled_cons : Settled decides leaves (item :: items) ↔
    Settled decides leaves items ∨ decides item ∧ ∀ later ∈ items, leaves later := by
  constructor
  · rintro ⟨_ | ⟨first, before⟩, own, after, he, hown, hafter⟩
    · obtain ⟨rfl, rfl⟩ := List.cons.inj he
      exact .inr ⟨hown, hafter⟩
    · obtain ⟨rfl, rfl⟩ := List.cons.inj he
      exact .inl ⟨before, own, after, rfl, hown, hafter⟩
  · rintro (⟨before, own, after, rfl, hown, hafter⟩ | ⟨hitem, hitems⟩)
    · exact ⟨item :: before, own, after, rfl, hown, hafter⟩
    · exact ⟨[], item, items, rfl, hitem, hitems⟩

/-- What holds after a run is settled in it, or held before it and is left at that
throughout. -/
theorem foldl_iff_settled {step : σ → α → σ} (inv holds : σ → Prop)
    (hinv : ∀ s, inv s → ∀ item ∈ items, inv (step s item))
    (hstep : ∀ s, inv s → ∀ item, holds (step s item) ↔ decides item ∨ holds s ∧ leaves item)
    {s : σ} (hs : inv s) :
    holds (items.foldl step s) ↔
      Settled decides leaves items ∨ holds s ∧ ∀ item ∈ items, leaves item := by
  induction items generalizing s with
  | nil => simp [not_settled_nil]
  | cons first rest ih =>
    have hrest := fun s hs item hi => hinv s hs item (List.mem_cons_of_mem _ hi)
    rw [List.foldl_cons, ih hrest (hinv s hs first List.mem_cons_self), hstep s hs, settled_cons,
      List.forall_mem_cons, or_and_right, or_assoc, and_assoc]

end

/-- Inserting the clauses one after the other leaves a plain node under the key. -/
def LeavePlain (clauses : List (String × Node)) (key : String) : Prop :=
  Settled (fun clause => clause.1 = key ∧ clause.2.isGroup = false)
    (fun clause => keyFor clause.1 clause.2 ≠ key) clauses

/-- The edit leaves a plain node under the key, whatever stood there. -/
def Edit.Decides (key : String) : Edit → Prop
  | .insert own node => own = key ∧ node.isGroup = false
  | .collect clauses => LeavePlain clauses key
  | _ => False

/-- The edit does not replace or remove what stands under the key. -/
def Edit.Leaves (key : String) : Edit → Prop
  | .insert own node => keyFor own node ≠ key
  | .insertGroup op _ => op.key ≠ key
  | .remove own => own ≠ key
  | .collect _ => False
  | .push _ _ => True

/-- The last edit that has to do with the key leaves a plain node under it. -/
def Edit.LeavePlain (edits : List Edit) (key : String) : Prop :=
  Settled (Edit.Decides key) (Edit.Leaves key) edits

section
variable {q child : Query} {op : Logical} {children : List Query} {key own : String} {node : Node}

theorem holdsPlain_put : (q.put own node).HoldsPlain key ↔
    own = key ∧ node.isGroup = false ∨ q.HoldsPlain key ∧ own ≠ key := by
  rw [HoldsPlain, HoldsPlain, get?_put]
  by_cases h : key = own
  · simp [h]
  · simp [h, Ne.symm h]

theorem holdsPlain_insert : (q.insert own node).HoldsPlain key ↔
    (own = key ∧ node.isGroup = false) ∨ q.HoldsPlain key ∧ keyFor own node ≠ key := by
  rw [Query.insert, holdsPlain_put]
  cases node with
  | group => simp [Node.isGroup]
  | _ => rfl

theorem holdsPlain_remove (hq : Members.Distinct q.clauses) :
    (q.remove own).HoldsPlain key ↔ q.HoldsPlain key ∧ own ≠ key := by
  by_cases h : own = key
  · subst h
    have hnone : (q.remove own).get? own = none := Members.get?_remove_self hq own
    simp [HoldsPlain, hnone]
  · simp [HoldsPlain, get?_remove_of_ne (Ne.symm h), h]

theorem holdsPlain_withGroup : (q.withGroup op children).HoldsPlain key ↔ q.HoldsPlain key := by
  rw [withGroup]
  cases hget : q.get? op.key with
  | none => rfl
  | some node =>
    cases node with
    | group own others =>
      simp only [holdsPlain_put, Node.isGroup, Bool.true_eq_false, and_false, false_or,
        and_iff_left_iff_imp]
      rintro ⟨node, hnode, hplain⟩ rfl
      obtain rfl := Option.some.inj (hget.symm.trans hnode)
      cases hplain
    | _ => rfl

theorem holdsPlain_ofClauses {clauses : List (String × Node)} :
    (ofClauses clauses).HoldsPlain key ↔ LeavePlain clauses key := by
  have hempty : ¬empty.HoldsPlain key := by
    rintro ⟨node, ⟨⟩, -⟩
  have hfold : (ofClauses clauses).HoldsPlain key ↔ LeavePlain clauses key ∨
      empty.HoldsPlain key ∧ ∀ clause ∈ clauses, keyFor clause.1 clause.2 ≠ key :=
    foldl_iff_settled (fun _ => True) (HoldsPlain · key) (fun _ _ _ _ => trivial)
      (fun q _ clause => @holdsPlain_insert q key clause.1 clause.2) trivial
  rw [hfold, or_iff_left fun h => hempty h.1]

theorem holdsPlain_edit {e : Edit} (hq : Members.Distinct q.clauses) :
    (q.edit e).HoldsPlain key ↔ e.Decides key ∨ q.HoldsPlain key ∧ e.Leaves key := by
  cases e with
  | insert own node => exact holdsPlain_insert
  | insertGroup op children =>
    rw [edit, insertGroup, holdsPlain_put]
    simp [Node.isGroup, Edit.Decides, Edit.Leaves]
  | remove own => simp [edit, holdsPlain_remove hq, Edit.Decides, Edit.Leaves]
  | collect clauses => simp [edit, holdsPlain_ofClauses, Edit.Decides, Edit.Leaves]
  | push op child => simp [edit, holdsPlain_withGroup, Edit.Decides, Edit.Leaves]

theorem holdsPlain_edited {edits : List Edit} (hq : q.Assembled) (he : ∀ e ∈ edits, e.IsRead) :
    (q.edited edits).HoldsPlain key ↔
      Edit.LeavePlain edits key ∨ q.HoldsPlain key ∧ ∀ e ∈ edits, e.Leaves key :=
  foldl_iff_settled Assembled (HoldsPlain · key) (fun _ hq e hm => hq.edit (he e hm))
    (fun _ hq _ => holdsPlain_edit hq.distinct) hq

end

-- ---------------------------------------------------------------------------
-- Runs of edits
-- ---------------------------------------------------------------------------

/-- Under a logical key stands a group of its operator, and the key is native. -/
def GroupsLogical (q : Query) : Prop :=
  ∀ op : Logical, ∀ key ∈ op.spellings, ∀ node, q.get? key = some node →
    key = op.key ∧ ∃ children, node = .group op children

theorem Assembled.groupsLogical_iff {q : Query} (hq : q.Assembled) :
    q.GroupsLogical ↔ ∀ op : Logical, ∀ key ∈ op.spellings, ¬q.HoldsPlain key := by
  constructor
  · rintro h op key hkey ⟨node, hget, hplain⟩
    obtain ⟨-, children, rfl⟩ := h op key hkey node hget
    cases hplain
  · intro h op key hkey node hget
    cases node with
    | group own children =>
      obtain rfl := hq.grouped _ _ _ (mem_of_get? hget)
      have hop := Logical.ofKey?_eq_some_iff.mpr hkey
      obtain rfl := Option.some.inj ((Logical.ofKey?_key own).symm.trans hop)
      exact ⟨rfl, children, rfl⟩
    | _ => exact absurd ⟨_, hget, rfl⟩ (h op key hkey)

/-- Whatever edits are made, each group stands under the key of its operator. A
logical key always holds a group, and the query is read back from the document that
it is written as, exactly if no edit leaves a plain node under a logical key; where
one does, what is read is not even the same. -/
theorem edited_groups_iff {value : Json} {q : Query} {edits : List Edit}
    (hq : ofJson value = .ok q) (he : ∀ e ∈ edits, e.IsRead) :
    let left := q.edited edits
    (∀ clause ∈ left.clauses, clause.2.IsRead ∧
        ∀ op children, clause.2 = .group op children → clause.1 = op.key) ∧
      (∀ op : Logical, ∀ key ∈ op.spellings,
        (left.HoldsPlain key ↔ Edit.LeavePlain edits key)) ∧
      (left.GroupsLogical ↔
        ∀ op : Logical, ∀ key ∈ op.spellings, ¬Edit.LeavePlain edits key) ∧
      (ofJson left.toJson = .ok left ↔
        ∀ op : Logical, ∀ key ∈ op.spellings, ¬Edit.LeavePlain edits key) ∧
      ∀ op : Logical, ∀ key ∈ op.spellings, Edit.LeavePlain edits key →
        ∀ read, ofJson left.toJson = .ok read → read.same left = false := by
  intro left
  have hstart := Assembled.of_ofJson hq
  have hleft : left.Assembled := hstart.edited he
  have hnone := hstart.keyed_iff.mp (ofJson_well hq).1
  have hplain : ∀ op : Logical, ∀ key ∈ op.spellings,
      (left.HoldsPlain key ↔ Edit.LeavePlain edits key) := by
    intro op key hkey
    rw [holdsPlain_edited hstart he, or_iff_left fun h => hnone op key hkey h.1]
  have hiff : (∀ op : Logical, ∀ key ∈ op.spellings, ¬left.HoldsPlain key) ↔
      ∀ op : Logical, ∀ key ∈ op.spellings, ¬Edit.LeavePlain edits key :=
    forall_congr' fun op => forall₂_congr fun key hkey => not_congr (hplain op key hkey)
  refine ⟨?_, hplain, ?_, ?_, ?_⟩
  · rintro ⟨key, node⟩ hc
    refine ⟨hleft.read _ hc, fun op children he => ?_⟩
    cases he
    exact hleft.grouped key op children hc
  · rw [hleft.groupsLogical_iff, hiff]
  · rw [ofJson_toJson_iff, and_iff_left hleft.objectless, hleft.keyed_iff, hiff]
  · intro op key hkey hleaves read hread
    exact not_same_of_holdsPlain hkey ((hplain op key hkey).mpr hleaves) hread

theorem edited_groups_regained :
    let edits : List Edit := [.insert "$and" (.literal (.array [])), .remove "status",
      .insertGroup .and [empty], .push .and (ofField "owner" .null), .insert "x" (.group .or [])]
    let left := (ofField "status" (.string "open")).edited edits
    ofJson (.object [("status", .string "open")]) = .ok (ofField "status" (.string "open")) ∧
      (∀ e ∈ edits, e.IsRead) ∧
      left.clauses =
        [("$and", .group .and [empty, ofField "owner" .null]), ("$or", .group .or [])] ∧
      left.GroupsLogical ∧ ofJson left.toJson = .ok left := by
  intro edits left
  have hread : ofJson (.object [("status", .string "open")]) =
      .ok (ofField "status" (.string "open")) := by
    rfl
  have hedits : ∀ e ∈ edits, e.IsRead := by
    simp only [edits, List.forall_mem_cons, Edit.IsRead, Node.IsRead, List.not_mem_nil]
    refine ⟨⟨.array [], rfl⟩, trivial, ?_, ⟨.object [("owner", .null)], rfl⟩, nofun, nofun⟩
    exact ⟨⟨.object [], rfl⟩, nofun⟩
  have hnone : ∀ op : Logical, ∀ key ∈ op.spellings, ¬Edit.LeavePlain edits key := by
    intro op key _
    -- The only plain node that is put in goes under "$and", where a group takes its place.
    have hlast : "$and" = key → "status" ≠ key → "$and" ≠ key →
        keyFor "x" (.group .or []) = key := fun h _ hne => absurd h hne
    simpa [Edit.LeavePlain, edits, settled_cons, not_settled_nil, Edit.Decides, Edit.Leaves,
      Logical.key, Node.isGroup] using hlast
  obtain ⟨-, -, hgroups, hback, -⟩ := edited_groups_iff hread hedits
  exact ⟨hread, hedits, by rfl, hgroups.mpr hnone, hback.mpr hnone⟩

/-- An array that is inserted under a logical key is an operand, and is read back as
a group. -/
theorem edited_ungrouped :
    let edits : List Edit := [.insert "$and" (.literal (.array []))]
    let left := empty.edited edits
    ofJson (.object []) = .ok empty ∧ (∀ e ∈ edits, e.IsRead) ∧ ¬left.GroupsLogical ∧
      ∃ read, ofJson left.toJson = .ok read ∧ read.same left = false := by
  intro edits left
  have hkey : "$and" ∈ Logical.spellings .and := by decide
  have hplain : left.HoldsPlain "$and" := ⟨.literal (.array []), rfl, rfl⟩
  have hread : ofJson left.toJson = .ok (empty.insertGroup .and []) := rfl
  have hedits : ∀ e ∈ edits, e.IsRead := by
    intro e he
    obtain rfl := List.mem_singleton.mp he
    exact ⟨.array [], rfl⟩
  refine ⟨rfl, hedits, fun h => ?_, _, hread, not_same_of_holdsPlain hkey hplain hread⟩
  obtain ⟨-, children, hgroup⟩ := h .and "$and" hkey (.literal (.array [])) rfl
  cases hgroup

end Query

end QueryGuard
