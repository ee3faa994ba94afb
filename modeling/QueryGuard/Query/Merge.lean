import QueryGuard.Query.Document

/-!
# Merging an access-control query into a caller's query

The merged query never lets through more than the access-control query does.
What the caller asked for stays where it does not contradict it, and every
contradiction found is reported.
-/

namespace QueryGuard

namespace Conflict

/-- Where the caller's clause stood. -/
inductive Location where
  | topLevel
  | logical (op : Logical)
  deriving DecidableEq

def Location.text : Location → String
  | .topLevel => "top-level"
  | .logical op => op.key

end Conflict

/-- A field that the caller constrains otherwise than the access-control query
does. `overridden` tells that the caller's clause is no longer there. -/
structure Conflict where
  field : String
  location : Conflict.Location
  requested : Node
  enforced : Node
  overridden : Bool

def Conflict.toJson (c : Conflict) : Json :=
  .object [
    ("field", .string c.field),
    ("location", .string c.location.text),
    ("requested", c.requested.toJson),
    ("enforced", c.enforced.toJson),
    ("overridden", .bool c.overridden)]

/-- What a merge did to the caller's query. -/
inductive MergeOutcome where
  /-- There was none; the access-control query takes its place. -/
  | passThrough
  /-- It stays as it is. -/
  | unchanged
  | merged (conflicts : List Conflict)

namespace MergeOutcome

def conflicts : MergeOutcome → List Conflict
  | .merged conflicts => conflicts
  | _ => []

def hasConflicts (outcome : MergeOutcome) : Bool := !outcome.conflicts.isEmpty

end MergeOutcome

/-- A query on its way from the caller's to the merged one, with the conflicts
found so far. -/
structure Merging where
  query : Query
  conflicts : List Conflict

namespace Query

-- ---------------------------------------------------------------------------
-- Groups on both sides
-- ---------------------------------------------------------------------------

/-- The nodes among plain clauses that stand under a field. -/
def requestedFor (referenced : List (String × Node)) (field : String) : List Node :=
  (referenced.filter fun clause => clause.1 == field).map Prod.snd

/-- A clause is implied when some child of the caller's group has it. -/
def isImplied (referenced : List (String × Node)) (child : Query) : Bool :=
  child.clauses.all fun clause => clause.2.isIn (requestedFor referenced clause.1)

/-- The conflict of one access-control clause with the children of the caller's
group: they constrain the field, and none of them like this. -/
def groupConflict? (op : Logical) (referenced : List (String × Node)) (field : String)
    (enforced : Node) : Option Conflict :=
  match requestedFor referenced field with
  | [] => none
  | requested :: others =>
    if enforced.isIn (requested :: others) || enforced.isGroup then none
    else some ⟨field, .logical op, requested, enforced, false⟩

/-- Conjoins one query with the rest of a query, unless its group says it
already. -/
def conjoin (q child : Query) : Query :=
  match q.group? .and with
  | some children => if child.isIn children then q else q.withGroup .and (children ++ [child])
  | none => q.insertGroup .and [child]

/-- The caller has a group under the operator. A conjunction takes the children
that it does not imply; a disjunction is never widened, so that the alternatives
are conjoined as a whole. -/
def crossCheck (op : Logical) (access : List Query) (m : Merging) : Merging :=
  let existing := (m.query.group? op).getD []
  let referenced := existing.flatMap fields
  let unmet := access.filter fun child => !child.isIn existing
  let found := unmet.flatMap fun child =>
    child.clauses.filterMap fun clause => groupConflict? op referenced clause.1 clause.2
  let additions := unmet.filter fun child => !isImplied referenced child
  let query := match op with
    | .and => m.query.withGroup .and (existing ++ additions)
    | .or =>
      if existing.length == access.length && unmet.isEmpty then m.query
      else m.query.conjoin (empty.insertGroup .or access)
  ⟨query, m.conflicts ++ found⟩

-- ---------------------------------------------------------------------------
-- A group on one side
-- ---------------------------------------------------------------------------

/-- A caller's clause that all children of an access-control group that name
the field contradict. -/
def overriddenBy? (access : List Query) (field : String) (requested : Node) :
    Option Conflict :=
  match access.filterMap (·.get? field) with
  | [] => none
  | enforced :: others =>
    if requested.isIn (enforced :: others) then none
    else some ⟨field, .topLevel, requested, enforced, true⟩

/-- The caller has no group under the operator: contradicted plain clauses give
way to the access-control group. -/
def prioritise (op : Logical) (access : List Query) (m : Merging) : Merging :=
  let found := m.query.fields.filterMap fun clause => overriddenBy? access clause.1 clause.2
  let kept := found.foldl (fun q conflict => q.remove conflict.field) m.query
  ⟨kept.insertGroup op access, m.conflicts ++ found⟩

-- ---------------------------------------------------------------------------
-- Plain clauses
-- ---------------------------------------------------------------------------

/-- A plain access-control clause. Where the caller's conjunction says the same
it is not repeated; a different top-level clause is replaced. -/
def mergeField (field : String) (enforced : Node) (m : Merging) : Merging :=
  let grouped := m.query.findInGroups field
  let implied := grouped.any fun hit => hit.2.same enforced && hit.1 == .and
  let differing := (grouped.filter fun hit => !hit.2.same enforced).map fun hit =>
    (⟨field, .logical hit.1, hit.2, enforced, false⟩ : Conflict)
  match m.query.get? field with
  | some requested =>
    if requested.same enforced then ⟨m.query, m.conflicts ++ differing⟩
    else
      ⟨m.query.insert field enforced,
        m.conflicts ++ differing ++ [⟨field, .topLevel, requested, enforced, true⟩]⟩
  | none =>
    ⟨if implied then m.query else m.query.insert field enforced, m.conflicts ++ differing⟩

-- ---------------------------------------------------------------------------
-- Merging
-- ---------------------------------------------------------------------------

def mergeClause (m : Merging) (key : String) : Node → Merging
  | .group op children =>
    if (m.query.group? op).isSome then crossCheck op children m else prioritise op children m
  | node => mergeField key node m

/-- Merges every clause of the access-control query, in its order. -/
def merging (caller access : Query) : Merging :=
  access.clauses.foldl (fun m clause => mergeClause m clause.1 clause.2) ⟨caller, []⟩

/-- The first plain clause that holds an array, which no native query does. -/
def arrayClause? (access : Query) : Option String :=
  access.fields.findSome? fun clause =>
    match clause.2 with
    | .literal (.array _) => some clause.1
    | _ => none

/-- Merges into the caller's query, if there is one. Either way the request has
a query afterwards. -/
def mergeInto (caller : Option Query) (access : Query) : MergeOutcome × Query :=
  match caller with
  | none => (.passThrough, access)
  | some caller =>
    if caller.same access then (.unchanged, caller)
    else
      let m := merging caller access
      if m.conflicts.isEmpty && m.query.same caller then (.unchanged, caller)
      else (.merged m.conflicts, m.query)

end Query

end QueryGuard
