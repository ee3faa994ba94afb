import QueryGuard.Json.Record

/-!
# Projections

Which fields of a record are returned. Narrowing never exposes more than either
of two projections does.
-/

namespace QueryGuard

structure Projection where
  /-- Fields to return; all of them when absent. -/
  included : Option (List String)
  /-- Fields to withhold. -/
  excluded : List String
  deriving DecidableEq

namespace Projection

/-- Returns nothing but the given fields. -/
def only (fields : List String) : Projection := ⟨some fields, []⟩

def without (fields : List String) : Projection := ⟨none, fields⟩

/-- Appends the fields that are not there yet, one after the other. -/
def unite (fields : List String) : List String → List String
  | [] => fields
  | field :: rest => unite (if field ∈ fields then fields else fields ++ [field]) rest

/-- Included fields have to be in both lists; excluded ones in one. -/
def narrow (p other : Projection) : Projection where
  included :=
    match p.included, other.included with
    | some a, some b => some (a.filter fun field => b.contains field)
    | some a, none => some a
    | none, included => included
  excluded := unite p.excluded other.excluded

def allows (p : Projection) (field : String) : Bool :=
  !p.excluded.contains field && p.included.all fun fields => fields.contains field

def toJson (p : Projection) : Json :=
  .object <|
    Json.member "include" Json.ofStrings p.included ++
    (if p.excluded.isEmpty then [] else [("exclude", Json.ofStrings p.excluded)])

def ofJson? (value : Json) : Option Projection := do
  match ← value.fields? ["include", "exclude"] with
  | [included, excluded] =>
    return ⟨← Json.optional Json.stringList? included,
      ← Json.orDefault [] Json.stringList? excluded⟩
  | _ => none

end Projection

end QueryGuard
