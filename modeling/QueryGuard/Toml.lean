import QueryGuard.Json

/-!
# TOML values

A document is a table. While it is read, tables remember how they came about:
a table may be written by one header only, and a table written with dotted keys
is closed to headers.
-/

namespace QueryGuard

inductive Toml where
  | string (value : String)
  | integer (value : Int)
  /-- Absent for the infinities and for what is no number. -/
  | float (value : Option Double)
  | bool (value : Bool)
  | dateTime
  | array (items : List Toml)
  | table (members : List (String × Toml))

namespace Toml

mutual
/-- The same value in JSON. A date-time is an object with a name of its own, and
what is no number is null. -/
def toJson : Toml → Json
  | .string value => .string value
  | .integer value => .number (.integer value)
  | .float (some value) => .number (.double value)
  | .float none => .null
  | .bool value => .bool value
  | .dateTime => .object [("date-time", .null)]
  | .array items => .array (toJsonItems items)
  | .table members => .object (toJsonMembers members)
def toJsonItems : List Toml → List Json
  | [] => []
  | item :: rest => item.toJson :: toJsonItems rest
def toJsonMembers : List (String × Toml) → List (String × Json)
  | [] => []
  | (name, value) :: rest => (name, value.toJson) :: toJsonMembers rest
end

-- ---------------------------------------------------------------------------
-- Tables under construction
-- ---------------------------------------------------------------------------

/-- How a table came about. -/
inductive Origin where
  /-- On the way to a table that a header names. -/
  | implied
  | header
  | dotted

inductive Entry where
  | value (value : Toml)
  | table (origin : Origin) (members : List (String × Entry))
  /-- Tables of an array, the last one first. -/
  | tables (members : List (List (String × Entry)))

namespace Entry

mutual
def toToml : Entry → Toml
  | .value written => written
  | .table _ members => .table (toTomlMembers members)
  | .tables items => .array (toTomlTables items).reverse
def toTomlMembers : List (String × Entry) → List (String × Toml)
  | [] => []
  | (name, entry) :: rest => (name, entry.toToml) :: toTomlMembers rest
def toTomlTables : List (List (String × Entry)) → List Toml
  | [] => []
  | members :: rest => .table (toTomlMembers members) :: toTomlTables rest
end

/-- Writes a value under a dotted key. Nothing is written twice, and no table
that a header has written is added to. -/
def assign (written : Toml) : List String → Members Entry → Option (Members Entry)
  | [], _ => none
  | [key], members => if members.has key then none else some (members.put key (.value written))
  | key :: path, members =>
    match members.get? key with
    | none => (assign written path []).map fun inner => members.put key (.table .dotted inner)
    | some (.table .header _) => none
    | some (.table origin inner) =>
      (assign written path inner).map fun inner => members.put key (.table origin inner)
    | some _ => none

/-- Edits the table at the end of a path of headers; of an array of tables, the
last one. -/
def within (edit : Members Entry → Option (Members Entry)) :
    List String → Members Entry → Option (Members Entry)
  | [], members => edit members
  | key :: path, members =>
    match members.get? key with
    | none => (within edit path []).map fun inner => members.put key (.table .implied inner)
    | some (.table origin inner) =>
      (within edit path inner).map fun inner => members.put key (.table origin inner)
    | some (.tables (last :: earlier)) =>
      (within edit path last).map fun last => members.put key (.tables (last :: earlier))
    | some _ => none

/-- A header writes a table that is not there yet, or only implied. -/
def openTable (key : String) (members : Members Entry) : Option (Members Entry) :=
  match members.get? key with
  | none => some (members.put key (.table .header []))
  | some (.table .implied inner) => some (members.put key (.table .header inner))
  | some _ => none

/-- A double header adds a table to an array of its own. -/
def appendTable (key : String) (members : Members Entry) : Option (Members Entry) :=
  match members.get? key with
  | none => some (members.put key (.tables [[]]))
  | some (.tables earlier) => some (members.put key (.tables ([] :: earlier)))
  | some _ => none

end Entry

end Toml

end QueryGuard
