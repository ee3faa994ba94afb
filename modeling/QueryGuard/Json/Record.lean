import QueryGuard.Json

/-!
# Records in JSON

A record is written as an object, where unknown names are passed over, or as
the array of its fields in their order. What a missing field stands for is the
record's business; null stands only for optional fields and for any value.
-/

namespace QueryGuard.Json

/-- The fields of an array form; what the array is too short for is missing. -/
def byPlace : List String → List Json → List (Option Json)
  | [], _ => []
  | _ :: names, [] => none :: byPlace names []
  | _ :: names, item :: items => some item :: byPlace names items

/-- The fields of a record by their names, in that order. -/
def fields? (names : List String) : Json → Option (List (Option Json))
  | .object members => some (names.map (Members.get? members))
  | .array items => if items.length ≤ names.length then some (byPlace names items) else none
  | _ => none

def required {α : Type} (read : Json → Option α) (field : Option Json) : Option α :=
  field.bind read

def orDefault {α : Type} (default : α) (read : Json → Option α) : Option Json → Option α
  | none => some default
  | some value => read value

/-- An optional field may be missing or null. -/
def optional {α : Type} (read : Json → Option α) : Option Json → Option (Option α)
  | none => some none
  | some .null => some none
  | some value => (read value).map some

def listOf? {α : Type} (read : Json → Option α) : Json → Option (List α)
  | .array items => items.mapM read
  | _ => none

def stringList? : Json → Option (List String) := listOf? asString?

/-- An integer of 32 bits. A double is none, whatever its value. -/
def smallInteger? : Json → Option Int32
  | .number (.integer value) =>
    if -2147483648 ≤ value && value < 2147483648 then some (Int32.ofInt value) else none
  | _ => none

/-- A member that is left out when it is absent. -/
def member {α : Type} (name : String) (write : α → Json) : Option α → Members Json
  | none => []
  | some value => [(name, write value)]

end QueryGuard.Json
