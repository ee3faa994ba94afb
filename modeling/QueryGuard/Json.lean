import QueryGuard.Members
import QueryGuard.Number

/-!
# JSON values

Objects keep the order of their names, and sameness does not look at it.
-/

namespace QueryGuard

inductive Json where
  | null
  | bool (value : Bool)
  | number (value : Number)
  | string (value : String)
  | array (items : List Json)
  | object (members : List (String × Json))

instance : Inhabited Json := ⟨.null⟩

namespace Json

-- ---------------------------------------------------------------------------
-- Sameness
-- ---------------------------------------------------------------------------

mutual
/-- Deep equality: arrays item by item, objects name by name. -/
def same : Json → Json → Bool
  | .null, .null => true
  | .bool a, .bool b => a == b
  | .number a, .number b => a.same b
  | .string a, .string b => a == b
  | .array a, .array b => sameItems a b
  | .object a, .object b => a.length == b.length && sameMembers a b
  | _, _ => false
def sameItems : List Json → List Json → Bool
  | [], [] => true
  | a :: as, b :: bs => a.same b && sameItems as bs
  | _, _ => false
/-- Every member of the first object has its like in the second. -/
def sameMembers : Members Json → Members Json → Bool
  | [], _ => true
  | (name, a) :: rest, others =>
    (match others.get? name with
      | some b => a.same b
      | none => false) && sameMembers rest others
end

def isIn (value : Json) (items : List Json) : Bool :=
  items.any value.same

-- ---------------------------------------------------------------------------
-- Parts
-- ---------------------------------------------------------------------------

def isNull : Json → Bool
  | .null => true
  | _ => false

def asString? : Json → Option String
  | .string value => some value
  | _ => none

def asBool? : Json → Option Bool
  | .bool value => some value
  | _ => none

def asArray? : Json → Option (List Json)
  | .array items => some items
  | _ => none

def asObject? : Json → Option (Members Json)
  | .object members => some members
  | _ => none

/-- Member of an object; absent from every other value. -/
def member? (value : Json) (name : String) : Option Json :=
  value.asObject?.bind (·.get? name)

/-- The word for the kind of a value. -/
def kind : Json → String
  | .null => "null"
  | .bool _ => "boolean"
  | .number _ => "number"
  | .string _ => "string"
  | .array _ => "array"
  | .object _ => "object"

def ofNat (n : Nat) : Json := .number (.integer n)

def ofStrings (texts : List String) : Json := .array (texts.map .string)

mutual
/-- No object inside repeats a name. -/
def Distinct : Json → Prop
  | .array items => DistinctItems items
  | .object members => Members.Distinct members ∧ DistinctMembers members
  | _ => True
def DistinctItems : List Json → Prop
  | [] => True
  | item :: rest => item.Distinct ∧ DistinctItems rest
def DistinctMembers : Members Json → Prop
  | [] => True
  | (_, value) :: rest => value.Distinct ∧ DistinctMembers rest
end

end Json

end QueryGuard
