import QueryGuard.Comparison.Evaluation
import QueryGuard.Person
import QueryGuard.Policy.Condition
import QueryGuard.PolicyError

/-!
# Environments

The values that rules of one request may refer to. A name may be bound to a
sentinel, which stands for the id of the person linked to the user: the first
reference to it looks the person up and keeps the id.
-/

namespace QueryGuard

structure Environment where
  values : Members Json

namespace Environment

/-- Holds the id of the authenticated user. -/
def userKey : String := "authUserId"

/-- Holds the id of the linked person; the same text is the sentinel. -/
def personKey : String := "personId"

def isSentinel : Json → Bool
  | .string text => text == personKey
  | _ => false

def empty : Environment := ⟨[]⟩

def get? (env : Environment) (name : String) : Option Json := Members.get? env.values name

def put (env : Environment) (name : String) (value : Json) : Environment :=
  ⟨Members.put name value env.values⟩

def forUser : Option String → Environment
  | some id => empty.put userKey (.string id)
  | none => empty

def userId? (env : Environment) : Option String := (env.get? userKey).bind Json.asString?

/-- Is there a value that the sentinel must not replace? -/
def isDerived (env : Environment) (name : String) : Bool :=
  (env.get? name).any fun current => !isSentinel current

/-- Later bindings win, but the sentinel never replaces a value. -/
def bindOne (env : Environment) (name : String) (value : Json) : Environment :=
  if isSentinel value && env.isDerived name then env else env.put name value

def bind (env : Environment) (bindings : Members Json) : Environment :=
  bindings.foldl (fun env binding => env.bindOne binding.1 binding.2) env

-- ---------------------------------------------------------------------------
-- Paths
-- ---------------------------------------------------------------------------

/-- A place in an array: digits, with a plus sign perhaps, of 64 bits. -/
def index? (segment : String) : Option Nat :=
  let digits := match segment.toList with
    | '+' :: rest => rest
    | text => text
  if digits.isEmpty || !digits.all Char.isDigit then none
  else
    let value := digits.foldl (fun n c => n * 10 + (c.toNat - '0'.toNat)) 0
    if value < 1 <<< 64 then some value else none

def child? (value : Json) (segment : String) : Option Json :=
  match value with
  | .object members => Members.get? members segment
  | .array items => (index? segment).bind (items[·]?)
  | _ => none

def walk? (value : Json) : List String → Option Json
  | [] => some value
  | segment :: rest => (child? value segment).bind (walk? · rest)

/-- Walks the segments of a dotted path. -/
def lookup? (env : Environment) (path : String) : Option Json :=
  match (path.toList.splitOn '.').map String.ofList with
  | [] => none
  | first :: rest => (env.get? first).bind (walk? · rest)

/-- The id of the linked person, once it is known. -/
def personId? (env : Environment) : Option Json :=
  (env.get? personKey).filter fun value => !value.isNull && !isSentinel value

-- ---------------------------------------------------------------------------
-- References
-- ---------------------------------------------------------------------------

/-- The path of a reference: what stands behind `env.`, if anything does. -/
def reference? (text : String) : Option String :=
  match text.toList with
  | 'e' :: 'n' :: 'v' :: '.' :: c :: rest => some (String.ofList (c :: rest))
  | _ => none

def isReference (value : Json) : Bool := (value.asString?.bind reference?).isSome

end Environment

-- ---------------------------------------------------------------------------
-- Resolution
-- ---------------------------------------------------------------------------

/-- What resolving changes: the environment, and how often the directory has
been asked. -/
structure Session where
  env : Environment
  lookups : Nat

/-- Resolving may fail; the session then stays as the failure left it. -/
abbrev Resolution := ExceptT PolicyError (StateM Session)

namespace Resolution

def noUser : String := "no authenticated user to link a person to"

def noPerson : String := "no person linked to the authenticated user"

/-- The id of the linked person, asked for at most once. -/
def personId (directory : Directory) (app : String) : Resolution Json := do
  let session ← get
  match session.env.personId? with
  | some id => return id
  | none =>
    match session.env.userId? with
    | none => throw (.environmentResolution app "" noUser)
    | some user =>
      set { session with lookups := session.lookups + 1 }
      match directory app user with
      | .error e => throw (.environmentResolution app user e.message)
      | .ok none => throw (.environmentResolution app user noPerson)
      | .ok (some person) =>
        let id := .string person.id
        modify fun session => { session with env := session.env.put Environment.personKey id }
        return id

/-- A text that is no reference stands for itself; a path that leads nowhere
has no value. -/
def ofText (directory : Directory) (app expression : String) : Resolution (Option Json) :=
  match Environment.reference? expression with
  | none => return some (.string expression)
  | some path => do
    match (← get).env.lookup? path with
    | none => return none
    | some value =>
      if Environment.isSentinel value then some <$> personId directory app
      else return some value

/-- Only texts can be references. -/
def ofValue (directory : Directory) (app : String) : Json → Resolution (Option Json)
  | .string expression => ofText directory app expression
  | value => return some value

end Resolution

/-- Resolves the left operand, then the right one; what has no value counts as
null. -/
def Condition.holds (c : Condition) (directory : Directory) (app : String) :
    Resolution Bool := do
  let lhs ← Resolution.ofValue directory app c.lhs
  let rhs ← Resolution.ofValue directory app c.rhs
  return Comparison.evaluateKey (lhs.getD .null) (rhs.getD .null) c.operator

end QueryGuard
