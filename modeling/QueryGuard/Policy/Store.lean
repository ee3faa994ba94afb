import QueryGuard.Policy
import QueryGuard.StorageError

/-!
# Stored policies

Policies are stored by their ids, and only if they are valid. An app's active
policies are listed by priority and, among equals, by id.
-/

namespace QueryGuard

structure PolicyStore where
  policies : Members Policy

namespace PolicyStore

/-- Name of the collection in messages. -/
def collection : String := "policies"

def empty : PolicyStore := ⟨[]⟩

def size (s : PolicyStore) : Nat := s.policies.length

def get? (s : PolicyStore) (id : String) : Option Policy := Members.get? s.policies id

/-- Does a policy come before another, or can it as well? -/
def ordered (p other : Policy) : Bool :=
  p.priority < other.priority || (p.priority == other.priority && p.id ≤ other.id)

def isListed (app : String) (p : Policy) : Bool := p.active && p.app == app

def listActive (s : PolicyStore) (app : String) : List Policy :=
  ((s.policies.map Prod.snd).filter (isListed app)).mergeSort ordered

/-- A policy without an id gets the fresh one. -/
def identified (p : Policy) (fresh : String) : Policy :=
  if p.id.isEmpty then { p with id := fresh } else p

/-- Stores a valid policy, over the one that had its id. -/
def upsert (s : PolicyStore) (fresh : String) (p : Policy) :
    Except StorageError (Policy × PolicyStore) :=
  match p.validate with
  | .error e => .error (.invalidRecord e.message)
  | .ok _ =>
    let stored := identified p fresh
    .ok (stored, ⟨Members.put stored.id stored s.policies⟩)

def delete (s : PolicyStore) (id : String) : Except StorageError PolicyStore :=
  if (s.get? id).isSome then .ok ⟨Members.remove id s.policies⟩
  else .error (.notFound collection id)

end PolicyStore

/-- Answers the question which policies an app has. What it lists need not be
selected or in order. -/
abbrev PolicySource := String → Except StorageError (List Policy)

namespace PolicySource

def ofStore (s : PolicyStore) : PolicySource := fun app => .ok (s.listActive app)

/-- Lists the same for every app. -/
def ofList (policies : List Policy) : PolicySource := fun _ => .ok policies

/-- A source whose every answer is a failure. -/
def failing (e : StorageError) : PolicySource := fun _ => .error e

end PolicySource

end QueryGuard
