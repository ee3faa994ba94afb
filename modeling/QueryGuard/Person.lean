import QueryGuard.Json.Record
import QueryGuard.StorageError
import QueryGuard.Time.DateTime

/-!
# People

A person record links a user of an app to a person. The store keeps one record
for each app and user: the first one created.
-/

namespace QueryGuard

structure Person where
  id : String
  app : String
  /-- Id of the user that the person is linked to. -/
  auth : String
  data : Json
  createdAt : DateTime

namespace Person

/-- Name of the collection in messages. -/
def collection : String := "people"

/-- A record without data of its own. -/
def fresh (id app auth : String) (createdAt : DateTime) : Person :=
  ⟨id, app, auth, .object [], createdAt⟩

def toJson (p : Person) : Json :=
  .object [("id", .string p.id), ("appId", .string p.app), ("authId", .string p.auth),
    ("data", p.data), ("createdAt", .string p.createdAt.text)]

def dateTime? (value : Json) : Option DateTime := value.asString?.bind DateTime.ofText?

def ofJson? (value : Json) : Option Person := do
  match ← value.fields? ["id", "appId", "authId", "data", "createdAt"] with
  | [id, app, auth, data, createdAt] =>
    return {
      id := ← Json.required Json.asString? id
      app := ← Json.required Json.asString? app
      auth := ← Json.required Json.asString? auth
      data := data.getD .null
      createdAt := ← Json.required dateTime? createdAt }
  | _ => none

end Person

/-- Stored people, in the order in which they were created. -/
structure PeopleStore where
  people : List Person

namespace PeopleStore

def empty : PeopleStore := ⟨[]⟩

def size (s : PeopleStore) : Nat := s.people.length

def find? (s : PeopleStore) (app auth : String) : Option Person :=
  s.people.find? fun p => p.app == app && p.auth == auth

/-- Refuses records without an id or a user, and a second person for a user of
an app. -/
def create (s : PeopleStore) (p : Person) : Except StorageError PeopleStore :=
  if p.id.isEmpty || p.auth.isEmpty then
    .error (.invalidRecord "person id and authId are required")
  else if (s.find? p.app p.auth).isSome then
    .error (.alreadyExists Person.collection p.id)
  else .ok ⟨s.people ++ [p]⟩

end PeopleStore

/-- Answers the question which person is linked to a user of an app. -/
abbrev Directory := String → String → Except StorageError (Option Person)

namespace Directory

def ofStore (s : PeopleStore) : Directory := fun app auth => .ok (s.find? app auth)

/-- A directory whose every answer is a failure. -/
def failing (e : StorageError) : Directory := fun _ _ => .error e

end Directory

end QueryGuard
