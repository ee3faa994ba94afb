/-!
# Failures of stores
-/

namespace QueryGuard

inductive StorageError where
  | notFound (collection id : String)
  | alreadyExists (collection id : String)
  | invalidRecord (message : String)
  | connection (message : String)
  | internal (message : String)
  deriving DecidableEq

namespace StorageError

inductive Category where
  | notFound
  | conflict
  | validation
  | infrastructure
  | internal
  deriving DecidableEq

def Category.text : Category → String
  | .notFound => "not_found"
  | .conflict => "conflict"
  | .validation => "validation"
  | .infrastructure => "infrastructure"
  | .internal => "internal"

def category : StorageError → Category
  | .notFound .. => .notFound
  | .alreadyExists .. => .conflict
  | .invalidRecord _ => .validation
  | .connection _ => .infrastructure
  | .internal _ => .internal

def message : StorageError → String
  | .notFound collection id => "Record not found: " ++ collection ++ "/" ++ id
  | .alreadyExists collection id => "Record already exists: " ++ collection ++ "/" ++ id
  | .invalidRecord message => "Invalid record: " ++ message
  | .connection message => "Connection error: " ++ message
  | .internal message => "Internal error: " ++ message

def isNotFound : StorageError → Bool
  | .notFound .. => true
  | _ => false

def isAlreadyExists : StorageError → Bool
  | .alreadyExists .. => true
  | _ => false

end StorageError

end QueryGuard
