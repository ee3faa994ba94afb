import QueryGuard.Json
import QueryGuard.Query.Key

/-!
# Queries

A query is an ordered map from keys to nodes. In a well-formed query a logical
key holds a group of its own operator and a group stands under its own key;
`Query.insert` and the reader of documents see to that.
-/

namespace QueryGuard

mutual
/-- What stands under a key: an operand, a nested query (a field path going one
level down, or operators applied to a field), or a logical group. -/
inductive Node where
  | literal (value : Json)
  | constraint (query : Query)
  | group (op : Logical) (children : List Query)
structure Query where
  clauses : List (String × Node)
end

namespace Query

def empty : Query := ⟨[]⟩

instance : Inhabited Query := ⟨empty⟩

end Query

instance : Inhabited Node := ⟨.literal .null⟩

-- ---------------------------------------------------------------------------
-- Sameness
-- ---------------------------------------------------------------------------

mutual
/-- Deep equality. Keys may come in any order, children of a group may not. -/
def Node.same : Node → Node → Bool
  | .literal a, .literal b => a.same b
  | .constraint a, .constraint b => a.same b
  | .group op a, .group op' b => op == op' && Query.sameAll a b
  | _, _ => false
def Query.same : Query → Query → Bool
  | ⟨a⟩, ⟨b⟩ => a.length == b.length && Query.sameClauses a b
def Query.sameAll : List Query → List Query → Bool
  | [], [] => true
  | a :: as, b :: bs => a.same b && Query.sameAll as bs
  | _, _ => false
/-- Every clause of the first query has its like in the second. -/
def Query.sameClauses : List (String × Node) → Members Node → Bool
  | [], _ => true
  | (key, a) :: rest, others =>
    (match others.get? key with
      | some b => a.same b
      | none => false) && Query.sameClauses rest others
end

namespace Node

def isIn (node : Node) (nodes : List Node) : Bool :=
  nodes.any node.same

def isGroup : Node → Bool
  | .group .. => true
  | _ => false

def asConstraint? : Node → Option Query
  | .constraint query => some query
  | _ => none

def asLiteral? : Node → Option Json
  | .literal value => some value
  | _ => none

/-- A null operand, an empty constraint and an empty group say nothing. -/
def isEmpty : Node → Bool
  | .literal value => value.isNull
  | .constraint query => query.clauses.isEmpty
  | .group _ children => children.isEmpty

end Node

namespace Query

def isIn (query : Query) (queries : List Query) : Bool :=
  queries.any query.same

def size (q : Query) : Nat := q.clauses.length

def isEmpty (q : Query) : Bool := q.clauses.isEmpty

def keys (q : Query) : List String := Members.names q.clauses

def get? (q : Query) (key : String) : Option Node := Members.get? q.clauses key

def contains (q : Query) (key : String) : Bool := Members.has q.clauses key

/-- Stores a node as it stands, without looking at its key. -/
def put (q : Query) (key : String) (node : Node) : Query :=
  ⟨Members.put key node q.clauses⟩

def insertGroup (q : Query) (op : Logical) (children : List Query) : Query :=
  q.put op.key (.group op children)

/-- The key under which a node is stored: a group's is that of its operator. -/
def keyFor (key : String) : Node → String
  | .group op _ => op.key
  | _ => key

def insert (q : Query) (key : String) (node : Node) : Query :=
  q.put (keyFor key node) node

/-- The node that an insertion replaces. -/
def displaced? (q : Query) (key : String) (node : Node) : Option Node :=
  q.get? (keyFor key node)

def remove (q : Query) (key : String) : Query :=
  ⟨Members.remove key q.clauses⟩

/-- Inserts clause after clause. -/
def ofClauses (clauses : List (String × Node)) : Query :=
  clauses.foldl (fun q clause => q.insert clause.1 clause.2) empty

/-- The clauses that are no groups. -/
def fields (q : Query) : List (String × Node) :=
  q.clauses.filter fun clause => !clause.2.isGroup

/-- Children of the group under the native key of an operator. -/
def group? (q : Query) (op : Logical) : Option (List Query) :=
  match q.get? op.key with
  | some (.group _ children) => some children
  | _ => none

/-- Replaces the children of the group under an operator's key, if there is
one; what operator the group was built with stays. -/
def withGroup (q : Query) (op : Logical) (children : List Query) : Query :=
  match q.get? op.key with
  | some (.group own _) => q.put op.key (.group own children)
  | _ => q

/-- The nodes that the children of the two groups hold for a field. -/
def findInGroups (q : Query) (field : String) : List (Logical × Node) :=
  Logical.all.flatMap fun op =>
    ((q.group? op).getD []).filterMap fun child => (child.get? field).map (op, ·)

end Query

-- ---------------------------------------------------------------------------
-- Operands
-- ---------------------------------------------------------------------------

mutual
/-- The operands of a node, depth first. -/
def Node.literals : Node → List Json
  | .literal value => [value]
  | .constraint query => query.literals
  | .group _ children => Query.literalsAll children
def Query.literals : Query → List Json
  | ⟨clauses⟩ => Query.literalsClauses clauses
def Query.literalsAll : List Query → List Json
  | [] => []
  | query :: rest => query.literals ++ Query.literalsAll rest
def Query.literalsClauses : List (String × Node) → List Json
  | [] => []
  | (_, node) :: rest => node.literals ++ Query.literalsClauses rest
end

mutual
/-- Replaces every operand; keys, order and groups stay. -/
def Node.mapLiterals (f : Json → Json) : Node → Node
  | .literal value => .literal (f value)
  | .constraint query => .constraint (query.mapLiterals f)
  | .group op children => .group op (Query.mapLiteralsAll f children)
def Query.mapLiterals (f : Json → Json) : Query → Query
  | ⟨clauses⟩ => ⟨Query.mapLiteralsClauses f clauses⟩
def Query.mapLiteralsAll (f : Json → Json) : List Query → List Query
  | [] => []
  | query :: rest => query.mapLiterals f :: Query.mapLiteralsAll f rest
def Query.mapLiteralsClauses (f : Json → Json) : List (String × Node) → List (String × Node)
  | [] => []
  | (key, node) :: rest => (key, node.mapLiterals f) :: Query.mapLiteralsClauses f rest
end

-- ---------------------------------------------------------------------------
-- Well-formedness
-- ---------------------------------------------------------------------------

mutual
/-- No query inside repeats a key. -/
def Node.Distinct : Node → Prop
  | .literal value => value.Distinct
  | .constraint query => query.Distinct
  | .group _ children => Query.DistinctAll children
def Query.Distinct : Query → Prop
  | ⟨clauses⟩ => Members.Distinct clauses ∧ Query.DistinctClauses clauses
def Query.DistinctAll : List Query → Prop
  | [] => True
  | query :: rest => query.Distinct ∧ Query.DistinctAll rest
def Query.DistinctClauses : List (String × Node) → Prop
  | [] => True
  | (_, node) :: rest => node.Distinct ∧ Query.DistinctClauses rest
end

end QueryGuard
