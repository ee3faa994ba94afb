import QueryGuard.Query

/-!
# Folding fragments

Fragments of several rules are folded into one query. Groups under the same
operator are united, without saying anything twice; under every other key the
last fragment wins. Clauses that say nothing are left out.
-/

namespace QueryGuard.Query

/-- Leaves out the top-level clauses that say nothing. -/
def pruned (fragment : Query) : Query :=
  ⟨fragment.clauses.filter fun clause => !clause.2.isEmpty⟩

/-- Appends the children that are not there yet, one after the other. -/
def unite (existing : List Query) : List Query → List Query
  | [] => existing
  | child :: rest =>
    unite (if child.isIn existing then existing else existing ++ [child]) rest

def foldClause (target : Query) (key : String) : Node → Query
  | .group op incoming =>
    match target.group? op with
    | some existing => target.withGroup op (unite existing incoming)
    | none => target.insertGroup op incoming
  | node => target.put key node

/-- Folds every clause of a fragment. -/
def foldAll (target fragment : Query) : Query :=
  fragment.clauses.foldl (fun target clause => target.foldClause clause.1 clause.2) target

/-- Folds what a fragment says. -/
def fold (target fragment : Query) : Query :=
  target.foldAll fragment.pruned

end QueryGuard.Query
