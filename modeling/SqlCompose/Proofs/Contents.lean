import SqlCompose.Query
import Mathlib.Tactic

/-!
# What a query holds

The conditions of a query form a tree: columns, groups and sub-selects hold
whole queries. The lists below read that tree from left to right, a column
before the sub-select it is compared with, as the tree is written.
-/

namespace SqlCompose

mutual

/-- The operators of a statement in the order in which they are checked. -/
def Query.operators : Query → List String
  | { clauses, .. } => Clause.operatorsList clauses

def Clause.operatorsList : List Clause → List String
  | [] => []
  | { predicate, .. } :: cs => predicate.operators ++ Clause.operatorsList cs

def Predicate.operators : Predicate → List String
  | .compare column operator _ _ => operator :: column.operators
  | .isNull column => column.operators
  | .isNotNull column => column.operators
  | .group { clauses, .. } => Clause.operatorsList clauses
  | .compareSubquery column operator query => operator :: (column.operators ++ query.operators)

def ColumnRef.operators : ColumnRef → List String
  | .name _ => []
  | .raw _ => []
  | .subquery query => query.operators

end

mutual

/-- The values of the comparisons of a statement, in the order of their placeholders. -/
def Query.values : Query → List Value
  | { clauses, .. } => Clause.valuesList clauses

def Clause.valuesList : List Clause → List Value
  | [] => []
  | { predicate, .. } :: cs => predicate.values ++ Clause.valuesList cs

def Predicate.values : Predicate → List Value
  | .compare column _ v _ => column.values ++ [v]
  | .isNull column => column.values
  | .isNotNull column => column.values
  | .group { clauses, .. } => Clause.valuesList clauses
  | .compareSubquery column _ query => column.values ++ query.values

def ColumnRef.values : ColumnRef → List Value
  | .name _ => []
  | .raw _ => []
  | .subquery query => query.values

end

mutual

/-- The queries that stand in the conditions of a query, at any depth. -/
def Query.embedded : Query → List Query
  | { clauses, .. } => Clause.embeddedList clauses

def Clause.embeddedList : List Clause → List Query
  | [] => []
  | { predicate, .. } :: cs => predicate.embedded ++ Clause.embeddedList cs

def Predicate.embedded : Predicate → List Query
  | .compare column _ _ _ => column.embedded
  | .isNull column => column.embedded
  | .isNotNull column => column.embedded
  | .group query => query :: query.embedded
  | .compareSubquery column _ query => column.embedded ++ query :: query.embedded

def ColumnRef.embedded : ColumnRef → List Query
  | .name _ => []
  | .raw _ => []
  | .subquery query => query :: query.embedded

end

namespace Query

theorem values_eq (q : Query) : q.values = Clause.valuesList q.clauses := by
  cases q
  rfl

theorem embedded_eq (q : Query) : q.embedded = Clause.embeddedList q.clauses := by
  cases q
  rfl

end Query

theorem Predicate.values_group (q : Query) : (group q).values = q.values := by
  cases q
  rfl

namespace Clause

theorem valuesList_append (cs cs' : List Clause) :
    valuesList (cs ++ cs') = valuesList cs ++ valuesList cs' := by
  induction cs with
  | nil => rfl
  | cons c cs ih =>
    cases c
    simp [valuesList, ih]

theorem embeddedList_append (cs cs' : List Clause) :
    embeddedList (cs ++ cs') = embeddedList cs ++ embeddedList cs' := by
  induction cs with
  | nil => rfl
  | cons c cs ih =>
    cases c
    simp [embeddedList, ih]

end Clause

end SqlCompose
