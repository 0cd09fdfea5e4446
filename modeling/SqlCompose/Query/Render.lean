import SqlCompose.Dialect
import SqlCompose.Query

/-!
# Rendering queries

A query is written in one pass from left to right. The number of placeholders
written so far is threaded through groups and sub-selects, so placeholders are
numbered in the order of the values they stand for. The operator of a clause is
checked before its column is written, and its column before its sub-select.
-/

namespace SqlCompose

namespace Query

/-- The select list. -/
def selectList (d : Dialect) (columns : List String) : String :=
  if columns.isEmpty then "*" else ", ".intercalate (columns.map d.wrap)

/-- The statement up to its conditions. -/
def heading (d : Dialect) (columns : List String) (table : Option String) : String :=
  "SELECT " ++ selectList d columns ++ (table.map fun t => " FROM " ++ d.wrap t).getD ""

/-- The statement after its conditions. -/
def ending (limit : Option Nat) : String :=
  (limit.map fun n => " LIMIT " ++ toString n).getD ""

end Query

mutual

/-- A statement, with the number of placeholders written before and after it. -/
def Query.render (d : Dialect) : Query → Nat → Except Error (String × Nat)
  | { columns, table, clauses, limit, .. }, count => do
    let (conditions, count) ← Clause.renderList d clauses count
    let filter := if clauses.isEmpty then "" else " WHERE " ++ conditions
    return (Query.heading d columns table ++ filter ++ Query.ending limit, count)

/-- A list of clauses; the connective of the first is not written. -/
def Clause.renderList (d : Dialect) : List Clause → Nat → Except Error (String × Nat)
  | [], count => return ("", count)
  | { predicate, .. } :: cs, count => do
    let (first, count) ← predicate.render d count
    let (further, count) ← Clause.renderFurther d cs count
    return (first ++ further, count)

/-- Clauses after the first, each with its connective. -/
def Clause.renderFurther (d : Dialect) : List Clause → Nat → Except Error (String × Nat)
  | [], count => return ("", count)
  | { connective, predicate } :: cs, count => do
    let (first, count) ← predicate.render d count
    let (further, count) ← Clause.renderFurther d cs count
    return (" " ++ connective.keyword ++ " " ++ first ++ further, count)

def Predicate.render (d : Dialect) : Predicate → Nat → Except Error (String × Nat)
  | .compare column operator _ _, count => do
    d.checkOperator operator
    let (left, count) ← column.render d count
    return (left ++ " " ++ operator ++ " " ++ d.placeholder (count + 1), count + 1)
  | .isNull column, count => do
    let (left, count) ← column.render d count
    return (left ++ " IS NULL", count)
  | .isNotNull column, count => do
    let (left, count) ← column.render d count
    return (left ++ " IS NOT NULL", count)
  | .group { clauses, .. }, count => do
    let (conditions, count) ← Clause.renderList d clauses count
    return ("(" ++ conditions ++ ")", count)
  | .compareSubquery column operator query, count => do
    d.checkOperator operator
    let (left, count) ← column.render d count
    let (right, count) ← query.render d count
    return (left ++ " " ++ operator ++ " (" ++ right ++ ")", count)

def ColumnRef.render (d : Dialect) : ColumnRef → Nat → Except Error (String × Nat)
  | .name text, count => return (d.wrap text, count)
  | .raw sql, count => return (sql, count)
  | .subquery query, count => do
    let (inner, count) ← query.render d count
    return ("(" ++ inner ++ ")", count)

end

namespace Query

/-- The statement as a whole, its placeholders numbered from one. -/
def toSql (d : Dialect) (q : Query) : Except Error String :=
  (q.render d 0).map Prod.fst

end Query

end SqlCompose
