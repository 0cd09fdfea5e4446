import SqlCompose.Bindings
import SqlCompose.Connective

/-!
# Queries

A query holds its select list, table, limit, conditions and bindings. The
conditions are a list of clauses; a group and a sub-select own a whole query,
so the clauses form a tree.
-/

namespace SqlCompose

mutual

/-- The left-hand side of a predicate. -/
inductive ColumnRef where
  | name (text : String)
  | raw (sql : String)
  | subquery (query : Query)

/-- What a clause checks. The offset of a comparison records how many bindings
came before its value when it was built; it has no part in rendering. -/
inductive Predicate where
  | compare (column : ColumnRef) (operator : String) (value : Value) (offset : Nat)
  | isNull (column : ColumnRef)
  | isNotNull (column : ColumnRef)
  | group (query : Query)
  | compareSubquery (column : ColumnRef) (operator : String) (query : Query)

/-- A predicate and how it joins the clause before it. -/
structure Clause where
  connective : Connective
  predicate : Predicate

/-- A SELECT statement under construction; no select list means every column. -/
structure Query where
  columns : List String := []
  table : Option String := none
  clauses : List Clause := []
  bindings : Bindings := {}
  limit : Option Nat := none

end

namespace Clause

/-- The operator of a clause that compares. -/
def operator? (c : Clause) : Option String :=
  match c.predicate with
  | .compare _ operator _ _ | .compareSubquery _ operator _ => some operator
  | _ => none

end Clause

namespace Query

def hasClauses (q : Query) : Bool :=
  !q.clauses.isEmpty

theorem hasClauses_eq_true_iff {q : Query} : q.hasClauses = true ↔ q.clauses ≠ [] := by
  simp [hasClauses]

end Query

end SqlCompose
