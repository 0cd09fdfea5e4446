import SqlCompose.Query.Render
import Mathlib.Tactic

/-!
# Rendering with one counter

Rendering may also be read as one pass over the query with a single counter of the
placeholders written so far. Unlike the count that `render` returns, the counter is
still there when the pass is refused: it stands where the pass stopped.
-/

namespace SqlCompose

/-- A pass with a counter, which is kept when the pass is refused. -/
def Counting (α : Type) : Type :=
  Nat → Except Error α × Nat

namespace Counting

instance : Monad Counting where
  pure a := fun n => (.ok a, n)
  bind pass next := fun n =>
    match pass n with
    | (.ok a, n) => next a n
    | (.error e, n) => (.error e, n)

def ofExcept {α : Type} (result : Except Error α) : Counting α :=
  fun n => (result, n)

/-- The number of the next placeholder. -/
def next : Counting Nat :=
  fun n => (.ok (n + 1), n + 1)

/-- The result of a pass from a count on, with the count after it. -/
def result {α : Type} (pass : Counting α) (n : Nat) : Except Error (α × Nat) :=
  match pass n with
  | (.ok a, n) => .ok (a, n)
  | (.error e, _) => .error e

@[simp] theorem result_pure {α : Type} (a : α) (n : Nat) :
    (pure a : Counting α).result n = .ok (a, n) := rfl

@[simp] theorem result_bind {α β : Type} (pass : Counting α) (following : α → Counting β)
    (n : Nat) :
    (pass >>= following).result n = pass.result n >>= fun r => (following r.1).result r.2 := by
  simp only [result, Bind.bind]
  rcases pass n with ⟨_ | _, _⟩ <;> rfl

@[simp] theorem result_ofExcept {α : Type} (x : Except Error α) (n : Nat) :
    (ofExcept x).result n = x.map (·, n) := by
  cases x <;> rfl

@[simp] theorem result_next (n : Nat) : next.result n = .ok (n + 1, n + 1) := rfl

end Counting

mutual

/-- A statement. -/
def Query.write (d : Dialect) : Query → Counting String
  | { columns, table, clauses, limit, .. } => do
    let conditions ← Clause.writeList d clauses
    let filter := if clauses.isEmpty then "" else " WHERE " ++ conditions
    return Query.heading d columns table ++ filter ++ Query.ending limit

def Clause.writeList (d : Dialect) : List Clause → Counting String
  | [] => return ""
  | { predicate, .. } :: cs => do
    let first ← predicate.write d
    let further ← Clause.writeFurther d cs
    return first ++ further

def Clause.writeFurther (d : Dialect) : List Clause → Counting String
  | [] => return ""
  | { connective, predicate } :: cs => do
    let first ← predicate.write d
    let further ← Clause.writeFurther d cs
    return " " ++ connective.keyword ++ " " ++ first ++ further

def Predicate.write (d : Dialect) : Predicate → Counting String
  | .compare column operator _ _ => do
    .ofExcept (d.checkOperator operator)
    let left ← column.write d
    let number ← .next
    return left ++ " " ++ operator ++ " " ++ d.placeholder number
  | .isNull column => do
    let left ← column.write d
    return left ++ " IS NULL"
  | .isNotNull column => do
    let left ← column.write d
    return left ++ " IS NOT NULL"
  | .group { clauses, .. } => do
    let conditions ← Clause.writeList d clauses
    return "(" ++ conditions ++ ")"
  | .compareSubquery column operator query => do
    .ofExcept (d.checkOperator operator)
    let left ← column.write d
    let right ← query.write d
    return left ++ " " ++ operator ++ " (" ++ right ++ ")"

def ColumnRef.write (d : Dialect) : ColumnRef → Counting String
  | .name text => return d.wrap text
  | .raw sql => return sql
  | .subquery query => do
    let inner ← query.write d
    return "(" ++ inner ++ ")"

end

mutual

/-- The pass renders the query. -/
theorem Query.result_write (d : Dialect) : ∀ (q : Query) (n : Nat),
    (q.write d).result n = q.render d n
  | ⟨columns, table, clauses, bindings, limit⟩, n => by
    simp only [Query.write, Query.render, Counting.result_bind, Counting.result_pure,
      Clause.result_writeList d clauses]
    rfl

theorem Clause.result_writeList (d : Dialect) : ∀ (cs : List Clause) (n : Nat),
    (Clause.writeList d cs).result n = Clause.renderList d cs n
  | [], n => rfl
  | ⟨connective, predicate⟩ :: cs, n => by
    simp only [Clause.writeList, Clause.renderList, Counting.result_bind, Counting.result_pure,
      Predicate.result_write d predicate, Clause.result_writeFurther d cs]
    rfl

theorem Clause.result_writeFurther (d : Dialect) : ∀ (cs : List Clause) (n : Nat),
    (Clause.writeFurther d cs).result n = Clause.renderFurther d cs n
  | [], n => rfl
  | ⟨connective, predicate⟩ :: cs, n => by
    simp only [Clause.writeFurther, Clause.renderFurther, Counting.result_bind,
      Counting.result_pure, Predicate.result_write d predicate, Clause.result_writeFurther d cs]
    rfl

theorem Predicate.result_write (d : Dialect) : ∀ (p : Predicate) (n : Nat),
    (p.write d).result n = p.render d n
  | .compare column operator v offset, n => by
    simp only [Predicate.write, Predicate.render, Counting.result_bind, Counting.result_pure,
      Counting.result_ofExcept, Counting.result_next, ColumnRef.result_write d column]
    cases d.checkOperator operator <;> rfl
  | .isNull column, n => by
    simp only [Predicate.write, Predicate.render, Counting.result_bind, Counting.result_pure,
      ColumnRef.result_write d column]
    rfl
  | .isNotNull column, n => by
    simp only [Predicate.write, Predicate.render, Counting.result_bind, Counting.result_pure,
      ColumnRef.result_write d column]
    rfl
  | .group ⟨columns, table, clauses, bindings, limit⟩, n => by
    simp only [Predicate.write, Predicate.render, Counting.result_bind, Counting.result_pure,
      Clause.result_writeList d clauses]
    rfl
  | .compareSubquery column operator query, n => by
    simp only [Predicate.write, Predicate.render, Counting.result_bind, Counting.result_pure,
      Counting.result_ofExcept, ColumnRef.result_write d column, Query.result_write d query]
    cases d.checkOperator operator <;> rfl

theorem ColumnRef.result_write (d : Dialect) : ∀ (c : ColumnRef) (n : Nat),
    (c.write d).result n = c.render d n
  | .name text, n => rfl
  | .raw sql, n => rfl
  | .subquery query, n => by
    simp only [ColumnRef.write, ColumnRef.render, Counting.result_bind, Counting.result_pure,
      Query.result_write d query]
    rfl

end

end SqlCompose
