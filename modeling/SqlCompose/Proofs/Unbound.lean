import SqlCompose.Proofs.Counter

/-!
# Queries without their values

Values, recorded offsets and bindings of a query can be taken out of it at every
depth. What remains is all that rendering reads, so the same text is written and
the same placeholders are counted, or the same operator is refused at the same
place.
-/

namespace SqlCompose

mutual

/-- The query with null for every value, no offset and no bindings. -/
def Query.unbound : Query → Query
  | { columns, table, clauses, limit, .. } =>
    { columns, table, clauses := Clause.unboundList clauses, limit }

def Clause.unboundList : List Clause → List Clause
  | [] => []
  | { connective, predicate } :: cs => ⟨connective, predicate.unbound⟩ :: Clause.unboundList cs

def Predicate.unbound : Predicate → Predicate
  | .compare column operator _ _ => .compare column.unbound operator (.scalar .null) 0
  | .isNull column => .isNull column.unbound
  | .isNotNull column => .isNotNull column.unbound
  | .group query => .group query.unbound
  | .compareSubquery column operator query =>
    .compareSubquery column.unbound operator query.unbound

def ColumnRef.unbound : ColumnRef → ColumnRef
  | .name text => .name text
  | .raw sql => .raw sql
  | .subquery query => .subquery query.unbound

end

theorem Query.unbound_eq_iff {q q' : Query} :
    q.unbound = q'.unbound ↔ q.columns = q'.columns ∧ q.table = q'.table ∧
      Clause.unboundList q.clauses = Clause.unboundList q'.clauses ∧ q.limit = q'.limit := by
  obtain ⟨columns, table, clauses, bindings, limit⟩ := q
  obtain ⟨columns', table', clauses', bindings', limit'⟩ := q'
  simp [unbound]

theorem Clause.unboundList_append (cs cs' : List Clause) :
    unboundList (cs ++ cs') = unboundList cs ++ unboundList cs' := by
  induction cs with
  | nil => rfl
  | cons c cs ih =>
    cases c
    simp [unboundList, ih]

theorem Clause.length_unboundList (cs : List Clause) : (unboundList cs).length = cs.length := by
  induction cs with
  | nil => rfl
  | cons c cs ih =>
    cases c
    simp [unboundList, ih]

theorem Clause.isEmpty_unboundList (cs : List Clause) :
    (unboundList cs).isEmpty = cs.isEmpty := by
  cases cs with
  | nil => rfl
  | cons c cs =>
    cases c
    rfl

mutual

theorem Query.write_unbound (d : Dialect) : ∀ q : Query, q.unbound.write d = q.write d
  | ⟨columns, table, clauses, bindings, limit⟩ => by
    simp only [Query.unbound, Query.write, Clause.isEmpty_unboundList,
      Clause.writeList_unbound d clauses]

theorem Clause.writeList_unbound (d : Dialect) : ∀ cs : List Clause,
    Clause.writeList d (Clause.unboundList cs) = Clause.writeList d cs
  | [] => rfl
  | ⟨connective, predicate⟩ :: cs => by
    simp only [Clause.unboundList, Clause.writeList, Predicate.write_unbound d predicate,
      Clause.writeFurther_unbound d cs]

theorem Clause.writeFurther_unbound (d : Dialect) : ∀ cs : List Clause,
    Clause.writeFurther d (Clause.unboundList cs) = Clause.writeFurther d cs
  | [] => rfl
  | ⟨connective, predicate⟩ :: cs => by
    simp only [Clause.unboundList, Clause.writeFurther, Predicate.write_unbound d predicate,
      Clause.writeFurther_unbound d cs]

theorem Predicate.write_unbound (d : Dialect) : ∀ p : Predicate, p.unbound.write d = p.write d
  | .compare column operator v offset => by
    simp only [Predicate.unbound, Predicate.write, ColumnRef.write_unbound d column]
  | .isNull column => by
    simp only [Predicate.unbound, Predicate.write, ColumnRef.write_unbound d column]
  | .isNotNull column => by
    simp only [Predicate.unbound, Predicate.write, ColumnRef.write_unbound d column]
  | .group ⟨columns, table, clauses, bindings, limit⟩ => by
    simp only [Predicate.unbound, Query.unbound, Predicate.write,
      Clause.writeList_unbound d clauses]
  | .compareSubquery column operator query => by
    simp only [Predicate.unbound, Predicate.write, ColumnRef.write_unbound d column,
      Query.write_unbound d query]

theorem ColumnRef.write_unbound (d : Dialect) : ∀ c : ColumnRef, c.unbound.write d = c.write d
  | .name text => rfl
  | .raw sql => rfl
  | .subquery query => by
    simp only [ColumnRef.unbound, ColumnRef.write, Query.write_unbound d query]

end

/-- Queries that differ in values, offsets and bindings only are written alike, also up to where
they are refused. -/
theorem Query.write_of_unbound {q q' : Query} (h : q.unbound = q'.unbound) (d : Dialect) :
    q.write d = q'.write d := by
  rw [← q.write_unbound d, h, q'.write_unbound d]

theorem Query.render_of_unbound {q q' : Query} (h : q.unbound = q'.unbound) (d : Dialect) (n : Nat) :
    q.render d n = q'.render d n := by
  rw [← q.result_write d n, write_of_unbound h, q'.result_write d n]

theorem Clause.renderList_of_unbound {cs cs' : List Clause} (h : unboundList cs = unboundList cs')
    (d : Dialect) (n : Nat) : renderList d cs n = renderList d cs' n := by
  rw [← result_writeList d cs n, ← writeList_unbound d cs, h, writeList_unbound d cs',
    result_writeList d cs' n]

end SqlCompose
