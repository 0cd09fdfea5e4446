import SqlCompose.Proofs.Numbering

/-!
# Validation of operators

A statement is written exactly if every operator in it is one of the dialect, at
whatever depth it stands, and the operator that is reported is the first one that is
not. An accepted operator is written letter for letter: the statement is laid out
below as fragments, of which the operators are fragments of their own.
-/

namespace SqlCompose

/-! ## Where operators stand -/

/-- A clause of the query itself compares by the operator. -/
def Query.Uses (operator : String) (q : Query) : Prop :=
  ∃ c ∈ q.clauses, c.operator? = some operator

-- The queries of a column are those embedded in it, so the operators of a predicate are its own
-- and those that the embedded queries use.
mutual

theorem Query.mem_operators {operator : String} : ∀ q : Query,
    operator ∈ q.operators ↔ ∃ q' ∈ q :: q.embedded, q'.Uses operator
  | ⟨columns, table, clauses, bindings, limit⟩ => by
    simp only [Query.operators, Query.embedded, Clause.mem_operatorsList clauses,
      List.exists_mem_cons_iff]
    rfl

theorem Clause.mem_operatorsList {operator : String} : ∀ cs : List Clause,
    operator ∈ Clause.operatorsList cs ↔
      (∃ c ∈ cs, c.operator? = some operator) ∨
        ∃ q ∈ Clause.embeddedList cs, q.Uses operator
  | [] => by simp [Clause.operatorsList, Clause.embeddedList]
  | ⟨connective, predicate⟩ :: cs => by
    simp only [Clause.operatorsList, Clause.embeddedList, List.mem_append,
      Predicate.mem_operators connective predicate, Clause.mem_operatorsList cs,
      List.exists_mem_cons_iff, or_and_right, exists_or]
    exact or_or_or_comm

theorem Predicate.mem_operators {operator : String} (connective : Connective) : ∀ p : Predicate,
    operator ∈ p.operators ↔
      (⟨connective, p⟩ : Clause).operator? = some operator ∨
        ∃ q ∈ p.embedded, q.Uses operator
  | .compare column operator' v offset => by
    simp [Predicate.operators, Predicate.embedded, Clause.operator?,
      ColumnRef.mem_operators column, eq_comm]
  | .isNull column => by
    simp [Predicate.operators, Predicate.embedded, Clause.operator?,
      ColumnRef.mem_operators column]
  | .isNotNull column => by
    simp [Predicate.operators, Predicate.embedded, Clause.operator?,
      ColumnRef.mem_operators column]
  | .group ⟨columns, table, clauses, bindings, limit⟩ => by
    simp [Predicate.operators, Predicate.embedded, Query.embedded, Clause.operator?,
      Clause.mem_operatorsList clauses, Query.Uses]
  | .compareSubquery column operator' query => by
    simp only [Predicate.operators, Predicate.embedded, Clause.operator?, List.mem_cons,
      List.mem_append, ColumnRef.mem_operators column, Query.mem_operators query,
      or_and_right, exists_or, Option.some.injEq, eq_comm]

theorem ColumnRef.mem_operators {operator : String} : ∀ c : ColumnRef,
    operator ∈ c.operators ↔ ∃ q ∈ c.embedded, q.Uses operator
  | .name text => by simp [ColumnRef.operators, ColumnRef.embedded]
  | .raw sql => by simp [ColumnRef.operators, ColumnRef.embedded]
  | .subquery query => by
    simp only [ColumnRef.operators, ColumnRef.embedded, Query.mem_operators query]

end

/-! ## Fragments of a statement -/

/-- A stretch of a statement: an operator, a placeholder, or other text. -/
inductive Fragment where
  | text (s : String)
  | operator (s : String)
  | placeholder

namespace Fragment

/-- The operators among fragments. -/
def operators : List Fragment → List String
  | [] => []
  | .text _ :: fs => operators fs
  | .operator s :: fs => s :: operators fs
  | .placeholder :: fs => operators fs

/-- Fragments one after the other, the placeholders numbered after `n` others. -/
def write (placeholder : Nat → String) : List Fragment → Nat → String
  | [], _ => ""
  | .text s :: fs, n => s ++ write placeholder fs n
  | .operator s :: fs, n => s ++ write placeholder fs n
  | .placeholder :: fs, n => placeholder (n + 1) ++ write placeholder fs (n + 1)

/-- The number of placeholders among fragments. -/
def count : List Fragment → Nat
  | [] => 0
  | .text _ :: fs => count fs
  | .operator _ :: fs => count fs
  | .placeholder :: fs => count fs + 1

@[simp] theorem operators_append (fs gs : List Fragment) :
    operators (fs ++ gs) = operators fs ++ operators gs := by
  induction fs with
  | nil => rfl
  | cons f fs ih => cases f <;> simp [operators, ih]

@[simp] theorem count_append (fs gs : List Fragment) : count (fs ++ gs) = count fs + count gs := by
  induction fs with
  | nil => simp [count]
  | cons f fs ih =>
    cases f with
    | text s => exact ih
    | operator s => exact ih
    | placeholder =>
      simp only [List.cons_append, count, ih]
      omega

theorem write_append (placeholder : Nat → String) (fs gs : List Fragment) (n : Nat) :
    write placeholder (fs ++ gs) n =
      write placeholder fs n ++ write placeholder gs (n + count fs) := by
  induction fs generalizing n with
  | nil => simp [write, count]
  | cons f fs ih =>
    cases f with
    | text s => simp [write, count, ih, String.append_assoc]
    | operator s => simp [write, count, ih, String.append_assoc]
    | placeholder =>
      have hn : n + (count fs + 1) = n + 1 + count fs := by omega
      simp [write, count, ih, hn, String.append_assoc]

/-- The fragments are what the pieces of a statement consist of. -/
structure MakeUp (fs : List Fragment) (p : Pieces) : Prop where
  count : count fs = p.count
  write (placeholder : Nat → String) (n : Nat) : write placeholder fs n = p.number placeholder n

namespace MakeUp

variable {fs gs : List Fragment} {p p' : Pieces}

theorem append (h : MakeUp fs p) (h' : MakeUp gs p') : MakeUp (fs ++ gs) (p ++ p') where
  count := by rw [count_append, Pieces.count_append, h.count, h'.count]
  write placeholder n := by
    rw [write_append, Pieces.number_append, h.write, h'.write, h.count]

theorem nil : MakeUp [] (.last "") := ⟨rfl, fun _ _ => rfl⟩

theorem text (s : String) : MakeUp [.text s] (.last s) where
  count := rfl
  write _ _ := String.append_empty

theorem operator (before operator after : String) :
    MakeUp [.text before, .operator operator, .text after]
      (.last (before ++ operator ++ after)) where
  count := rfl
  write placeholder n := by simp [Fragment.write, String.append_assoc]

theorem placeholder : MakeUp [.placeholder] .placeholder where
  count := rfl
  write placeholder n := by simp [Fragment.write]

end MakeUp

end Fragment

mutual

/-- The fragments of a statement. -/
def Query.fragments (d : Dialect) : Query → List Fragment
  | { columns, table, clauses, limit, .. } =>
    let filter := if clauses.isEmpty then [] else .text " WHERE " :: Clause.fragmentsList d clauses
    .text (Query.heading d columns table) :: (filter ++ [.text (Query.ending limit)])

def Clause.fragmentsList (d : Dialect) : List Clause → List Fragment
  | [] => []
  | { predicate, .. } :: cs => predicate.fragments d ++ Clause.fragmentsFurther d cs

def Clause.fragmentsFurther (d : Dialect) : List Clause → List Fragment
  | [] => []
  | { connective, predicate } :: cs =>
    .text (" " ++ connective.keyword ++ " ") ::
      (predicate.fragments d ++ Clause.fragmentsFurther d cs)

def Predicate.fragments (d : Dialect) : Predicate → List Fragment
  | .compare column operator _ _ =>
    column.fragments d ++ [.text " ", .operator operator, .text " "] ++ [.placeholder]
  | .isNull column => column.fragments d ++ [.text " IS NULL"]
  | .isNotNull column => column.fragments d ++ [.text " IS NOT NULL"]
  | .group { clauses, .. } => .text "(" :: (Clause.fragmentsList d clauses ++ [.text ")"])
  | .compareSubquery column operator query =>
    column.fragments d ++ [.text " ", .operator operator, .text " ("] ++ query.fragments d ++
      [.text ")"]

def ColumnRef.fragments (d : Dialect) : ColumnRef → List Fragment
  | .name text => [.text (d.wrap text)]
  | .raw sql => [.text sql]
  | .subquery query => .text "(" :: (query.fragments d ++ [.text ")"])

end

open Fragment (MakeUp)

mutual

theorem Query.makeUp_fragments (d : Dialect) : ∀ q : Query, MakeUp (q.fragments d) (q.pieces d)
  | ⟨columns, table, clauses, bindings, limit⟩ => by
    have hlist := Clause.makeUp_fragmentsList d clauses
    simp only [Query.fragments, Query.pieces]
    split
    · exact ((MakeUp.text _).append .nil).append (.text _)
    · exact ((MakeUp.text _).append ((MakeUp.text _).append hlist)).append (.text _)

theorem Clause.makeUp_fragmentsList (d : Dialect) : ∀ cs : List Clause,
    MakeUp (Clause.fragmentsList d cs) (Clause.piecesList d cs)
  | [] => .nil
  | ⟨_, predicate⟩ :: cs =>
    (Predicate.makeUp_fragments d predicate).append (Clause.makeUp_fragmentsFurther d cs)

theorem Clause.makeUp_fragmentsFurther (d : Dialect) : ∀ cs : List Clause,
    MakeUp (Clause.fragmentsFurther d cs) (Clause.piecesFurther d cs)
  | [] => .nil
  | ⟨_, predicate⟩ :: cs =>
    ((MakeUp.text _).append (Predicate.makeUp_fragments d predicate)).append
      (Clause.makeUp_fragmentsFurther d cs)

theorem Predicate.makeUp_fragments (d : Dialect) : ∀ p : Predicate,
    MakeUp (p.fragments d) (p.pieces d)
  | .compare column operator _ _ =>
    ((ColumnRef.makeUp_fragments d column).append (.operator " " operator " ")).append .placeholder
  | .isNull column => (ColumnRef.makeUp_fragments d column).append (.text _)
  | .isNotNull column => (ColumnRef.makeUp_fragments d column).append (.text _)
  | .group ⟨_, _, clauses, _, _⟩ =>
    ((MakeUp.text "(").append (Clause.makeUp_fragmentsList d clauses)).append (.text ")")
  | .compareSubquery column operator query =>
    (((ColumnRef.makeUp_fragments d column).append (.operator " " operator " (")).append
      (Query.makeUp_fragments d query)).append (.text ")")

theorem ColumnRef.makeUp_fragments (d : Dialect) : ∀ c : ColumnRef,
    MakeUp (c.fragments d) (c.pieces d)
  | .name _ => .text _
  | .raw _ => .text _
  | .subquery query =>
    ((MakeUp.text "(").append (Query.makeUp_fragments d query)).append (.text ")")

end

-- The operator of a clause is checked before its column is looked at, but written after it.
mutual

theorem Query.perm_operators (d : Dialect) : ∀ q : Query,
    (Fragment.operators (q.fragments d)).Perm q.operators
  | ⟨columns, table, clauses, bindings, limit⟩ => by
    have hlist := Clause.perm_operatorsList d clauses
    simp only [Query.fragments, Query.operators]
    split
    · next h =>
      rw [List.isEmpty_iff.mp h]
      exact .nil
    · simpa [Fragment.operators] using hlist

theorem Clause.perm_operatorsList (d : Dialect) : ∀ cs : List Clause,
    (Fragment.operators (Clause.fragmentsList d cs)).Perm (Clause.operatorsList cs)
  | [] => .nil
  | ⟨connective, predicate⟩ :: cs => by
    rw [Clause.fragmentsList, Clause.operatorsList, Fragment.operators_append]
    exact (Predicate.perm_operators d predicate).append (Clause.perm_operatorsFurther d cs)

theorem Clause.perm_operatorsFurther (d : Dialect) : ∀ cs : List Clause,
    (Fragment.operators (Clause.fragmentsFurther d cs)).Perm (Clause.operatorsList cs)
  | [] => .nil
  | ⟨connective, predicate⟩ :: cs => by
    have h := (Predicate.perm_operators d predicate).append (Clause.perm_operatorsFurther d cs)
    simpa [Clause.fragmentsFurther, Clause.operatorsList, Fragment.operators] using h

theorem Predicate.perm_operators (d : Dialect) : ∀ p : Predicate,
    (Fragment.operators (p.fragments d)).Perm p.operators
  | .compare column operator _ _ => by
    have h := (List.perm_append_singleton operator _).trans
      ((ColumnRef.perm_operators d column).cons operator)
    simpa [Predicate.fragments, Predicate.operators, Fragment.operators] using h
  | .isNull column => by
    simpa [Predicate.fragments, Predicate.operators, Fragment.operators]
      using ColumnRef.perm_operators d column
  | .isNotNull column => by
    simpa [Predicate.fragments, Predicate.operators, Fragment.operators]
      using ColumnRef.perm_operators d column
  | .group ⟨columns, table, clauses, bindings, limit⟩ => by
    simpa [Predicate.fragments, Predicate.operators, Fragment.operators]
      using Clause.perm_operatorsList d clauses
  | .compareSubquery column operator query => by
    have h := List.perm_middle.trans
      (((ColumnRef.perm_operators d column).append (Query.perm_operators d query)).cons operator)
    simpa [Predicate.fragments, Predicate.operators, Fragment.operators] using h

theorem ColumnRef.perm_operators (d : Dialect) : ∀ c : ColumnRef,
    (Fragment.operators (c.fragments d)).Perm c.operators
  | .name text => .nil
  | .raw sql => .nil
  | .subquery query => by
    simpa [ColumnRef.fragments, ColumnRef.operators, Fragment.operators]
      using Query.perm_operators d query

end

/-! ## The first operator that is refused -/

/-- Operators are checked up to the first that is not one of the dialect. -/
theorem Dialect.checkOperators_eq (d : Dialect) (operators : List String) :
    d.checkOperators operators =
      match operators.find? (!d.isOperator ·) with
      | none => .ok ()
      | some operator => .error (.invalidOperator operator) := by
  induction operators with
  | nil => rfl
  | cons operator operators ih =>
    rw [checkOperators_cons, checkOperator]
    cases h : d.isOperator operator with
    | true => simpa [h, Bind.bind, Except.bind] using ih
    | false => simp [h, Bind.bind, Except.bind]

/-- A rendering is refused for the first operator that is not one of the dialect. -/
theorem Query.render_eq_find (d : Dialect) (q : Query) (n : Nat) :
    q.render d n =
      match q.operators.find? (!d.isOperator ·) with
      | none => .ok (Fragment.write d.placeholder (q.fragments d) n, n + q.values.length)
      | some operator => .error (.invalidOperator operator) := by
  have hwrite := (q.makeUp_fragments d).write d.placeholder n
  rw [q.render_eq d n, Dialect.written, d.checkOperators_eq, ← q.count_pieces d, hwrite]
  cases q.operators.find? (!d.isOperator ·) <;> rfl

/-- A statement is written exactly if the operators of all clauses, of the query and of all that
is embedded in it, are operators of the dialect. Otherwise the first that is not one is reported:
clauses from left to right, the operator of a clause before those in its column, and those before
the ones in its sub-select. What is written consists of fragments, and the operators are among
them just as they were given. -/
theorem operators_checked_in_order (d : Dialect) (q : Query) (n : Nat) :
    ((∃ text m, q.render d n = .ok (text, m)) ↔
      ∀ q' ∈ q :: q.embedded, ∀ operator, q'.Uses operator → d.isOperator operator = true) ∧
    (∀ e, q.render d n = .error e ↔
      ∃ operator, q.operators.find? (!d.isOperator ·) = some operator ∧
        e = .invalidOperator operator) ∧
    (∀ text m, q.render d n = .ok (text, m) →
      text = Fragment.write d.placeholder (q.fragments d) n) ∧
    (Fragment.operators (q.fragments d)).Perm q.operators := by
  have huses : (∀ operator ∈ q.operators, d.isOperator operator = true) ↔
      ∀ q' ∈ q :: q.embedded, ∀ operator, q'.Uses operator → d.isOperator operator = true := by
    constructor
    · intro h q' hq' operator ho
      exact h operator (q.mem_operators.mpr ⟨q', hq', ho⟩)
    · intro h operator ho
      obtain ⟨q', hq', ho⟩ := q.mem_operators.mp ho
      exact h q' hq' operator ho
  have hrender := q.render_eq_find d n
  have hperm := q.perm_operators d
  cases hfind : q.operators.find? (!d.isOperator ·) with
  | none =>
    rw [hfind] at hrender
    simp only [List.find?_eq_none, Bool.not_eq_true', Bool.not_eq_false] at hfind
    refine ⟨⟨fun _ => huses.mp hfind, fun _ => ⟨_, _, hrender⟩⟩, ?_, ?_, hperm⟩
    · intro e
      simp [hrender]
    · intro text m h
      rw [hrender] at h
      cases h
      rfl
  | some operator =>
    rw [hfind] at hrender
    have hmem := List.mem_of_find?_eq_some hfind
    have hbad := List.find?_some hfind
    refine ⟨⟨?_, ?_⟩, ?_, ?_, hperm⟩
    · rintro ⟨text, m, h⟩
      rw [hrender] at h
      cases h
    · intro h
      simp [huses.mpr h operator hmem] at hbad
    · intro e
      simp [hrender, eq_comm]
    · intro text m h
      rw [hrender] at h
      cases h

/-- Three operators in a group, of which SQLite knows the outer one only: it reports the one in the
column before the one in the sub-select. PostgreSQL knows all three and they keep their case. -/
theorem operators_checked_in_order_nested :
    let tags : Query := {
      table := some "tags"
      clauses := [⟨.and, .compare (.name "tag") "@>" (.scalar (.int 5)) 1⟩] }
    let flags : Query := {
      clauses := [⟨.and, .isNull (.subquery {
        clauses := [⟨.and, .compare (.name "flag") "#" (.scalar (.int 6)) 1⟩] })⟩] }
    let q : Query := {
      clauses := [⟨.and, .group {
        clauses := [⟨.or, .compareSubquery (.subquery tags) "Not In" flags⟩] }⟩] }
    q.render .sqlite 0 = .error (.invalidOperator "@>") ∧
    (∀ q' ∈ q :: q.embedded, ∀ operator, q'.Uses operator →
      Dialect.postgresql.isOperator operator = true) ∧
    ∃ text m, q.render .postgresql 0 = .ok (text, m) ∧
      text = Fragment.write Dialect.postgresql.placeholder (q.fragments .postgresql) 0 ∧
      Fragment.operators (q.fragments .postgresql) = ["@>", "Not In", "#"] := by
  intro tags flags q
  obtain ⟨-, hfirst, -, -⟩ := operators_checked_in_order .sqlite q 0
  obtain ⟨hall, -, htext, -⟩ := operators_checked_in_order .postgresql q 0
  refine ⟨(hfirst _).mpr ⟨"@>", rfl, rfl⟩, hall.mp ⟨_, _, rfl⟩, _, _, rfl, htext _ _ rfl, rfl⟩

end SqlCompose
