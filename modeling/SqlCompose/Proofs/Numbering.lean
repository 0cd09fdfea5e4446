import SqlCompose.Dialect.Postgresql
import SqlCompose.Dialect.Sqlite
import SqlCompose.Proofs.Contents
import SqlCompose.Query.Render

/-!
# Numbering of placeholders

A rendered statement is a sequence of fixed pieces with one placeholder between
each piece and the next. The pieces, and the operators in the order in which
they are checked, are read off the query alone: the placeholders that were
written before have a part in nothing but the numbers.
-/

namespace SqlCompose

/-- Fixed texts with a placeholder between each one and the next. -/
inductive Pieces where
  | last (text : String)
  | mark (text : String) (rest : Pieces)

namespace Pieces

/-- The text with its placeholders written, after `count` others. -/
def number (placeholder : Nat → String) : Pieces → Nat → String
  | .last text, _ => text
  | .mark text rest, count => text ++ placeholder (count + 1) ++ rest.number placeholder (count + 1)

/-- The number of placeholders. -/
def count : Pieces → Nat
  | .last _ => 0
  | .mark _ rest => rest.count + 1

/-- One text after another; the pieces that meet become one. -/
def append : Pieces → Pieces → Pieces
  | .last text, .last text' => .last (text ++ text')
  | .last text, .mark text' rest => .mark (text ++ text') rest
  | .mark text rest, p => .mark text (rest.append p)

instance : Append Pieces := ⟨append⟩

/-- A single placeholder. -/
def placeholder : Pieces :=
  .mark "" (.last "")

theorem last_append_last (s t : String) : last s ++ last t = last (s ++ t) := rfl

theorem last_append_mark (s t : String) (p : Pieces) :
    last s ++ mark t p = mark (s ++ t) p := rfl

theorem mark_append (s : String) (p p' : Pieces) : mark s p ++ p' = mark s (p ++ p') := rfl

variable (ph : Nat → String)

@[simp] theorem number_last (s : String) (n : Nat) : (last s).number ph n = s := rfl

@[simp] theorem number_placeholder (n : Nat) : placeholder.number ph n = ph (n + 1) := by
  simp [placeholder, number]

@[simp] theorem count_last (s : String) : (last s).count = 0 := rfl

@[simp] theorem count_placeholder : placeholder.count = 1 := rfl

@[simp] theorem count_append (p p' : Pieces) : (p ++ p').count = p.count + p'.count := by
  induction p with
  | last s =>
    cases p' with
    | last t => rw [last_append_last]; rfl
    | mark t p' => rw [last_append_mark]; simp [count]
  | mark s p ih =>
    rw [mark_append]
    simp only [count, ih]
    omega

/-- The placeholders of the second text are numbered after those of the first. -/
@[simp] theorem number_append (p p' : Pieces) (n : Nat) :
    (p ++ p').number ph n = p.number ph n ++ p'.number ph (n + p.count) := by
  induction p generalizing n with
  | last s =>
    cases p' with
    | last t => rw [last_append_last]; rfl
    | mark t p' => rw [last_append_mark]; simp [number, String.append_assoc]
  | mark s p ih =>
    have hn : n + (p.count + 1) = n + 1 + p.count := by omega
    rw [mark_append]
    simp only [number, count, ih, hn, String.append_assoc]

end Pieces

mutual

/-- The pieces of a statement. -/
def Query.pieces (d : Dialect) : Query → Pieces
  | { columns, table, clauses, limit, .. } =>
    let filter :=
      if clauses.isEmpty then .last "" else .last " WHERE " ++ Clause.piecesList d clauses
    .last (Query.heading d columns table) ++ filter ++ .last (Query.ending limit)

def Clause.piecesList (d : Dialect) : List Clause → Pieces
  | [] => .last ""
  | { predicate, .. } :: cs => predicate.pieces d ++ Clause.piecesFurther d cs

def Clause.piecesFurther (d : Dialect) : List Clause → Pieces
  | [] => .last ""
  | { connective, predicate } :: cs =>
    .last (" " ++ connective.keyword ++ " ") ++ predicate.pieces d ++ Clause.piecesFurther d cs

def Predicate.pieces (d : Dialect) : Predicate → Pieces
  | .compare column operator _ _ =>
    column.pieces d ++ .last (" " ++ operator ++ " ") ++ .placeholder
  | .isNull column => column.pieces d ++ .last " IS NULL"
  | .isNotNull column => column.pieces d ++ .last " IS NOT NULL"
  | .group { clauses, .. } => .last "(" ++ Clause.piecesList d clauses ++ .last ")"
  | .compareSubquery column operator query =>
    column.pieces d ++ .last (" " ++ operator ++ " (") ++ query.pieces d ++ .last ")"

def ColumnRef.pieces (d : Dialect) : ColumnRef → Pieces
  | .name text => .last (d.wrap text)
  | .raw sql => .last sql
  | .subquery query => .last "(" ++ query.pieces d ++ .last ")"

end

/-- Checks operators one after the other, up to the first that is refused. -/
def Dialect.checkOperators (d : Dialect) (operators : List String) : Except Error Unit :=
  operators.forM d.checkOperator

@[simp] theorem Dialect.checkOperators_nil (d : Dialect) : d.checkOperators [] = pure () := rfl

@[simp] theorem Dialect.checkOperators_cons (d : Dialect) (operator : String) (ops : List String) :
    d.checkOperators (operator :: ops) = (do d.checkOperator operator; d.checkOperators ops) := rfl

@[simp] theorem Dialect.checkOperators_append (d : Dialect) (ops ops' : List String) :
    d.checkOperators (ops ++ ops') = (do d.checkOperators ops; d.checkOperators ops') :=
  List.forM_append

/-- What a rendering answers: the pieces with their placeholders numbered after `n` others. -/
def Dialect.written (d : Dialect) (operators : List String) (p : Pieces) (n : Nat) :
    Except Error (String × Nat) := do
  d.checkOperators operators
  return (p.number d.placeholder n, n + p.count)

mutual

theorem Query.render_eq (d : Dialect) : ∀ (q : Query) (n : Nat),
    q.render d n = d.written q.operators (q.pieces d) n
  | ⟨columns, table, clauses, bindings, limit⟩, n => by
    simp only [Query.render, Query.operators, Query.pieces, Clause.renderList_eq d clauses n]
    by_cases h : clauses = []
    · simp [h, Dialect.written, Clause.operatorsList, Clause.piecesList]
    · simp [h, Dialect.written]

theorem Clause.renderList_eq (d : Dialect) : ∀ (cs : List Clause) (n : Nat),
    Clause.renderList d cs n = d.written (Clause.operatorsList cs) (Clause.piecesList d cs) n
  | [], n => by
    simp [Clause.renderList, Clause.operatorsList, Clause.piecesList, Dialect.written]
  | ⟨connective, predicate⟩ :: cs, n => by
    simp only [Clause.renderList, Clause.operatorsList, Clause.piecesList,
      Predicate.render_eq d predicate, Clause.renderFurther_eq d cs]
    simp [Dialect.written, Nat.add_assoc]

theorem Clause.renderFurther_eq (d : Dialect) : ∀ (cs : List Clause) (n : Nat),
    Clause.renderFurther d cs n = d.written (Clause.operatorsList cs) (Clause.piecesFurther d cs) n
  | [], n => by
    simp [Clause.renderFurther, Clause.operatorsList, Clause.piecesFurther, Dialect.written]
  | ⟨connective, predicate⟩ :: cs, n => by
    simp only [Clause.renderFurther, Clause.operatorsList, Clause.piecesFurther,
      Predicate.render_eq d predicate, Clause.renderFurther_eq d cs]
    simp [Dialect.written, String.append_assoc, Nat.add_assoc]

theorem Predicate.render_eq (d : Dialect) : ∀ (p : Predicate) (n : Nat),
    p.render d n = d.written p.operators (p.pieces d) n
  | .compare column operator v offset, n => by
    simp only [Predicate.render, Predicate.operators, Predicate.pieces,
      ColumnRef.render_eq d column]
    simp [Dialect.written, String.append_assoc, Nat.add_assoc]
  | .isNull column, n => by
    simp only [Predicate.render, Predicate.operators, Predicate.pieces,
      ColumnRef.render_eq d column]
    simp [Dialect.written]
  | .isNotNull column, n => by
    simp only [Predicate.render, Predicate.operators, Predicate.pieces,
      ColumnRef.render_eq d column]
    simp [Dialect.written]
  | .group ⟨columns, table, clauses, bindings, limit⟩, n => by
    simp only [Predicate.render, Predicate.operators, Predicate.pieces,
      Clause.renderList_eq d clauses]
    simp [Dialect.written, String.append_assoc]
  | .compareSubquery column operator query, n => by
    simp only [Predicate.render, Predicate.operators, Predicate.pieces,
      ColumnRef.render_eq d column, Query.render_eq d query]
    simp [Dialect.written, String.append_assoc, Nat.add_assoc]

theorem ColumnRef.render_eq (d : Dialect) : ∀ (c : ColumnRef) (n : Nat),
    c.render d n = d.written c.operators (c.pieces d) n
  | .name text, n => by
    simp [ColumnRef.render, ColumnRef.operators, ColumnRef.pieces, Dialect.written]
  | .raw sql, n => by
    simp [ColumnRef.render, ColumnRef.operators, ColumnRef.pieces, Dialect.written]
  | .subquery query, n => by
    simp only [ColumnRef.render, ColumnRef.operators, ColumnRef.pieces, Query.render_eq d query]
    simp [Dialect.written, String.append_assoc]

end

/-! ## One placeholder for each comparison -/

mutual

theorem Query.count_pieces (d : Dialect) : ∀ q : Query, (q.pieces d).count = q.values.length
  | ⟨columns, table, clauses, bindings, limit⟩ => by
    simp only [Query.pieces, Query.values, ← Clause.count_piecesList d clauses]
    by_cases h : clauses = []
    · simp [h, Clause.piecesList]
    · simp [h]

theorem Clause.count_piecesList (d : Dialect) : ∀ cs : List Clause,
    (Clause.piecesList d cs).count = (Clause.valuesList cs).length
  | [] => rfl
  | ⟨connective, predicate⟩ :: cs => by
    simp [Clause.piecesList, Clause.valuesList, Predicate.count_pieces d predicate,
      Clause.count_piecesFurther d cs]

theorem Clause.count_piecesFurther (d : Dialect) : ∀ cs : List Clause,
    (Clause.piecesFurther d cs).count = (Clause.valuesList cs).length
  | [] => rfl
  | ⟨connective, predicate⟩ :: cs => by
    simp [Clause.piecesFurther, Clause.valuesList, Predicate.count_pieces d predicate,
      Clause.count_piecesFurther d cs]

theorem Predicate.count_pieces (d : Dialect) : ∀ p : Predicate,
    (p.pieces d).count = p.values.length
  | .compare column operator v offset => by
    simp [Predicate.pieces, Predicate.values, ColumnRef.count_pieces d column]
  | .isNull column => by
    simp [Predicate.pieces, Predicate.values, ColumnRef.count_pieces d column]
  | .isNotNull column => by
    simp [Predicate.pieces, Predicate.values, ColumnRef.count_pieces d column]
  | .group ⟨columns, table, clauses, bindings, limit⟩ => by
    simp [Predicate.pieces, Predicate.values, Clause.count_piecesList d clauses]
  | .compareSubquery column operator query => by
    simp [Predicate.pieces, Predicate.values, ColumnRef.count_pieces d column,
      Query.count_pieces d query]

theorem ColumnRef.count_pieces (d : Dialect) : ∀ c : ColumnRef,
    (c.pieces d).count = c.values.length
  | .name text => rfl
  | .raw sql => rfl
  | .subquery query => by
    simp [ColumnRef.pieces, ColumnRef.values, Query.count_pieces d query]

end

/-! ## The pieces depend on the quote character only -/

variable {d d' : Dialect}

theorem Dialect.wrap_congr (h : d.quote = d'.quote) : d.wrap = d'.wrap := by
  have hp : d.wrapPart = d'.wrapPart := by
    funext part
    simp [Dialect.wrapPart, Dialect.quoteIdentifier, h]
  funext name
  simp [Dialect.wrap, hp]

theorem Query.heading_congr (h : d.quote = d'.quote) (columns : List String)
    (table : Option String) : Query.heading d columns table = Query.heading d' columns table := by
  simp [Query.heading, Query.selectList, Dialect.wrap_congr h]

mutual

theorem Query.pieces_congr (h : d.quote = d'.quote) : ∀ q : Query, q.pieces d = q.pieces d'
  | ⟨columns, table, clauses, bindings, limit⟩ => by
    simp only [Query.pieces, Query.heading_congr h, Clause.piecesList_congr h clauses]

theorem Clause.piecesList_congr (h : d.quote = d'.quote) : ∀ cs : List Clause,
    Clause.piecesList d cs = Clause.piecesList d' cs
  | [] => rfl
  | ⟨connective, predicate⟩ :: cs => by
    simp only [Clause.piecesList, Predicate.pieces_congr h predicate,
      Clause.piecesFurther_congr h cs]

theorem Clause.piecesFurther_congr (h : d.quote = d'.quote) : ∀ cs : List Clause,
    Clause.piecesFurther d cs = Clause.piecesFurther d' cs
  | [] => rfl
  | ⟨connective, predicate⟩ :: cs => by
    simp only [Clause.piecesFurther, Predicate.pieces_congr h predicate,
      Clause.piecesFurther_congr h cs]

theorem Predicate.pieces_congr (h : d.quote = d'.quote) : ∀ p : Predicate,
    p.pieces d = p.pieces d'
  | .compare column operator v offset => by
    simp only [Predicate.pieces, ColumnRef.pieces_congr h column]
  | .isNull column => by
    simp only [Predicate.pieces, ColumnRef.pieces_congr h column]
  | .isNotNull column => by
    simp only [Predicate.pieces, ColumnRef.pieces_congr h column]
  | .group ⟨columns, table, clauses, bindings, limit⟩ => by
    simp only [Predicate.pieces, Clause.piecesList_congr h clauses]
  | .compareSubquery column operator query => by
    simp only [Predicate.pieces, ColumnRef.pieces_congr h column, Query.pieces_congr h query]

theorem ColumnRef.pieces_congr (h : d.quote = d'.quote) : ∀ c : ColumnRef,
    c.pieces d = c.pieces d'
  | .name text => by simp only [ColumnRef.pieces, Dialect.wrap_congr h]
  | .raw sql => rfl
  | .subquery query => by simp only [ColumnRef.pieces, Query.pieces_congr h query]

end

/-! ## Rendering after any number of placeholders -/

/-- Whether a text is written does not depend on the placeholders before it. -/
theorem Dialect.written_cases (d : Dialect) (operators : List String) (p : Pieces) :
    (∃ e, ∀ n, d.written operators p n = .error e) ∨
      ∀ n, d.written operators p n = .ok (p.number d.placeholder n, n + p.count) := by
  cases h : d.checkOperators operators with
  | error e => exact .inl ⟨e, fun n => by simp only [Dialect.written, h]; rfl⟩
  | ok _ => exact .inr fun n => by simp only [Dialect.written, h]; rfl

theorem Dialect.written_eq_ok {d : Dialect} {operators : List String} {p : Pieces} {n m : Nat}
    {text : String} (h : d.written operators p n = .ok (text, m)) :
    d.checkOperators operators = .ok () ∧ text = p.number d.placeholder n ∧ m = n + p.count := by
  unfold Dialect.written at h
  cases hc : d.checkOperators operators with
  | error e =>
    rw [hc] at h
    cases h
  | ok _ =>
    rw [hc] at h
    cases h
    exact ⟨rfl, rfl, rfl⟩

/-- In every dialect a statement and its conditions are refused at every offset or at none, and
what is written consists of pieces that are the same at every offset, with one numbered
placeholder for each comparison between them. PostgreSQL and SQLite write the same pieces. -/
theorem render_at_every_offset (q : Query) :
    (∀ d : Dialect,
      ((∃ e, ∀ n, q.render d n = .error e) ∨
        ∀ n, q.render d n =
          .ok ((q.pieces d).number d.placeholder n, n + q.values.length)) ∧
      ((∃ e, ∀ n, Clause.renderList d q.clauses n = .error e) ∨
        ∀ n, Clause.renderList d q.clauses n =
          .ok ((Clause.piecesList d q.clauses).number d.placeholder n, n + q.values.length)) ∧
      (q.pieces d).count = q.values.length ∧
      (Clause.piecesList d q.clauses).count = q.values.length) ∧
    q.pieces .postgresql = q.pieces .sqlite ∧
    Clause.piecesList .postgresql q.clauses = Clause.piecesList .sqlite q.clauses := by
  have h : Dialect.postgresql.quote = Dialect.sqlite.quote := rfl
  refine ⟨fun d => ?_, Query.pieces_congr h q, Clause.piecesList_congr h q.clauses⟩
  have hq := Query.count_pieces d q
  have hl : (Clause.piecesList d q.clauses).count = q.values.length := by
    obtain ⟨columns, table, clauses, bindings, limit⟩ := q
    exact Clause.count_piecesList d clauses
  refine ⟨?_, ?_, hq, hl⟩
  · simp only [Query.render_eq, ← hq]
    exact d.written_cases _ _
  · simp only [Clause.renderList_eq, ← hl]
    exact d.written_cases _ _

end SqlCompose
