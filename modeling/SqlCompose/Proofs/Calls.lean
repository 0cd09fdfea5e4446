import SqlCompose.Proofs.Atomicity

/-!
# Calls one after the other

A program makes one call after the other on a builder and goes on when a call is
refused. Whatever a call does to the conditions comes down to one contribution,
which is appended to the builder. The only public call that is not among those
here is the one that empties the builder.
-/

namespace SqlCompose

/-- A call that changes a builder. Callbacks are arbitrary runs, and queries may be given by
hand, to be nested or in the place of a column. -/
inductive BuilderCall where
  | setTable (table : String)
  | setColumns (columns : List String)
  | setLimit (limit : Nat)
  | condition (call : WhereCall)
  | nest (connective : Connective) (q : Query)
  | nullChecks (connective : Connective) (negated : Bool) (columns : List String)

/-- What came of a call: its result, and what it appended to the clauses and to the scalars that
the conditions bind. -/
structure CallOutcome where
  result : Except Error Unit
  added : List Clause
  bound : List Scalar

namespace BuilderCall

def run : BuilderCall → Build Unit
  | .setTable table => .modify (·.setTable table)
  | .setColumns columns => .modify (·.setColumns columns)
  | .setLimit limit => .modify (·.setLimit limit)
  | .condition call => call.run
  | .nest connective q => .whereNested connective q
  | .nullChecks connective negated columns => .whereNull connective negated columns

/-- Makes one call after the other, whether or not those before it were refused. -/
def trace : List BuilderCall → Builder → List CallOutcome × Builder
  | [], b => ([], b)
  | call :: calls, b =>
    let (result, next) := call.run b
    let outcome : CallOutcome := {
      result
      added := next.query.clauses.drop b.query.clauses.length
      bound := (next.query.bindings.get .filter).drop (b.query.bindings.get .filter).length }
    let (outcomes, last) := trace calls next
    (outcome :: outcomes, last)

/-- A call that adds conditions, and so is none of those for the table, the select list and the
limit. -/
def AddsConditions : BuilderCall → Prop
  | .condition _ | .nest _ _ | .nullChecks _ _ _ => True
  | .setTable _ | .setColumns _ | .setLimit _ => False

/-! ## A call as a contribution -/

/-- The builder with all that a call changes apart from the conditions. -/
def prepare (b : Builder) : BuilderCall → Builder
  | .setTable table => b.setTable table
  | .setColumns columns => b.setColumns columns
  | .setLimit limit => b.setLimit limit
  | .condition _ | .nest _ _ | .nullChecks _ _ _ => b

/-- What a call contributes to the conditions. -/
def contribution (b : Builder) : BuilderCall → Except Error Addition
  | .setTable _ | .setColumns _ | .setLimit _ => .ok {}
  | .condition call => call.shape b >>= b.addition
  | .nest connective q => .ok (.group connective q)
  | .nullChecks connective negated columns =>
    .ok (.nullChecks connective negated (columns.map .name))

/-- What a call appends; a refused call appends nothing. -/
def addition (b : Builder) (call : BuilderCall) : Addition :=
  match call.contribution b with
  | .ok a => a
  | .error _ => {}

theorem run_eq (call : BuilderCall) (b : Builder) :
    call.run b =
      ((call.contribution b).map fun _ => (), (call.prepare b).add (call.addition b)) := by
  cases call with
  | setTable table => simp [run, contribution, prepare, addition, Except.map]
  | setColumns columns => simp [run, contribution, prepare, addition, Except.map]
  | setLimit limit => simp [run, contribution, prepare, addition, Except.map]
  | condition call =>
    simp only [run, contribution, prepare, addition, WhereCall.run_eq, Build.contribute]
    cases call.shape b >>= b.addition with
    | error e => simp [Except.map]
    | ok a => rfl
  | nest connective q => rfl
  | nullChecks connective negated columns => rfl

@[simp] theorem options_prepare (b : Builder) (call : BuilderCall) :
    (call.prepare b).options = b.options := by
  cases call <;> rfl

@[simp] theorem clauses_prepare (b : Builder) (call : BuilderCall) :
    (call.prepare b).query.clauses = b.query.clauses := by
  cases call <;> rfl

@[simp] theorem bindings_prepare (b : Builder) (call : BuilderCall) :
    (call.prepare b).query.bindings = b.query.bindings := by
  cases call <;> rfl

theorem prepare_of_addsConditions {b : Builder} {call : BuilderCall} (h : call.AddsConditions) :
    call.prepare b = b := by
  cases call <;> first | rfl | exact h.elim

theorem options_run (call : BuilderCall) (b : Builder) : (call.run b).2.options = b.options := by
  rw [run_eq, Builder.options_add, options_prepare]

theorem clauses_run (call : BuilderCall) (b : Builder) :
    (call.run b).2.query.clauses = b.query.clauses ++ (call.addition b).clauses := by
  rw [run_eq, Builder.clauses_add, clauses_prepare]

theorem bindings_run (call : BuilderCall) (b : Builder) :
    (call.run b).2.query.bindings = b.query.bindings.append .filter (call.addition b).scalars := by
  rw [run_eq, Builder.bindings_add, bindings_prepare]

@[simp] theorem trace_cons (call : BuilderCall) (calls : List BuilderCall) (b : Builder) :
    trace (call :: calls) b =
      (⟨(call.run b).1, (call.addition b).clauses, (call.addition b).scalars⟩ ::
        (trace calls (call.run b).2).1, (trace calls (call.run b).2).2) := by
  simp [trace, clauses_run, bindings_run]

theorem options_trace (calls : List BuilderCall) (b : Builder) :
    (trace calls b).2.options = b.options := by
  induction calls generalizing b with
  | nil => rfl
  | cons call calls ih => rw [trace_cons, ih, options_run]

/-- A program appends the clauses that its calls append. -/
theorem clauses_trace (calls : List BuilderCall) (b : Builder) :
    (trace calls b).2.query.clauses =
      b.query.clauses ++ (trace calls b).1.flatMap (·.added) := by
  induction calls generalizing b with
  | nil => simp [trace]
  | cons call calls ih => simp [ih, clauses_run]

/-- A program binds the scalars that its calls bind. -/
theorem bindings_trace (calls : List BuilderCall) (b : Builder) :
    (trace calls b).2.query.bindings =
      b.query.bindings.append .filter ((trace calls b).1.flatMap (·.bound)) := by
  induction calls generalizing b with
  | nil => simp [trace]
  | cons call calls ih => simp [ih, bindings_run, Bindings.append_append]

end BuilderCall

end SqlCompose
