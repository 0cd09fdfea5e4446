import SqlCompose.Program.Step
import SqlCompose.Query.Render

/-!
# Running programs

Terms are evaluated to the arguments of a call before the call is made, from
left to right; a builder whose description is refused refuses the call. Steps
run one after the other up to the first that is refused and not ignored.
-/

namespace SqlCompose

/-- What a call answers. -/
inductive Reply where
  | done
  | embedded (sub : Embedded)
  | child (b : Builder)
  | query (q : Query)
  | statement (sql : String) (parameters : List Scalar)
  | rendered (sql : String) (count : Nat)

namespace Build

/-- The answer of a call that only changes the builder. -/
def done (run : Build Unit) : Build Reply := do
  run
  return .done

end Build

namespace Builder

/-- A new builder from a configuration text, a table and a select list. -/
def start (config table : Option String) (columns : Option (List String)) :
    Except Error Builder := do
  let b : Builder ←
    match config with
    | some text => (Config.parse text).map ofConfig
    | none => .ok {}
  let b := (table.map b.setTable).getD b
  return (columns.map b.setColumns).getD b

/-- The statement with its parameters. -/
def statement (b : Builder) (d : Dialect) : Except Error Reply :=
  (b.query.toSql d).map (.statement · b.bindings)

end Builder

namespace Query

/-- The query with further bindings. -/
def addBindings (q : Query) (further : List (Category × Value)) : Query :=
  { q with bindings := further.foldl (fun b entry => b.add entry.1 entry.2) q.bindings }

end Query

mutual

/-- Makes the builder that a term describes. -/
def BuilderTerm.eval : BuilderTerm → Except Error Builder
  | { table, config, columns, steps } => do
    let b ← Builder.start config table columns
    match Step.runAll steps b with
    | (.ok (), b) => return b
    | (.error e, _) => throw e

def SubqueryTerm.eval : SubqueryTerm → Except Error Subquery
  | .raw sql => return .raw sql
  | .callback steps => return .callback (Step.runAll steps)
  | .builder b => return .builder (← b.eval)

def OperandTerm.eval : OperandTerm → Except Error Operand
  | .value v => return .value v
  | .query q => return .query (← q.eval)

def ArgTerm.eval : ArgTerm → Except Error Arg
  | .text s => return .text s
  | .raw sql => return .raw sql
  | .value v => return .value v
  | .offset n => return .offset n
  | .query q => return .query (← q.eval)
  | .conditions cs => return .conditions (← ConditionTerm.evalList cs)

def ArgTerm.evalList : List ArgTerm → Except Error (List Arg)
  | [] => return []
  | arg :: args => return (← arg.eval) :: (← ArgTerm.evalList args)

def ConditionTerm.eval : ConditionTerm → Except Error Condition
  | .general column args => return ⟨column, ← ArgTerm.evalList args⟩
  | .compare column operator v => return .compare column operator v
  | .equal column v => return .equal column v
  | .or c => return (← c.eval).or

def ConditionTerm.evalList : List ConditionTerm → Except Error (List Condition)
  | [] => return []
  | c :: cs => return (← c.eval) :: (← ConditionTerm.evalList cs)

def ColumnTerm.eval : ColumnTerm → Except Error ColumnRef
  | .name text => return .name text
  | .raw sql => return .raw sql
  | .subquery b => return .subquery (← b.eval).query

def ShapeTerm.eval : ShapeTerm → Except Error Shape
  | .value column value => return .column (.value (← column.eval) (← value.eval))
  | .operatorValue column operator value =>
    return .column (.operatorValue (← column.eval) operator (← value.eval))
  | .operatorValueConnective column operator value connective offset =>
    return .column
      (.operatorValueConnective (← column.eval) operator (← value.eval) connective offset)
  | .group steps connective => return .group (Step.runAll steps) connective
  | .subquery query operator value connective =>
    return .subquery (← query.eval) operator (← value.eval) connective
  | .conditions cs connective => return .conditions (← ConditionTerm.evalList cs) connective

/-- Makes a call. -/
def Call.run : Call → Build Reply
  | .setTable table => .done (.modify (·.setTable table))
  | .setColumns columns => .done (.modify (·.setColumns columns))
  | .setLimit limit => .done (.modify (·.setLimit limit))
  | .reset => .done (.modify (·.reset))
  | .whereEq column v => .done (.whereEq column v)
  | .orWhereEq column v => .done (.orWhereEq column v)
  | .whereOp column operator v => .done (.whereOp column operator v)
  | .orWhere column operator v => .done (.orWhere column operator v)
  | .whereGroup connective steps => .done (.whereGroup connective (Step.runAll steps))
  | .whereQuery query operator v => do
    let query ← .ofExcept query.eval
    .done (.whereQuery query operator v)
  | .whereSub column operator steps => .done (.whereSub column operator (Step.runAll steps))
  | .whereAll connective cs => do
    let cs ← .ofExcept (ConditionTerm.evalList cs)
    .done (.whereAll connective cs)
  | .whereNested connective b further => do
    let b ← .ofExcept b.eval
    .done (.whereNested connective (b.query.addBindings further))
  | .whereNull connective negated columns => .done (.whereNull connective negated columns)
  | .whereArgs first args => do
    let first ← .ofExcept first.eval
    let args ← .ofExcept (ArgTerm.evalList args)
    .done (.whereArgs first args)
  | .dispatch shape => do
    let shape ← .ofExcept shape.eval
    .done (.dispatch shape)
  | .refuse e => .refuse e
  | .embed query => do
    let query ← .ofExcept query.eval
    .read fun b => (b.embed query).map .embedded
  | .forGroup => .read fun b => .ok (.child b.forGroup)
  | .forSubquery => .read fun b => .ok (.child b.forSubquery)
  | .query => .read fun b => .ok (.query b.query)
  | .statement d => .read (·.statement d)
  | .renderQuery d count => .read fun b =>
    (b.query.render d count).map fun (sql, count) => .rendered sql count
  | .renderClauses d count => .read fun b =>
    (Clause.renderList d b.query.clauses count).map fun (sql, count) => .rendered sql count

/-- Runs the steps of a callback. -/
def Step.runAll : List Step → Build Unit
  | [] => pure ()
  | { call, ignored } :: steps => do
    if ignored then .ignoring call.run else discard call.run
    Step.runAll steps

end

/-- What became of one step of a program: its answer, the clauses it added, and
the sizes of the builder after it. -/
structure Outcome where
  result : Except Error Reply
  added : List Clause
  clauses : Nat
  bindings : Nat

/-- Runs every step, whether or not those before it were refused. -/
def Step.traceAll : List Step → Builder → List Outcome × Builder
  | [], b => ([], b)
  | { call, .. } :: steps, b =>
    let (result, next) := call.run b
    let outcome : Outcome := {
      result
      added := next.query.clauses.drop b.query.clauses.length
      clauses := next.query.clauses.length
      bindings := next.query.bindings.size }
    let (outcomes, last) := Step.traceAll steps next
    (outcome :: outcomes, last)

/-- Runs a whole program and reports what became of every step. -/
def BuilderTerm.trace (p : BuilderTerm) : Except Error (List Outcome × Builder) := do
  let b ← Builder.start p.config p.table p.columns
  return Step.traceAll p.steps b

end SqlCompose
