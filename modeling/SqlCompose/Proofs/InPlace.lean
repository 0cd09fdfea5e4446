import SqlCompose.Builder.Where
import Mathlib.Tactic

/-!
# Calls that work on the builder itself

A call may also be carried out step by step on the builder it is made on. The
comparison of a sub-query then binds the scalars of the sub-query before it looks
at the value, and has to take them back when the value is refused. Working out
the contribution first and appending it once comes to the same.
-/

namespace SqlCompose

namespace Builder

/-- Appends one clause. -/
def push (b : Builder) (c : Clause) : Builder :=
  { b with query := { b.query with clauses := b.query.clauses ++ [c] } }

/-- Binds scalars for the conditions. -/
def bind (b : Builder) (scalars : List Scalar) : Builder :=
  { b with query := { b.query with bindings := b.query.bindings.append .filter scalars } }

/-- The number of scalars that the conditions bind. -/
def mark (b : Builder) : Nat :=
  (b.query.bindings.get .filter).length

/-- Takes back what the conditions bind beyond a mark. -/
def rollBack (b : Builder) (mark : Nat) : Builder :=
  { b with query := { b.query with bindings := b.query.bindings.truncate .filter mark } }

variable (b : Builder)

theorem bind_push (c : Clause) (scalars : List Scalar) :
    (b.push c).bind scalars = b.add ⟨[c], scalars⟩ := rfl

theorem push_bind (c : Clause) (scalars : List Scalar) :
    (b.bind scalars).push c = b.add ⟨[c], scalars⟩ := rfl

theorem push_eq_add (c : Clause) : b.push c = b.add ⟨[c], []⟩ := by
  rw [← bind_push]
  obtain ⟨⟨columns, table, clauses, bindings, limit⟩, options⟩ := b
  simp [push, bind, Bindings.append, Bindings.modify]

theorem add_bind (scalars : List Scalar) (a : Addition) :
    (b.bind scalars).add a = b.add { a with scalars := scalars ++ a.scalars } := by
  simp [bind, add, Bindings.append, Bindings.modify]

/-- Rolling back to a mark takes back whatever was bound since. -/
theorem rollBack_bind (scalars : List Scalar) : (b.bind scalars).rollBack b.mark = b := by
  obtain ⟨⟨columns, table, clauses, bindings, limit⟩, options⟩ := b
  simp [bind, rollBack, mark]

/-- What is bound already has no influence on a comparison. -/
theorem compare_bind (scalars : List Scalar) (column : ColumnRef) (operator : String)
    (value : Operand) (connective : Connective) (offset : Nat) :
    (b.bind scalars).compare column operator value connective offset =
      b.compare column operator value connective offset := by
  cases value with
  | value v => rfl
  | query sub => cases sub <;> rfl

end Builder

namespace Build

/-- Fills a child by a run of calls and goes on with its query. -/
def fillThen (run : Build Unit) (child : Builder → Builder) (next : Query → Builder → Builder) :
    Build Unit :=
  fun b =>
    match run (child b) with
    | (.ok (), c) => (.ok (), next c.query b)
    | (.error e, _) => (.error e, b)

/-- A run that is undone when it is refused. -/
def undoing (run : Build Unit) (undo : Builder → Builder) : Build Unit :=
  fun b =>
    match run b with
    | (.ok (), b) => (.ok (), b)
    | (.error e, b) => (.error e, undo b)

def compareValueInPlace (column : ColumnRef) (operator : String) (v : Value)
    (connective : Connective) (offset : Nat) : Build Unit :=
  if v.isNull then
    if isIllegalNull operator v then refuse (.nullComparison operator)
    else modify (·.push
      ⟨connective, if operator != "=" then .isNotNull column else .isNull column⟩)
  else
    match v.single? with
    | some s => modify fun b => (b.push ⟨connective, .compare column operator v offset⟩).bind [s]
    | none => refuse (.notSingleValue operator v.scalars.length)

/-- Binds what a sub-select binds, and appends the comparison with it. -/
def compareWith (column : ColumnRef) (operator : String) (connective : Connective) (q : Query)
    (b : Builder) : Builder :=
  (b.bind q.bindings.toList).push ⟨connective, .compareSubquery column operator q⟩

def compareInPlace (column : ColumnRef) (operator : String) (value : Operand)
    (connective : Connective) (offset : Nat) : Build Unit :=
  match value with
  | .value v => compareValueInPlace column operator v connective offset
  | .query (.raw _) => refuse .rawSubqueryAsValue
  | .query (.callback run) =>
    fillThen run (·.forSubquery) (compareWith column operator connective)
  | .query (.builder child) => modify (compareWith column operator connective child.query)

def compareColumnInPlace : ColumnCall → Build Unit
  | .value column value => fun b =>
    compareInPlace column b.options.operator value b.options.connective b.options.offset b
  | .operatorValue column operator value => fun b =>
    compareInPlace column operator value b.options.connective b.options.offset b
  | .operatorValueConnective column operator value connective offset =>
    compareInPlace column operator value connective offset

/-- Binds what the sub-query binds, then compares, and rolls back if the comparison is refused. -/
def compareSubqueryInPlace (query : Subquery) (operator : String) (value : Operand)
    (connective : Connective) : Build Unit := do
  let sub ← read (·.embed query)
  let mark ← read fun b => .ok b.mark
  modify (·.bind sub.scalars)
  undoing (compareInPlace sub.column operator value connective sub.valueOffset) (·.rollBack mark)

def groupInPlace (run : Build Unit) (connective : Connective) : Build Unit :=
  fillThen run (·.forGroup) fun q b =>
    if q.hasClauses then (b.bind q.bindings.toList).push ⟨connective, .group q⟩ else b

def conditionsInPlace : List Condition → Build Unit
  | [] => pure ()
  | c :: cs => do
    let call ← read fun b => ColumnCall.ofArgs b.options (.name c.column) c.args
    compareColumnInPlace call
    conditionsInPlace cs

/-- A call of a given shape, carried out on the builder itself. -/
def dispatchInPlace : Shape → Build Unit
  | .column call => compareColumnInPlace call
  | .group run connective => groupInPlace run connective
  | .subquery query operator value connective =>
    compareSubqueryInPlace query operator value connective
  | .conditions cs connective =>
    match cs.find? (·.args.isEmpty) with
    | some c => refuse (.conditionWithoutArguments c.column)
    | none => groupInPlace (conditionsInPlace cs) connective

theorem fillThen_eq_contribute {run : Build Unit} {child : Builder → Builder}
    {next : Query → Builder → Builder} {f : Query → Addition}
    (h : ∀ q b, next q b = b.add (f q)) :
    fillThen run child next = contribute fun b => (run.fill (child b)).map f := by
  funext b
  simp only [fillThen, contribute, fill]
  rcases run (child b) with ⟨e | u, c⟩
  · rfl
  · simp [h, Except.map]

theorem compareValueInPlace_eq (column : ColumnRef) (operator : String) (v : Value)
    (connective : Connective) (offset : Nat) :
    compareValueInPlace column operator v connective offset =
      contribute fun _ => Builder.compareValue column operator v connective offset := by
  funext b
  unfold compareValueInPlace contribute Builder.compareValue
  by_cases hi : isIllegalNull operator v = true
  · have hn : v.isNull = true := by
      unfold isIllegalNull at hi
      exact (Bool.and_eq_true_iff.mp hi).1
    simp [hi, hn, refuse]
  · by_cases hn : v.isNull = true
    · simp [hi, hn, Builder.push_eq_add, Addition.nullChecks]
    · cases hs : v.single? with
      | none => simp [hi, hn, refuse]
      | some s => simp [hi, hn, Builder.bind_push, Addition.single]

theorem compareInPlace_eq (column : ColumnRef) (operator : String) (value : Operand)
    (connective : Connective) (offset : Nat) :
    compareInPlace column operator value connective offset =
      contribute fun b => b.compare column operator value connective offset := by
  cases value with
  | value v => exact compareValueInPlace_eq column operator v connective offset
  | query sub =>
    cases sub with
    | raw sql => rfl
    | callback run => exact fillThen_eq_contribute fun q b => b.push_bind _ _
    | builder child => rfl

theorem compareColumnInPlace_eq (call : ColumnCall) :
    compareColumnInPlace call = contribute fun b => b.compareColumn call := by
  funext b
  cases call with
  | value column value => exact congrFun (compareInPlace_eq ..) b
  | operatorValue column operator value => exact congrFun (compareInPlace_eq ..) b
  | operatorValueConnective column operator value connective offset =>
    exact congrFun (compareInPlace_eq ..) b

theorem compareSubqueryInPlace_eq (query : Subquery) (operator : String) (value : Operand)
    (connective : Connective) :
    compareSubqueryInPlace query operator value connective =
      contribute fun b => b.compareSubquery query operator value connective := by
  funext b
  simp only [compareSubqueryInPlace, bind_apply, read_apply, modify_apply, undoing,
    compareInPlace_eq, contribute, Builder.compareSubquery]
  cases hq : b.embed query with
  | error e => rfl
  | ok sub =>
    simp only [Builder.compare_bind]
    cases hc : b.compare sub.column operator value connective sub.valueOffset with
    | error e => simp [Bind.bind, Except.bind, hc, Builder.rollBack_bind]
    | ok a => simp [Bind.bind, Except.bind, hc, Builder.add_bind, Pure.pure, Except.pure]

theorem groupInPlace_eq (run : Build Unit) (connective : Connective) :
    groupInPlace run connective = contribute fun b => b.group run connective := by
  apply fillThen_eq_contribute
  intro q b
  unfold Addition.group
  split
  · rfl
  · simp

theorem conditionsInPlace_eq (cs : List Condition) :
    conditionsInPlace cs = Condition.calls cs := by
  induction cs with
  | nil => rfl
  | cons c cs ih =>
    funext b
    simp only [conditionsInPlace, Condition.calls, Condition.call, ih, compareColumnInPlace_eq,
      bind_apply, read_apply, contribute]
    cases ColumnCall.ofArgs b.options (.name c.column) c.args with
    | error e => rfl
    | ok call => rfl

/-- Both ways to carry out a call come to the same, for calls that succeed and for calls that are
refused. -/
theorem dispatchInPlace_eq (s : Shape) : dispatchInPlace s = dispatch s := by
  cases s with
  | column call => exact compareColumnInPlace_eq call
  | group run connective => exact groupInPlace_eq run connective
  | subquery query operator value connective =>
    exact compareSubqueryInPlace_eq query operator value connective
  | conditions cs connective =>
    unfold dispatchInPlace dispatch
    simp only [Builder.addition, Builder.conditions]
    cases cs.find? (·.args.isEmpty) with
    | some c => rfl
    | none => rw [conditionsInPlace_eq, groupInPlace_eq]

end Build

end SqlCompose
