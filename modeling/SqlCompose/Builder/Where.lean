import SqlCompose.Builder.Shape

/-!
# Adding conditions

What each call contributes is worked out on the builder as it is, and only then
appended, so a refused call leaves no trace. A group and a sub-select are
filled on a builder of their own, whose bindings follow those already held.
-/

namespace SqlCompose

/-- Whether a comparison of null by an operator has no meaning: only equality
and inequality turn into null checks. -/
def isIllegalNull (operator : String) (v : Value) : Bool :=
  v.isNull && !(["=", "!=", "<>"].contains operator)

/-- A sub-query that is ready to stand in a clause. The value it is compared
with comes after `valueOffset` bindings. -/
structure Embedded where
  column : ColumnRef
  scalars : List Scalar
  offset : Nat
  valueOffset : Nat

namespace Builder

/-- A filled query as an expression. -/
def embedQuery (b : Builder) (q : Query) : Embedded where
  column := .subquery q
  scalars := q.bindings.toList
  offset := b.query.bindings.size
  valueOffset := b.query.bindings.size + q.bindings.size

/-- A sub-query as an expression; raw text is put in parentheses. -/
def embed (b : Builder) : Subquery → Except Error Embedded
  | .raw sql =>
    if Text.isBlank sql then .error .emptyRawSubquery
    else .ok ⟨.raw ("(" ++ sql ++ ")"), [], b.query.bindings.size, b.query.bindings.size⟩
  | .callback run => (run.fill b.forSubquery).map b.embedQuery
  | .builder child => .ok (b.embedQuery child.query)

/-- A sub-query as the value of a comparison. -/
def subselect (b : Builder) : Subquery → Except Error Query
  | .raw _ => .error .rawSubqueryAsValue
  | .callback run => run.fill b.forSubquery
  | .builder child => .ok child.query

/-- A comparison with a value: a null check, or one placeholder. -/
def compareValue (column : ColumnRef) (operator : String) (v : Value) (connective : Connective)
    (offset : Nat) : Except Error Addition :=
  if isIllegalNull operator v then .error (.nullComparison operator)
  else if v.isNull then .ok (.nullChecks connective (operator != "=") [column])
  else
    match v.single? with
    | some s => .ok (.single connective (.compare column operator v offset) [s])
    | none => .error (.notSingleValue operator v.scalars.length)

/-- A comparison of a column. -/
def compare (b : Builder) (column : ColumnRef) (operator : String) (value : Operand)
    (connective : Connective) (offset : Nat) : Except Error Addition :=
  match value with
  | .value v => compareValue column operator v connective offset
  | .query q => do
    let query ← b.subselect q
    return .single connective (.compareSubquery column operator query) query.bindings.toList

/-- A comparison of a column, completed from the options. -/
def compareColumn (b : Builder) : ColumnCall → Except Error Addition
  | .value column value =>
    b.compare column b.options.operator value b.options.connective b.options.offset
  | .operatorValue column operator value =>
    b.compare column operator value b.options.connective b.options.offset
  | .operatorValueConnective column operator value connective offset =>
    b.compare column operator value connective offset

/-- A comparison of a sub-query; its own bindings come before the value's. -/
def compareSubquery (b : Builder) (query : Subquery) (operator : String) (value : Operand)
    (connective : Connective) : Except Error Addition := do
  let sub ← b.embed query
  let a ← b.compare sub.column operator value connective sub.valueOffset
  return { a with scalars := sub.scalars ++ a.scalars }

/-- A group filled by a run of calls. -/
def group (b : Builder) (run : Build Unit) (connective : Connective) : Except Error Addition :=
  (run.fill b.forGroup).map (Addition.group connective)

end Builder

namespace Condition

/-- One condition as a call. -/
def call (c : Condition) : Build Unit :=
  .contribute fun b => do
    let call ← ColumnCall.ofArgs b.options (.name c.column) c.args
    b.compareColumn call

/-- Conditions one after the other, up to the first that is refused. -/
def calls : List Condition → Build Unit
  | [] => pure ()
  | c :: cs => do
    c.call
    calls cs

end Condition

namespace Builder

/-- A group of conditions, each of which has at least one argument. -/
def conditions (b : Builder) (cs : List Condition) (connective : Connective) :
    Except Error Addition :=
  match cs.find? (·.args.isEmpty) with
  | some c => .error (.conditionWithoutArguments c.column)
  | none => b.group (Condition.calls cs) connective

/-- What a call contributes. -/
def addition (b : Builder) : Shape → Except Error Addition
  | .column call => b.compareColumn call
  | .group run connective => b.group run connective
  | .subquery query operator value connective => b.compareSubquery query operator value connective
  | .conditions cs connective => b.conditions cs connective

end Builder

namespace Build

/-- A call of a given shape. -/
def dispatch (s : Shape) : Build Unit :=
  .contribute (·.addition s)

/-- A call whose shape is read from its arguments. -/
def whereArgs (first : Arg) (args : List Arg) : Build Unit :=
  .contribute fun b => do
    let s ← Shape.ofArgs b.options first args
    b.addition s

/-- `AND column = value`, unless the options say otherwise. -/
def whereEq (column : String) (v : Value) : Build Unit :=
  dispatch (.column (.value (.name column) (.value v)))

/-- `AND column operator value`, unless the options say otherwise. -/
def whereOp (column operator : String) (v : Value) : Build Unit :=
  dispatch (.column (.operatorValue (.name column) operator (.value v)))

/-- `OR column operator value`. -/
def orWhere (column operator : String) (v : Value) : Build Unit :=
  fun b => dispatch
    (.column (.operatorValueConnective (.name column) operator (.value v) .or b.options.offset)) b

/-- `OR column = value`, with the operator of the options. -/
def orWhereEq (column : String) (v : Value) : Build Unit :=
  fun b => orWhere column b.options.operator v b

/-- A group filled by a run of calls. -/
def whereGroup (connective : Connective) (run : Build Unit) : Build Unit :=
  dispatch (.group run connective)

/-- `(SELECT ...) operator value`. -/
def whereQuery (query : Subquery) (operator : String) (v : Value) : Build Unit :=
  fun b => dispatch (.subquery query operator (.value v) b.options.connective) b

/-- `column operator (SELECT ...)`. -/
def whereSub (column operator : String) (run : Build Unit) : Build Unit :=
  dispatch (.column (.operatorValue (.name column) operator (.query (.callback run))))

/-- A group of conditions. -/
def whereAll (connective : Connective) (cs : List Condition) : Build Unit :=
  dispatch (.conditions cs connective)

/-- A finished query as a group. -/
def whereNested (connective : Connective) (q : Query) : Build Unit :=
  .modify (·.add (.group connective q))

/-- Null checks of columns. -/
def whereNull (connective : Connective) (negated : Bool) (columns : List String) : Build Unit :=
  .modify (·.add (.nullChecks connective negated (columns.map .name)))

end Build

end SqlCompose
