import SqlCompose.Builder.Argument
import SqlCompose.Text.Blank

/-!
# Call shapes

Every call has one of six shapes. The first argument of a dynamic call decides
between them: a list of conditions, a callback that fills a group, a sub-query
that is compared, or a column. Only columns leave a choice to the trailing
arguments, and the three shapes of a column differ only in how much is given
and how much is taken from the options.
-/

namespace SqlCompose

/-- A comparison of a column, with the parts that were given. -/
inductive ColumnCall where
  | value (column : ColumnRef) (value : Operand)
  | operatorValue (column : ColumnRef) (operator : String) (value : Operand)
  | operatorValueConnective (column : ColumnRef) (operator : String) (value : Operand)
      (connective : Connective) (offset : Nat)

inductive Shape where
  | column (call : ColumnCall)
  | group (run : Build Unit) (connective : Connective)
  | subquery (query : Subquery) (operator : String) (value : Operand) (connective : Connective)
  | conditions (cs : List Condition) (connective : Connective)

namespace Shape

/-- At most a connective, as it may follow a group. -/
def connectiveOnly (fallback : Connective) : List Arg → Except Error Connective
  | [] => .ok fallback
  | .text word :: args => do
    let connective ← Connective.parse word
    if args.isEmpty then return connective else throw .tooManyConnectives
  | arg :: _ => .error (.expectedConnective arg.kind)

/-- Whether the arguments after a callback leave it to be a group. -/
def isGroupTail : List Arg → Bool
  | [] => true
  | [.text word] => Connective.isWord word
  | _ => false

end Shape

namespace ColumnCall

/-- The call of a column with trailing arguments; a missing value is null. -/
def ofArgs (defaults : Options) (column : ColumnRef) (args : List Arg) :
    Except Error ColumnCall := do
  let p ← Prepared.ofArgs defaults args
  let value := p.value.getD (.value (.scalar .null))
  return if p.hasTail then
    .operatorValueConnective column p.options.operator value p.options.connective p.options.offset
  else if p.hasOperator then
    .operatorValue column p.options.operator value
  else
    .value column value

end ColumnCall

namespace Shape

/-- A sub-query that is compared; it needs at least one argument. -/
def comparison (defaults : Options) (q : Subquery) (args : List Arg) : Except Error Shape := do
  if args.isEmpty then throw .subqueryWithoutComparison
  let p ← Prepared.ofArgs defaults args
  return .subquery q p.options.operator (p.value.getD (.value (.scalar .null)))
    p.options.connective

/-- The shape of a dynamic call. -/
def ofArgs (defaults : Options) (first : Arg) (args : List Arg) : Except Error Shape :=
  match first with
  | .conditions cs => (connectiveOnly defaults.connective args).map (.conditions cs)
  | .query (.callback run) =>
    if isGroupTail args then (connectiveOnly defaults.connective args).map (.group run)
    else comparison defaults (.callback run) args
  | .query q => comparison defaults q args
  | .text name => (ColumnCall.ofArgs defaults (.name name) args).map .column
  | .raw sql => (ColumnCall.ofArgs defaults (.raw sql) args).map .column
  | .value _ | .offset _ => .error .notASubquery

end Shape

end SqlCompose
