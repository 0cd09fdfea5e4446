import SqlCompose.Builder.Where
import SqlCompose.Config

/-!
# Programs of calls

A program is a list of calls written down as data. A callback is a program, and
a finished builder that is passed as an argument is described by the program
that makes it, so programs nest to any depth. The terms for arguments are those
of the calls with programs in the place of runs.
-/

namespace SqlCompose

mutual

/-- A builder, described by its configuration text, its table, its select list
and the steps that then run on it. -/
structure BuilderTerm where
  table : Option String := none
  config : Option String := none
  columns : Option (List String) := none
  steps : List Step := []

inductive SubqueryTerm where
  | raw (sql : String)
  | callback (steps : List Step)
  | builder (b : BuilderTerm)

inductive OperandTerm where
  | value (v : Value)
  | query (q : SubqueryTerm)

inductive ArgTerm where
  | text (s : String)
  | raw (sql : String)
  | value (v : Value)
  | offset (n : Nat)
  | query (q : SubqueryTerm)
  | conditions (cs : List ConditionTerm)

inductive ConditionTerm where
  | general (column : String) (args : List ArgTerm)
  | compare (column operator : String) (v : Value)
  | equal (column : String) (v : Value)
  | or (c : ConditionTerm)

inductive ColumnTerm where
  | name (text : String)
  | raw (sql : String)
  | subquery (b : BuilderTerm)

inductive ShapeTerm where
  | value (column : ColumnTerm) (value : OperandTerm)
  | operatorValue (column : ColumnTerm) (operator : String) (value : OperandTerm)
  | operatorValueConnective (column : ColumnTerm) (operator : String) (value : OperandTerm)
      (connective : Connective) (offset : Nat)
  | group (steps : List Step) (connective : Connective)
  | subquery (query : SubqueryTerm) (operator : String) (value : OperandTerm)
      (connective : Connective)
  | conditions (cs : List ConditionTerm) (connective : Connective)

/-- One call. Those from `embed` on read the builder and leave it alone. -/
inductive Call where
  | setTable (table : String)
  | setColumns (columns : List String)
  | setLimit (limit : Nat)
  | reset
  | whereEq (column : String) (v : Value)
  | orWhereEq (column : String) (v : Value)
  | whereOp (column operator : String) (v : Value)
  | orWhere (column operator : String) (v : Value)
  | whereGroup (connective : Connective) (steps : List Step)
  | whereQuery (query : SubqueryTerm) (operator : String) (v : Value)
  | whereSub (column operator : String) (steps : List Step)
  | whereAll (connective : Connective) (cs : List ConditionTerm)
  | whereNested (connective : Connective) (b : BuilderTerm) (further : List (Category × Value))
  | whereNull (connective : Connective) (negated : Bool) (columns : List String)
  | whereArgs (first : ArgTerm) (args : List ArgTerm)
  | dispatch (shape : ShapeTerm)
  | refuse (e : Error)
  | embed (query : SubqueryTerm)
  | forGroup
  | forSubquery
  | query
  | statement (d : Dialect)
  | renderQuery (d : Dialect) (count : Nat)
  | renderClauses (d : Dialect) (count : Nat)

/-- A call, and whether the program goes on when it is refused. -/
structure Step where
  call : Call
  ignored : Bool := false

end

end SqlCompose
