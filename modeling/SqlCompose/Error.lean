/-!
# Errors

Why a call, a rendering or a reading is refused. Each cause belongs to one of
five kinds, and the kind supplies the beginning of the message.
-/

namespace SqlCompose

/-- The kinds of positional arguments, as messages name them. -/
inductive ArgKind where
  | text
  | raw
  | value
  | offset
  | subquery
  | conditions
deriving DecidableEq

namespace ArgKind

def description : ArgKind → String
  | .text => "text"
  | .raw => "raw SQL"
  | .value => "value"
  | .offset => "offset"
  | .subquery => "subquery"
  | .conditions => "condition list"

end ArgKind

inductive Error.Kind where
  | classification
  | invalidOperator
  | unsupportedFeature
  | config
  | json
deriving DecidableEq

/-- The cause of a refusal. -/
inductive Error where
  | unknownConnective (word : String)
  | notComparable (arg : ArgKind)
  | unexpectedArgument (arg : ArgKind)
  | expectedConnective (arg : ArgKind)
  | tooManyConnectives
  | notASubquery
  | subqueryWithoutComparison
  | emptyRawSubquery
  | rawSubqueryAsValue
  | nullComparison (operator : String)
  | notSingleValue (operator : String) (count : Nat)
  | conditionWithoutArguments (column : String)
  | invalidOperator (operator : String)
  | indexOnJson (index : String)
  | emptyDefaultOperator
  | malformedJson
  | reported (kind : Error.Kind) (detail : String)
deriving DecidableEq

namespace Error

def kind : Error → Kind
  | .invalidOperator _ => .invalidOperator
  | .indexOnJson _ => .unsupportedFeature
  | .emptyDefaultOperator => .config
  | .malformedJson => .json
  | .reported kind _ => kind
  | _ => .classification

/-- What is wrong, without the kind. -/
def detail : Error → String
  | .unknownConnective word => "unknown connective '" ++ word ++ "', expected 'and' or 'or'"
  | .notComparable arg => arg.description ++ " cannot be used as a comparison value"
  | .unexpectedArgument arg =>
    "unexpected " ++ arg.description ++ " argument after operator, value and connective"
  | .expectedConnective arg => "expected a connective, found " ++ arg.description
  | .tooManyConnectives => "a group takes at most one connective argument"
  | .notASubquery => "a subquery must be one of: query builder, callback, or literal SQL text"
  | .subqueryWithoutComparison => "a subquery column needs an operator and a value"
  | .emptyRawSubquery => "a raw subquery cannot be empty"
  | .rawSubqueryAsValue => "a sub-select value must be a query builder or a callback"
  | .nullComparison operator => "illegal operator and value combination: " ++ operator ++ " NULL"
  | .notSingleValue operator count =>
    operator ++ " expects one value, got a list of " ++ toString count
  | .conditionWithoutArguments column =>
    "condition on '" ++ column ++ "' has no operator or value"
  | .invalidOperator operator => operator
  | .indexOnJson index => "index " ++ index ++ " covers a JSON column"
  | .emptyDefaultOperator => "default operator cannot be empty"
  | .malformedJson => ""
  | .reported _ detail => detail

namespace Kind

/-- The beginning of every message of a kind. -/
def heading : Kind → String
  | .classification => "invalid where clause: "
  | .invalidOperator => "invalid operator: "
  | .unsupportedFeature => "unsupported feature: "
  | .config => "invalid configuration: "
  | .json => "json error: "

end Kind

def message (e : Error) : String :=
  e.kind.heading ++ e.detail

end Error

end SqlCompose
