import SqlCompose.Dialect.TypeTemplate
import SqlCompose.Error
import SqlCompose.Text.LowerCase
import SqlCompose.Text.Quoted

/-!
# Dialects

A dialect is the data in which the SQL of one database differs from that of
another: its quote character, placeholders, further operators, its tables of
types and index keywords, and how it marks automatic numbering and comments.
What every dialect does with this data is defined once.
-/

namespace SqlCompose

/-- What a dialect may replace is exactly these fields; those with a default may be left as they
are. All else is an algorithm over them that no dialect replaces: how names and literals are quoted,
how an operator is looked up and refused, how an enumerated type is named, and how statements,
columns, indexes and comments are written. -/
structure Dialect where
  name : String
  quote : Char := '\x22'
  /-- The placeholder of the value at a position, counted from one. -/
  placeholder : Nat → String
  /-- The operators accepted beside the generic ones, in lower case. -/
  operators : List String := []
  /-- The SQL type of every semantic type that has one of its own. -/
  types : List (String × TypeTemplate)
  defaultType : TypeTemplate := .plain "VARCHAR"
  /-- The keyword of every semantic index kind that has one of its own. -/
  indexKeywords : List (String × String)
  defaultIndexKeyword : String := "KEY"
  /-- Whether a SQL type is written with precision and scale. -/
  isFixedPoint : String → Bool := fun type => type == "NUMERIC" || type == "DECIMAL"
  /-- Whether a SQL type may be followed by a length. -/
  acceptsLength : String → Bool := fun _ => true
  /-- The type that takes the place of a SQL type on automatically numbered columns. -/
  autoIncrementType : String → String
  autoIncrementKeyword : String := ""
  /-- Whether columns of a semantic type always carry a comment that names it. -/
  requiresTypeComment : String → Bool := fun _ => false
  supportsColumnComments : Bool := true
  supportsIndexComments : Bool := false
  boolLiteral : Bool → String := fun b => if b then "TRUE" else "FALSE"

namespace Dialect

/-- The operators of every dialect. -/
def genericOperators : List String := [
  "=", "<", ">", "<=", ">=", "<>", "!=", "<=>", "like", "like binary", "not like", "ilike",
  "&", "|", "^", "<<", ">>", "&~", "rlike", "not rlike", "regexp", "not regexp", "~", "~*",
  "!~", "!~*", "similar to", "not similar to", "not ilike", "~~*", "!~~*", "in", "not in"]

variable (d : Dialect)

/-- Whether the lower case of a text is an operator of the dialect. -/
def isOperator (operator : String) : Bool :=
  let lowered := Text.lower operator
  genericOperators.contains lowered || d.operators.contains lowered

def checkOperator (operator : String) : Except Error Unit :=
  if d.isOperator operator then .ok () else .error (.invalidOperator operator)

theorem checkOperator_eq_ok_iff {operator : String} :
    d.checkOperator operator = .ok () ↔ d.isOperator operator = true := by
  unfold checkOperator
  split <;> simp_all

def quoteIdentifier (name : String) : String :=
  Text.quoted d.quote name

/-- A string literal. -/
def quoteValue (value : String) : String :=
  Text.quoted '\x27' value

/-- Whether a name is an expression rather than a dotted name. -/
def isExpression (name : String) : Bool :=
  name.toList.contains '(' || name.toList.contains ' '

/-- One part of a dotted name. -/
def wrapPart (part : List Char) : String :=
  if part = ['*'] then "*" else d.quoteIdentifier (String.ofList part)

/-- A dotted name with its parts quoted; expressions are left as they are. -/
def wrap (name : String) : String :=
  if isExpression name then name
  else ".".intercalate ((name.toList.splitOn '.').map d.wrapPart)

def mapType? (semantic : String) : Option TypeTemplate :=
  d.types.lookup semantic

def indexKeyword? (kind : String) : Option String :=
  d.indexKeywords.lookup kind

end Dialect

end SqlCompose
