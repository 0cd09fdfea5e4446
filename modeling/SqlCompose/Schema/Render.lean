import SqlCompose.Dialect
import SqlCompose.Number.Shortest
import SqlCompose.Schema.Column

/-!
# Rendering schema fragments

The definition of a column is its quoted name followed by its type, null
constraint, default, numbering keyword and collation, of which empty parts are
left out. Comments, indexes and primary keys are statements or fragments of
their own; what a dialect cannot express is the empty text.
-/

namespace SqlCompose

open Number

/-- Doubles in statements are written without an exponent, and whole numbers
without a point; of two nearest digits the larger is taken. -/
def DefaultValue.floatFormat : Format where
  tie := .up
  positional := fun _ => true
  wholeSuffix := ""
  infinity := "inf"
  nan := "NaN"

/-- The separator of the option texts in the name of an enumerated type. -/
def enumSeparator : String := "_eopt_"

/-- The name of an enumerated type with the given options. -/
def enumTypeName (options : List String) : String :=
  Text.lower ("enum__" ++ enumSeparator.intercalate options)

/-- The SQL type that stands for an enumerated type. -/
def enumType : String := "ENUM"

/-- The index keyword of a fragment that is no statement of its own. -/
def primaryKeyword : String := "PRIMARY KEY"

namespace Dialect

variable (d : Dialect)

def renderDefault : DefaultValue → String
  | .null => "NULL"
  | .boolean b => d.boolLiteral b
  | .integer i => toString i.toInt
  | .float x => DefaultValue.floatFormat.write x
  | .string s => quoteValue s
  | .expression sql => sql

/-- The SQL type of a column before its size is added. -/
def baseType (type : String) : TypeTemplate :=
  (d.mapType? type).getD d.defaultType

/-- The precision and scale of a column whose type takes both. -/
def fixedPointSize? (c : Column) : Option (UInt32 × UInt32) :=
  match c.precision, c.scale with
  | some p, some s => if d.isFixedPoint (d.baseType c.type).toText then some (p, s) else none
  | _, _ => none

/-- The SQL type of a column with its size. -/
def resolveType (c : Column) : String :=
  let base := d.baseType c.type
  match d.fixedPointSize? c with
  | some (p, s) => base.toText ++ "(" ++ toString p ++ "," ++ toString s ++ ")"
  | none =>
    if base.hasSlot then base.fill (c.datetimePrecision.getD 0).toNat
    else if base.toText = enumType then enumTypeName c.options
    else
      match c.length with
      | some n => if d.acceptsLength base.toText then base.toText ++ "(" ++ toString n ++ ")"
        else base.toText
      | none => base.toText

/-- The part of a column definition that names its collation. -/
def collationClause (c : Column) : String :=
  match c.collation with
  | some collation => if collation.isEmpty then "" else "COLLATE " ++ collation
  | none => ""

/-- The parts of a column definition after its name. An automatically numbered
column has neither a null constraint nor a default. -/
def columnParts (c : Column) : List String :=
  if c.isAutoIncrement then
    [d.autoIncrementType (d.resolveType c), d.autoIncrementKeyword, collationClause c]
  else
    [d.resolveType c, if c.nullable then "NULL" else "NOT NULL",
      (c.defaultValue.map fun v => "DEFAULT " ++ d.renderDefault v).getD "", collationClause c]

/-- The definition of a column. -/
def renderColumn (c : Column) : String :=
  " ".intercalate ((d.quoteIdentifier c.name :: d.columnParts c).filter (!·.isEmpty))

/-- The text of a column comment; some types are always named in it. -/
def columnComment? (c : Column) : Option String :=
  let comment := c.comment.getD ""
  if d.requiresTypeComment c.type then some ("T:" ++ c.type ++ "|" ++ comment)
  else if comment.isEmpty then none
  else some comment

/-- The statement that comments a column, or the empty text. -/
def renderColumnComment (c : Column) : String :=
  match d.columnComment? c with
  | some text =>
    if d.supportsColumnComments then
      "COMMENT ON COLUMN " ++ d.quoteIdentifier c.table ++ "." ++ d.quoteIdentifier c.name ++
        " IS " ++ quoteValue text ++ ";"
    else ""
  | none => ""

/-- The quoted names of columns. -/
def columnList (columns : List Column) : String :=
  ",".intercalate (columns.map fun c => d.quoteIdentifier c.name)

/-- The keyword of an index. -/
def resolveIndexKeyword (kind : String) : String :=
  (d.indexKeyword? kind).getD d.defaultIndexKeyword

/-- An index; columns that hold JSON cannot be indexed. -/
def renderIndex? (i : Index) : Except Error String :=
  if i.hasJsonColumn then .error (.indexOnJson i.name)
  else
    let keyword := d.resolveIndexKeyword i.kind
    let columns := d.columnList i.columns
    if keyword = primaryKeyword then .ok (keyword ++ " (" ++ columns ++ ")")
    else
      .ok ("CREATE " ++ keyword ++ " " ++ d.quoteIdentifier i.name ++ " ON " ++
        d.quoteIdentifier i.table ++ " (" ++ columns ++ ")")

/-- An index, or the empty text. -/
def renderIndex (i : Index) : String :=
  match d.renderIndex? i with
  | .ok sql => sql
  | .error _ => ""

/-- The statement that comments an index, or the empty text. -/
def renderIndexComment (i : Index) : String :=
  let comment := i.comment.getD ""
  if d.supportsIndexComments && !comment.isEmpty && i.kind != "primary" then
    "COMMENT ON INDEX " ++ d.quoteIdentifier i.name ++ " IS " ++ quoteValue comment ++ ";"
  else ""

def renderPrimaryKey (p : PrimaryKey) : String :=
  primaryKeyword ++ " (" ++ d.columnList p.columns ++ ")"

end Dialect

end SqlCompose
