import SqlCompose.Number.Binary64

/-!
# Schema descriptors

A column, an index and a primary key are described independently of a dialect:
types and index kinds are semantic names, and defaults are values.
-/

namespace SqlCompose

open Number

/-- The default value of a column. -/
inductive DefaultValue where
  | null
  | boolean (value : Bool)
  | integer (value : Int64)
  | float (value : Binary64)
  | string (value : String)
  | expression (sql : String)
deriving DecidableEq

/-- A column. A marker that is not empty makes it automatically numbered. -/
structure Column where
  table : String
  name : String
  type : String
  nullable : Bool := false
  defaultValue : Option DefaultValue := none
  length : Option UInt32 := none
  precision : Option UInt32 := none
  scale : Option UInt32 := none
  datetimePrecision : Option UInt32 := none
  collation : Option String := none
  comment : Option String := none
  marker : Option String := none
  options : List String := []
deriving DecidableEq

namespace Column

/-- The marker of automatic numbering. -/
def autoIncrementMarker : String := "AutoIncrement"

/-- The semantic types that cannot be indexed. -/
def jsonTypes : List String := ["json", "jsonb"]

def allowNull (c : Column) : Column :=
  { c with nullable := true }

def withDefault (c : Column) (value : DefaultValue) : Column :=
  { c with defaultValue := some value }

def withLength (c : Column) (length : UInt32) : Column :=
  { c with length := some length }

def withPrecision (c : Column) (precision scale : UInt32) : Column :=
  { c with precision := some precision, scale := some scale }

def withDatetimePrecision (c : Column) (precision : UInt32) : Column :=
  { c with datetimePrecision := some precision }

def withCollation (c : Column) (collation : String) : Column :=
  { c with collation := some collation }

def withComment (c : Column) (comment : String) : Column :=
  { c with comment := some comment }

def autoIncrement (c : Column) : Column :=
  { c with marker := some autoIncrementMarker }

def withOptions (c : Column) (options : List String) : Column :=
  { c with options }

def isAutoIncrement (c : Column) : Bool :=
  c.marker.any (!·.isEmpty)

@[simp] theorem isAutoIncrement_autoIncrement (c : Column) :
    c.autoIncrement.isAutoIncrement = true := by
  simp [autoIncrement, isAutoIncrement, autoIncrementMarker]

def isJson (c : Column) : Bool :=
  jsonTypes.contains c.type

end Column

/-- An index over columns, of a semantic kind. -/
structure Index where
  table : String
  name : String
  kind : String
  columns : List Column
  comment : Option String := none
deriving DecidableEq

namespace Index

def withComment (i : Index) (comment : String) : Index :=
  { i with comment := some comment }

def hasJsonColumn (i : Index) : Bool :=
  i.columns.any (·.isJson)

end Index

/-- A primary key over columns. -/
structure PrimaryKey where
  table : String
  name : String
  columns : List Column
deriving DecidableEq

end SqlCompose
