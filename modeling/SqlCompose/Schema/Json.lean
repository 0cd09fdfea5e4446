import SqlCompose.Json.Record
import SqlCompose.Schema.Column

/-!
# Schema descriptors in JSON

A descriptor is written with all its fields in order, and read from an object
in any order or from an array. A default value is a record of its kind and its
value, of which null has only the first.
-/

namespace SqlCompose

open Json Number

namespace DefaultValue

/-- The name of the kind of a default. -/
def kindName : DefaultValue → String
  | .null => "null"
  | .boolean _ => "boolean"
  | .integer _ => "integer"
  | .float _ => "float"
  | .string _ => "string"
  | .expression _ => "expression"

/-- The written value of a default; a double that is not finite has none. -/
def content : DefaultValue → Document
  | .null => .null
  | .boolean b => .bool b
  | .integer i => .ofInt i.toInt
  | .float x => if x.isFinite then .number (.real x) else .null
  | .string s => .ofString s
  | .expression sql => .ofString sql

def toDocument : DefaultValue → Document
  | .null => .record [("kind", .ofString "null")]
  | v => .record [("kind", .ofString v.kindName), ("value", v.content)]

/-- A default of a named kind. Only null may do without a value, and only in an object. -/
def ofKind? (kind : String) (value : Option Document) : Option DefaultValue :=
  match kind, value with
  | "null", none => some .null
  | "null", some .null => some .null
  | "boolean", some d => d.toBool?.map .boolean
  | "integer", some d => d.toInt64?.map .integer
  | "float", some d => d.toBinary64?.map .float
  | "string", some d => d.toString?.map .string
  | "expression", some d => d.toString?.map .expression
  | _, _ => none

/-- Reads a default. In an object the kind is one of a fixed set of names, which has two
forms; in an array it is a plain string. -/
def ofDocument? : Document → Option DefaultValue
  | .array [kind, value] => kind.toString?.bind (ofKind? · (some value))
  | .object fields => do
    let fields ← Document.keys? fields
    let kind ← Document.slot? fields "kind"
    let value ← Document.slot? fields "value"
    let name ← Document.required Document.toName? kind
    ofKind? name value
  | _ => none

end DefaultValue

namespace Column

def fieldNames : List String :=
  ["table_name", "name", "type", "nullable", "default", "length", "precision", "scale",
    "datetime_precision", "collation", "comment", "extra", "options"]

def toDocument (c : Column) : Document :=
  .record (fieldNames.zip [
    .ofString c.table, .ofString c.name, .ofString c.type, .bool c.nullable,
    .ofOption DefaultValue.toDocument c.defaultValue, size c.length, size c.precision, size c.scale,
    size c.datetimePrecision, text c.collation, text c.comment, text c.marker,
    .array (c.options.map .ofString)])
where
  size (n : Option UInt32) : Document := .ofOption (fun n => .ofNat n.toNat) n
  text (s : Option String) : Document := .ofOption .ofString s

def ofDocument? (d : Document) : Option Column := do
  match ← d.slots? fieldNames with
  | [table, name, type, nullable, defaultValue, length, precision, scale, datetimePrecision,
      collation, comment, marker, options] =>
    return {
      table := ← Document.required Document.toString? table
      name := ← Document.required Document.toString? name
      type := ← Document.required Document.toString? type
      nullable := ← Document.defaulted Document.toBool? false nullable
      defaultValue := ← optional DefaultValue.ofDocument? defaultValue
      length := ← optional Document.toUInt32? length
      precision := ← optional Document.toUInt32? precision
      scale := ← optional Document.toUInt32? scale
      datetimePrecision := ← optional Document.toUInt32? datetimePrecision
      collation := ← optional Document.toString? collation
      comment := ← optional Document.toString? comment
      marker := ← optional Document.toString? marker
      options := ← Document.defaulted (Document.toList? Document.toString?) [] options }
  | _ => none
where
  optional {α : Type} (read : Document → Option α) (d : Option Document) : Option (Option α) :=
    Document.defaulted (Document.toOption? read) none d

end Column

namespace Index

def fieldNames : List String :=
  ["table_name", "name", "kind", "columns", "comment"]

def toDocument (i : Index) : Document :=
  .record (fieldNames.zip [
    .ofString i.table, .ofString i.name, .ofString i.kind,
    .array (i.columns.map Column.toDocument), .ofOption .ofString i.comment])

def ofDocument? (d : Document) : Option Index := do
  match ← d.slots? fieldNames with
  | [table, name, kind, columns, comment] =>
    return {
      table := ← Document.required Document.toString? table
      name := ← Document.required Document.toString? name
      kind := ← Document.required Document.toString? kind
      columns := ← Document.required (Document.toList? Column.ofDocument?) columns
      comment := ← Document.defaulted (Document.toOption? Document.toString?) none comment }
  | _ => none

end Index

namespace PrimaryKey

def fieldNames : List String :=
  ["table_name", "name", "columns"]

def toDocument (p : PrimaryKey) : Document :=
  .record (fieldNames.zip [
    .ofString p.table, .ofString p.name, .array (p.columns.map Column.toDocument)])

def ofDocument? (d : Document) : Option PrimaryKey := do
  match ← d.slots? fieldNames with
  | [table, name, columns] =>
    return {
      table := ← Document.required Document.toString? table
      name := ← Document.required Document.toString? name
      columns := ← Document.required (Document.toList? Column.ofDocument?) columns }
  | _ => none

end PrimaryKey

end SqlCompose
