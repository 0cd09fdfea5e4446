import SqlCompose.Builder
import SqlCompose.Dialect.Postgresql
import SqlCompose.Dialect.Sqlite
import SqlCompose.Json.Record
import SqlCompose.Text.Blank

/-!
# Configuration

A configuration names a dialect and the options of new builders. It is read
from JSON, where every field may be left out; a default operator that is blank
is refused.
-/

namespace SqlCompose

open Json

/-- The dialects that a configuration can name. -/
inductive DialectName where
  | postgres
  | sqlite
deriving DecidableEq

namespace DialectName

def name : DialectName → String
  | .postgres => "postgres"
  | .sqlite => "sqlite"

/-- The dialect of a name; the full name of PostgreSQL is accepted too. -/
def ofName? : String → Option DialectName
  | "postgres" => some .postgres
  | "postgresql" => some .postgres
  | "sqlite" => some .sqlite
  | _ => none

theorem ofName?_name (n : DialectName) : ofName? n.name = some n := by
  cases n <;> rfl

def dialect : DialectName → Dialect
  | .postgres => .postgresql
  | .sqlite => .sqlite

end DialectName

/-- The connective of a name, in lower case only. -/
def Connective.ofName? : String → Option Connective
  | "and" => some .and
  | "or" => some .or
  | _ => none

theorem Connective.ofName?_of_name (c : Connective) : Connective.ofName? c.name = some c := by
  cases c <;> rfl

structure Config where
  dialect : DialectName := .postgres
  operator : String := "="
  connective : Connective := .and
  offset : UInt64 := 1
deriving DecidableEq

namespace Config

def fieldNames : List String :=
  ["dialect", "operator", "connective", "offset"]

def toDocument (c : Config) : Document :=
  .record (fieldNames.zip [
    .ofString c.dialect.name, .ofString c.operator, .ofString c.connective.name,
    .ofNat c.offset.toNat])

def ofDocument? (d : Document) : Option Config := do
  match ← d.slots? fieldNames with
  | [dialect, operator, connective, offset] =>
    let absent : Config := {}
    return {
      dialect := ← Document.defaulted (named DialectName.ofName?) absent.dialect dialect
      operator := ← Document.defaulted Document.toString? absent.operator operator
      connective := ← Document.defaulted (named Connective.ofName?) absent.connective connective
      offset := ← Document.defaulted Document.toUInt64? absent.offset offset }
  | _ => none
where
  named {α : Type} (read : String → Option α) (d : Document) : Option α := d.toName?.bind read

/-- A configuration whose default operator is not blank. -/
def validate (c : Config) : Except Error Config :=
  if Text.isBlank c.operator then .error .emptyDefaultOperator else .ok c

/-- Reads a configuration from JSON text. -/
def parse (text : String) : Except Error Config :=
  match (Document.ofString? text).bind ofDocument? with
  | some c => c.validate
  | none => .error .malformedJson

/-- The JSON text of a configuration. -/
def write (c : Config) : String :=
  c.toDocument.write

/-- The options of a new builder. -/
def options (c : Config) : Options where
  operator := c.operator
  connective := c.connective
  offset := c.offset.toNat

end Config

/-- A builder with the options of a configuration. -/
def Builder.ofConfig (c : Config) : Builder where
  options := c.options

end SqlCompose
