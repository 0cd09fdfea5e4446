import SqlCompose.Dialect

/-!
# PostgreSQL

Placeholders are numbered, automatic numbering is a type of its own, and
columns and indexes can be commented.
-/

namespace SqlCompose.Dialect

/-- The semantic type that is stored as an integer and told apart by a comment. -/
def ipAddress : String := "ip_address"

def postgresql : Dialect where
  name := "postgresql"
  placeholder := fun position => "$" ++ toString position
  operators := [
    "between", "#", "<<=", ">>=", "&&", "@>", "<@", "?", "?|", "?&", "||", "-", "@?", "@@", "#-",
    "is distinct from", "is not distinct from"]
  types := [
    ("string", .plain "VARCHAR"),
    ("char", .plain "CHAR"),
    ("text", .plain "TEXT"),
    ("medium_text", .plain "TEXT"),
    ("long_text", .plain "TEXT"),
    ("binary", .plain "BYTEA"),
    ("boolean", .plain "BOOLEAN"),
    ("tiny_integer", .plain "SMALLINT"),
    ("small_integer", .plain "SMALLINT"),
    ("year", .plain "SMALLINT"),
    ("integer", .plain "INTEGER"),
    (ipAddress, .plain "INTEGER"),
    ("big_integer", .plain "BIGINT"),
    ("float", .plain "REAL"),
    ("double", .plain "DOUBLE PRECISION"),
    ("decimal", .plain "NUMERIC"),
    ("date", .plain "DATE"),
    ("time", .slotted "TIME(" ")"),
    ("time_tz", .slotted "TIME(" ") WITH TIME ZONE"),
    ("date_time", .slotted "TIMESTAMP(" ")"),
    ("timestamp", .slotted "TIMESTAMP(" ")"),
    ("date_time_tz", .slotted "TIMESTAMP(" ") WITH TIME ZONE"),
    ("timestamp_tz", .slotted "TIMESTAMP(" ") WITH TIME ZONE"),
    ("json", .plain "JSON"),
    ("jsonb", .plain "JSONB"),
    ("uuid", .plain "UUID"),
    ("enum", .plain "ENUM")]
  indexKeywords := [
    ("primary", "PRIMARY KEY"),
    ("unique", "UNIQUE INDEX"),
    ("index", "INDEX"),
    ("fulltext", "INDEX"),
    ("spatial", "INDEX")]
  acceptsLength := fun type => !([
    "BYTEA", "TEXT", "BOOLEAN", "SMALLINT", "INTEGER", "BIGINT", "REAL", "DOUBLE PRECISION",
    "DATE", "JSON", "JSONB", "UUID"].contains type)
  autoIncrementType := fun type =>
    if type = "BIGINT" then "BIGSERIAL"
    else if type = "SMALLINT" then "SMALLSERIAL"
    else "SERIAL"
  requiresTypeComment := fun semantic => semantic == ipAddress
  supportsIndexComments := true

end SqlCompose.Dialect
