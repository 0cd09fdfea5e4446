import SqlCompose.Dialect

/-!
# SQLite

Placeholders carry no number, types are affinities, and nothing can be
commented.
-/

namespace SqlCompose.Dialect

def sqlite : Dialect where
  name := "sqlite"
  placeholder := fun _ => "?"
  operators := ["glob", "match", "is", "is not"]
  types := [
    ("string", .plain "VARCHAR"),
    ("char", .plain "CHAR"),
    ("text", .plain "TEXT"),
    ("medium_text", .plain "TEXT"),
    ("long_text", .plain "TEXT"),
    ("json", .plain "TEXT"),
    ("jsonb", .plain "TEXT"),
    ("uuid", .plain "TEXT"),
    ("enum", .plain "TEXT"),
    ("date", .plain "TEXT"),
    ("time", .plain "TEXT"),
    ("time_tz", .plain "TEXT"),
    ("date_time", .plain "TEXT"),
    ("date_time_tz", .plain "TEXT"),
    ("timestamp", .plain "TEXT"),
    ("timestamp_tz", .plain "TEXT"),
    ("binary", .plain "BLOB"),
    ("boolean", .plain "INTEGER"),
    ("tiny_integer", .plain "INTEGER"),
    ("small_integer", .plain "INTEGER"),
    ("integer", .plain "INTEGER"),
    ("big_integer", .plain "INTEGER"),
    ("year", .plain "INTEGER"),
    ("ip_address", .plain "INTEGER"),
    ("float", .plain "REAL"),
    ("double", .plain "REAL"),
    ("decimal", .plain "NUMERIC")]
  indexKeywords := [
    ("primary", "PRIMARY KEY"),
    ("unique", "UNIQUE INDEX"),
    ("index", "INDEX")]
  acceptsLength := fun type => type == "VARCHAR" || type == "CHAR"
  autoIncrementType := fun _ => "INTEGER"
  autoIncrementKeyword := "PRIMARY KEY AUTOINCREMENT"
  supportsColumnComments := false
  boolLiteral := fun b => if b then "1" else "0"

end SqlCompose.Dialect
