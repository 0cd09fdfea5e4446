import SqlCompose.Dialect

/-!
# A custom dialect

A dialect that supplies only what every dialect has to: everything else is left
to the defaults. Its quote character is a grave accent, and one of its types
has two precision slots.
-/

namespace SqlCompose.Dialect

def custom : Dialect where
  name := "custom"
  quote := '\x60'
  placeholder := fun position => ":p" ++ toString position
  types := [
    ("decimal", .plain "DECIMAL"),
    ("enum", .plain "ENUM"),
    ("text", .plain "TEXT"),
    ("timestamp",
      ⟨[.text "DATETIME(", .precision, .text ") ON UPDATE NOW(", .precision, .text ")"]⟩)]
  indexKeywords := [("primary", "PRIMARY KEY")]
  autoIncrementType := fun type => type ++ " AUTO_INCREMENT"

end SqlCompose.Dialect
