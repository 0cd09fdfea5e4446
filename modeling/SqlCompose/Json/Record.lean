import SqlCompose.Json.Document

/-!
# Records in JSON

A record with named fields is written as an object, and may also be read from
an array of its fields in order. In an object unknown keys are ignored, and a
known key must not occur twice. Both forms come down to slots: for each field
in order, the document that was given for it, if any.
-/

namespace SqlCompose.Json

namespace Document

/-- The keys of an object, if all of them can be read. -/
def keys? (fields : List (Option String × Document)) : Option (List (String × Document)) :=
  fields.mapM fun (key, d) => key.map fun k => (k, d)

/-- What is given under a key; a repeated key is refused. -/
def slot? (fields : List (String × Document)) (name : String) : Option (Option Document) :=
  match fields.filter (·.1 == name) with
  | [] => some none
  | [(_, d)] => some (some d)
  | _ => none

/-- What a document gives for each field of a record. -/
def slots? (names : List String) : Document → Option (List (Option Document))
  | .object fields => do
    let fields ← keys? fields
    names.mapM (slot? fields)
  | .array items =>
    if items.length ≤ names.length then
      some (items.map some ++ List.replicate (names.length - items.length) none)
    else none
  | _ => none

/-- A field that must be given. -/
def required {α : Type} (read : Document → Option α) : Option Document → Option α
  | some d => read d
  | none => none

/-- A field that may be left out. -/
def defaulted {α : Type} (read : Document → Option α) (fallback : α) :
    Option Document → Option α
  | some d => read d
  | none => some fallback

def toBool? : Document → Option Bool
  | .bool b => some b
  | _ => none

def toString? : Document → Option String
  | .string t => t
  | _ => none

/-- An integer between two bounds. -/
def toIntIn? (least greatest : Int) : Document → Option Int
  | .number (.int i) => if least ≤ i ∧ i ≤ greatest then some i else none
  | _ => none

def toUInt32? (d : Document) : Option UInt32 :=
  (d.toIntIn? 0 (UInt32.size - 1 : Nat)).map fun i => UInt32.ofNat i.toNat

def toUInt64? (d : Document) : Option UInt64 :=
  (d.toIntIn? 0 (UInt64.size - 1 : Nat)).map fun i => UInt64.ofNat i.toNat

def toInt64? (d : Document) : Option Int64 :=
  (d.toIntIn? Int64.minValue.toInt Int64.maxValue.toInt).map Int64.ofInt

/-- A double; integers are rounded to the nearest. -/
def toBinary64? : Document → Option Number.Binary64
  | .number (.int i) => some (.ofInt i)
  | .number (.real x) => some x
  | _ => none

/-- A value that null leaves out. -/
def toOption? {α : Type} (read : Document → Option α) : Document → Option (Option α)
  | .null => some none
  | d => (read d).map some

def toList? {α : Type} (read : Document → Option α) : Document → Option (List α)
  | .array items => items.mapM read
  | _ => none

/-- One of a fixed set of names, alone or as the only key of an object with a
null value. -/
def toName? : Document → Option String
  | .string t => t
  | .object [(key, .null)] => key
  | _ => none

/-- An optional value. -/
def ofOption {α : Type} (write : α → Document) : Option α → Document
  | none => .null
  | some a => write a

def ofString (s : String) : Document :=
  .string (some s)

def ofInt (i : Int) : Document :=
  .number (.int i)

def ofNat (n : Nat) : Document :=
  ofInt n

/-- An object whose keys all have a text. -/
def record (fields : List (String × Document)) : Document :=
  .object (fields.map fun (key, d) => (some key, d))

end Document

end SqlCompose.Json
