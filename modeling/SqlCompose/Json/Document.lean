import SqlCompose.Json.Token

/-!
# JSON documents

A document keeps the order and the repetitions of object keys. It is read from
tokens by a machine whose state holds the containers that are still open, and
written without blanks.
-/

namespace SqlCompose.Json

/-- A JSON document. A string without a text is one whose literal spells a
surrogate without its partner. -/
inductive Document where
  | null
  | bool (value : Bool)
  | number (value : Number)
  | string (text : Option String)
  | array (items : List Document)
  | object (fields : List (Option String × Document))

namespace Document

instance : Inhabited Document := ⟨.null⟩

/-- A container that waits for a value, with the values before it, the last first. -/
inductive Frame where
  | item (before : List Document)
  | field (before : List (Option String × Document)) (key : Option String)

/-- What has been read, and what may follow. -/
inductive State where
  | value (frames : List Frame)
  | firstItem (frames : List Frame)
  | firstKey (frames : List Frame)
  | nextKey (before : List (Option String × Document)) (frames : List Frame)
  | colon (before : List (Option String × Document)) (key : Option String) (frames : List Frame)
  | afterItem (items : List Document) (frames : List Frame)
  | afterField (fields : List (Option String × Document)) (frames : List Frame)
  | complete (d : Document)

namespace State

/-- The state after a whole value. -/
def place (d : Document) : List Frame → State
  | [] => .complete d
  | .item before :: frames => .afterItem (d :: before) frames
  | .field before key :: frames => .afterField ((key, d) :: before) frames

/-- The state after the first token of a value. -/
def start? (frames : List Frame) : Token → Option State
  | .null => some (place .null frames)
  | .bool b => some (place (.bool b) frames)
  | .number n => some (place (.number n) frames)
  | .text t => some (place (.string t) frames)
  | .openArray => some (.firstItem frames)
  | .openObject => some (.firstKey frames)
  | _ => none

def step? : State → Token → Option State
  | .value frames, t => start? frames t
  | .firstItem frames, .closeArray => some (place (.array []) frames)
  | .firstItem frames, t => start? (.item [] :: frames) t
  | .firstKey frames, .closeObject => some (place (.object []) frames)
  | .firstKey frames, .text key => some (.colon [] key frames)
  | .nextKey before frames, .text key => some (.colon before key frames)
  | .colon before key frames, .colon => some (.value (.field before key :: frames))
  | .afterItem items frames, .comma => some (.value (.item items :: frames))
  | .afterItem items frames, .closeArray => some (place (.array items.reverse) frames)
  | .afterField fields frames, .comma => some (.nextKey fields frames)
  | .afterField fields frames, .closeObject => some (place (.object fields.reverse) frames)
  | _, _ => none

def run? : State → List Token → Option State
  | s, [] => some s
  | s, t :: ts =>
    match s.step? t with
    | none => none
    | some s => run? s ts

end State

/-- The document that the tokens spell. -/
def ofTokens? (ts : List Token) : Option Document :=
  match State.run? (.value []) ts with
  | some (.complete d) => some d
  | _ => none

/-- Reads a JSON text. -/
def ofString? (s : String) : Option Document :=
  (Token.ofString? s).bind ofTokens?

/-- A digit of a numeric escape. -/
def hexDigit (n : Nat) : Char :=
  if n < 10 then Char.ofNat ('0'.toNat + n) else Char.ofNat ('a'.toNat + (n - 10))

/-- A character inside a string literal. -/
def escapeChar (c : Char) : List Char :=
  if c = '\x22' then ['\\', '\x22']
  else if c = '\\' then ['\\', '\\']
  else if c = '\x08' then ['\\', 'b']
  else if c = '\t' then ['\\', 't']
  else if c = '\n' then ['\\', 'n']
  else if c = '\x0c' then ['\\', 'f']
  else if c = '\r' then ['\\', 'r']
  else if c.toNat < 0x20 then
    ['\\', 'u', '0', '0', hexDigit (c.toNat / 16), hexDigit (c.toNat % 16)]
  else [c]

/-- A string literal. -/
def writeString (s : String) : String :=
  String.ofList ('\x22' :: (s.toList.flatMap escapeChar ++ ['\x22']))

/-- A string literal, also for a string without a text. -/
def writeText : Option String → String
  | some s => writeString s
  | none => "\"\\ud800\""

mutual

/-- The text of a document. -/
def write : Document → String
  | .null => "null"
  | .bool b => if b then "true" else "false"
  | .number n => n.write
  | .string t => writeText t
  | .array items => "[" ++ ",".intercalate (writeItems items) ++ "]"
  | .object fields => "\x7b" ++ ",".intercalate (writeFields fields) ++ "\x7d"

def writeItems : List Document → List String
  | [] => []
  | d :: ds => d.write :: writeItems ds

def writeFields : List (Option String × Document) → List String
  | [] => []
  | (key, d) :: fields => (writeText key ++ ":" ++ d.write) :: writeFields fields

end

end Document

end SqlCompose.Json
