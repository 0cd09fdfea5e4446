import SqlCompose.Json.Number

/-!
# JSON tokens

A text is cut into tokens by a machine that reads one character at a time: its
state says which literal it is in, and each character yields the next state and
the tokens that end there. A string literal may spell a surrogate that has no
partner; it is still a token, but one without a text.
-/

namespace SqlCompose.Json

inductive Token where
  | openArray
  | closeArray
  | openObject
  | closeObject
  | comma
  | colon
  | null
  | bool (value : Bool)
  | number (value : Number)
  | text (value : Option String)
deriving DecidableEq

namespace Token

/-- The part of a string literal that has been read: its characters, the last
first, a leading surrogate that waits for its partner, and whether every
surrogate so far had one. -/
structure Literal where
  reversed : List Char := []
  lead : Option Nat := none
  paired : Bool := true

namespace Literal

/-- Adds a character that is not part of a surrogate pair. -/
def push (l : Literal) (c : Char) : Literal :=
  ⟨c :: l.reversed, none, l.paired && l.lead.isNone⟩

/-- Adds the sixteen bits of a numeric escape. -/
def pushUnit (l : Literal) (unit : Nat) : Literal :=
  match l.lead with
  | some lead =>
    if 0xDC00 ≤ unit ∧ unit < 0xE000 then
      let code := 0x10000 + (lead - 0xD800) * 0x400 + (unit - 0xDC00)
      ⟨Char.ofNat code :: l.reversed, none, l.paired⟩
    else
      ⟨l.reversed, none, false⟩
  | none =>
    if 0xD800 ≤ unit ∧ unit < 0xDC00 then ⟨l.reversed, some unit, l.paired⟩
    else if 0xDC00 ≤ unit ∧ unit < 0xE000 then ⟨l.reversed, none, false⟩
    else l.push (Char.ofNat unit)

/-- The text of a finished literal. -/
def text? (l : Literal) : Option String :=
  if l.paired && l.lead.isNone then some (String.ofList l.reversed.reverse) else none

end Literal

/-- What the machine is in the middle of. -/
inductive State where
  | between
  | word (reversed : List Char)
  | numeral (reversed : List Char)
  | literal (l : Literal)
  | escape (l : Literal)
  | hex (l : Literal) (digits : Nat) (value : Nat)

def ofWord? (reversed : List Char) : Option Token :=
  match reversed.reverse with
  | ['n', 'u', 'l', 'l'] => some .null
  | ['t', 'r', 'u', 'e'] => some (.bool true)
  | ['f', 'a', 'l', 's', 'e'] => some (.bool false)
  | _ => none

def ofNumeral? (reversed : List Char) : Option Token :=
  (Numeral.ofChars? reversed.reverse).map fun n => .number n.value

def isBlank (c : Char) : Bool :=
  c = ' ' || c = '\t' || c = '\n' || c = '\r'

def isNumeric (c : Char) : Bool :=
  c.isDigit || c = '-' || c = '+' || c = '.' || c = 'e' || c = 'E'

def hexDigit? (c : Char) : Option Nat :=
  if c.isDigit then some (c.toNat - '0'.toNat)
  else if 'a' ≤ c ∧ c ≤ 'f' then some (c.toNat - 'a'.toNat + 10)
  else if 'A' ≤ c ∧ c ≤ 'F' then some (c.toNat - 'A'.toNat + 10)
  else none

/-- The character that a one-character escape stands for. -/
def unescape? (c : Char) : Option Char :=
  match c with
  | '\x22' => some '\x22'
  | '\\' => some '\\'
  | '/' => some '/'
  | 'b' => some '\x08'
  | 'f' => some '\x0c'
  | 'n' => some '\n'
  | 'r' => some '\r'
  | 't' => some '\t'
  | _ => none

namespace State

/-- The state after a character that stands outside every literal. -/
def start? (c : Char) : Option (State × List Token) :=
  if isBlank c then some (.between, [])
  else if c.isDigit || c = '-' then some (.numeral [c], [])
  else if c.isLower then some (.word [c], [])
  else
    match c with
    | '[' => some (.between, [.openArray])
    | ']' => some (.between, [.closeArray])
    | '\x7b' => some (.between, [.openObject])
    | '\x7d' => some (.between, [.closeObject])
    | ',' => some (.between, [.comma])
    | ':' => some (.between, [.colon])
    | '\x22' => some (.literal {}, [])
    | _ => none

/-- The state after a character that ends the token before it. -/
def startAfter? (token : Option Token) (c : Char) : Option (State × List Token) :=
  match token, start? c with
  | some t, some (s, ts) => some (s, t :: ts)
  | _, _ => none

/-- The next state, with the tokens that the character completes. -/
def step? : State → Char → Option (State × List Token)
  | .between, c => start? c
  | .word cs, c => if c.isLower then some (.word (c :: cs), []) else startAfter? (ofWord? cs) c
  | .numeral cs, c =>
    if isNumeric c then some (.numeral (c :: cs), []) else startAfter? (ofNumeral? cs) c
  | .literal l, c =>
    if c = '\x22' then some (.between, [.text l.text?])
    else if c = '\\' then some (.escape l, [])
    else if c.toNat < 0x20 then none
    else some (.literal (l.push c), [])
  | .escape l, c =>
    if c = 'u' then some (.hex l 0 0, [])
    else (unescape? c).map fun c => (.literal (l.push c), [])
  | .hex l digits value, c =>
    (hexDigit? c).map fun d =>
      let value := value * 16 + d
      if digits = 3 then (.literal (l.pushUnit value), []) else (.hex l (digits + 1) value, [])

/-- The tokens that the end of the text completes. -/
def finish? : State → Option (List Token)
  | .between => some []
  | .word cs => (ofWord? cs).map ([·])
  | .numeral cs => (ofNumeral? cs).map ([·])
  | _ => none

/-- The tokens of the rest of a text, after those already found, the last first. -/
def run? (found : List Token) : State → List Char → Option (List Token)
  | s, [] => s.finish?.map (found.reverse ++ ·)
  | s, c :: cs =>
    match s.step? c with
    | none => none
    | some (s, ts) => run? (ts.reverse ++ found) s cs

end State

/-- The tokens of a text. -/
def ofString? (s : String) : Option (List Token) :=
  State.run? [] .between s.toList

end Token

end SqlCompose.Json
