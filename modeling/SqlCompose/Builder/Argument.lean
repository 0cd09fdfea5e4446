import SqlCompose.Builder.Run

/-!
# Call arguments

The trailing arguments of a call are given by position. A single argument is
the compared value. Of several, a leading text is the operator and the next
argument the value; then a text may name the connective and an offset may
follow. Whatever is left out comes from the options of the builder.
-/

namespace SqlCompose

/-- What can be embedded as a sub-query. -/
inductive Subquery where
  | raw (sql : String)
  | callback (run : Build Unit)
  | builder (b : Builder)

/-- The right-hand side of a comparison. -/
inductive Operand where
  | value (v : Value)
  | query (q : Subquery)

namespace Operand

def isNull : Operand → Bool
  | .value v => v.isNull
  | .query _ => false

end Operand

mutual

/-- A positional argument. -/
inductive Arg where
  | text (s : String)
  | raw (sql : String)
  | value (v : Value)
  | offset (n : Nat)
  | query (q : Subquery)
  | conditions (cs : List Condition)

/-- A column with trailing arguments of its own. -/
structure Condition where
  column : String
  args : List Arg

end

namespace Arg

def kind : Arg → ArgKind
  | .text _ => .text
  | .raw _ => .raw
  | .value _ => .value
  | .offset _ => .offset
  | .query _ => .subquery
  | .conditions _ => .conditions

/-- An argument in the place of a value. -/
def toOperand : Arg → Except Error Operand
  | .text s => .ok (.value (.scalar (.text s)))
  | .value v => .ok (.value v)
  | .query q => .ok (.query q)
  | arg => .error (.notComparable arg.kind)

end Arg

namespace Condition

/-- A column compared with a value. -/
def equal (column : String) (v : Value) : Condition :=
  ⟨column, [.value v]⟩

/-- A column compared with a value by an operator. -/
def compare (column operator : String) (v : Value) : Condition :=
  ⟨column, [.text operator, .value v]⟩

/-- The condition joined by OR. A lone value gets the operator `=` before it. -/
def or (c : Condition) : Condition :=
  match c.args with
  | [arg] => { c with args := [.text "=", arg, .text "or"] }
  | args => { c with args := args ++ [.text "or"] }

end Condition

/-- Reads a connective. -/
def Connective.parse (word : String) : Except Error Connective :=
  match Connective.ofWord? word with
  | some c => .ok c
  | none => .error (.unknownConnective word)

/-- The trailing arguments of a call as they were read. -/
structure Prepared where
  options : Options
  value : Option Operand := none
  hasOperator : Bool := false
  hasTail : Bool := false

namespace Prepared

/-- Nothing may follow. -/
def close (p : Prepared) : List Arg → Except Error Prepared
  | [] => .ok p
  | arg :: _ => .error (.unexpectedArgument arg.kind)

/-- An offset may follow. -/
def withOffset (p : Prepared) : List Arg → Except Error Prepared
  | .offset n :: args => close { p with options.offset := n, hasTail := true } args
  | args => p.close args

/-- A connective and an offset may follow. -/
def withTail (p : Prepared) : List Arg → Except Error Prepared
  | .text word :: args => do
    let connective ← Connective.parse word
    withOffset { p with options.connective := connective, hasTail := true } args
  | args => p.withOffset args

/-- Reads the trailing arguments of a call. -/
def ofArgs (defaults : Options) : List Arg → Except Error Prepared
  | [] => .ok { options := defaults }
  | [arg] => do
    let value ← arg.toOperand
    return { options := defaults, value }
  | .text operator :: arg :: args => do
    let value ← arg.toOperand
    withTail { options := { defaults with operator }, value, hasOperator := true } args
  | arg :: args => do
    let value ← arg.toOperand
    withTail { options := defaults, value } args

end Prepared

end SqlCompose
