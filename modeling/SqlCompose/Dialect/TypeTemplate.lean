/-!
# Type templates

The SQL type of a column may have slots for the precision of its fractional
seconds. A template is a list of fixed texts and slots; it is shown with its
slots spelled out, or filled with a precision.
-/

namespace SqlCompose

inductive TypePart where
  | text (s : String)
  | precision
deriving DecidableEq

structure TypeTemplate where
  parts : List TypePart
deriving DecidableEq

namespace TypeTemplate

/-- A type without slots. -/
def plain (s : String) : TypeTemplate :=
  ⟨[.text s]⟩

/-- A type with one slot between two texts. -/
def slotted (before after : String) : TypeTemplate :=
  ⟨[.text before, .precision, .text after]⟩

/-- How a slot is shown. -/
def slot : String := "\x7bprecision\x7d"

def hasSlot (t : TypeTemplate) : Bool :=
  t.parts.contains .precision

/-- The parts of a template with a text in place of every slot. -/
def fillParts (value : String) : List TypePart → String
  | [] => ""
  | .text s :: parts => s ++ fillParts value parts
  | .precision :: parts => value ++ fillParts value parts

/-- The template with a precision in every slot. -/
def fill (t : TypeTemplate) (precision : Nat) : String :=
  fillParts (toString precision) t.parts

/-- The template with its slots spelled out. -/
def toText (t : TypeTemplate) : String :=
  fillParts slot t.parts

@[simp] theorem hasSlot_plain (s : String) : (plain s).hasSlot = false := by
  simp [hasSlot, plain]

@[simp] theorem toText_plain (s : String) : (plain s).toText = s := by
  simp [toText, plain, fillParts]

@[simp] theorem fill_plain (s : String) (precision : Nat) : (plain s).fill precision = s := by
  simp [fill, plain, fillParts]

end TypeTemplate

end SqlCompose
