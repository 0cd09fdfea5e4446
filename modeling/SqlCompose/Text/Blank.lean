/-!
# Blank text

A text is blank when every character of it has the property White_Space; the
empty text is blank.
-/

namespace SqlCompose.Text

/-- The characters with the property White_Space. -/
def isBlankChar (c : Char) : Bool :=
  let code := c.toNat
  (9 ≤ code && code ≤ 13) || code == 0x20 || code == 0x85 || code == 0xA0 || code == 0x1680 ||
    (0x2000 ≤ code && code ≤ 0x200A) || code == 0x2028 || code == 0x2029 || code == 0x202F ||
    code == 0x205F || code == 0x3000

/-- Whether a text holds nothing but white space. -/
def isBlank (s : String) : Bool :=
  s.toList.all isBlankChar

/-- The code points with the property White_Space, one by one. -/
def whiteSpace : List Nat := [
  0x9, 0xA, 0xB, 0xC, 0xD, 0x20, 0x85, 0xA0, 0x1680, 0x2000, 0x2001, 0x2002, 0x2003, 0x2004, 0x2005,
  0x2006, 0x2007, 0x2008, 0x2009, 0x200A, 0x2028, 0x2029, 0x202F, 0x205F, 0x3000]

theorem isBlankChar_iff {c : Char} : isBlankChar c = true ↔ c.toNat ∈ whiteSpace := by
  simp only [isBlankChar, whiteSpace, Bool.or_eq_true, Bool.and_eq_true, decide_eq_true_eq,
    beq_iff_eq, List.mem_cons, List.not_mem_nil, or_false]
  omega

theorem isBlank_iff {s : String} : isBlank s = true ↔ ∀ c ∈ s.toList, c.toNat ∈ whiteSpace := by
  simp only [isBlank, List.all_eq_true, isBlankChar_iff]

theorem isBlank_eq_false_iff {s : String} :
    isBlank s = false ↔ ∃ c ∈ s.toList, c.toNat ∉ whiteSpace := by
  rw [← Bool.not_eq_true, isBlank_iff]
  simp

end SqlCompose.Text
