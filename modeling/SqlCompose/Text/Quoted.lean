/-!
# Quoted text

A quoted text stands between two quote characters, and every quote character
inside it is written twice, so the first quote character that is not doubled
closes it.
-/

namespace SqlCompose.Text

/-- The characters of a text with every occurrence of `q` written twice. -/
def doubled (q : Char) : List Char → List Char
  | [] => []
  | c :: cs => if c = q then q :: q :: doubled q cs else c :: doubled q cs

@[simp] theorem doubled_nil (q : Char) : doubled q [] = [] := rfl

/-- The text between quote characters. -/
def quoted (q : Char) (s : String) : String :=
  String.ofList (q :: (doubled q s.toList ++ [q]))

@[simp] theorem toList_quoted (q : Char) (s : String) :
    (quoted q s).toList = q :: (doubled q s.toList ++ [q]) := by
  simp [quoted]

theorem quoted_ne_empty (q : Char) (s : String) : quoted q s ≠ "" := by
  intro h
  simpa using congrArg String.toList h

end SqlCompose.Text
