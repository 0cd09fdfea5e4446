/-!
# Connectives

A clause joins the clause before it by a connective. The words for the two
connectives are read without regard to the case of their ASCII letters.
-/

namespace SqlCompose

inductive Connective where
  | and
  | or
deriving DecidableEq

namespace Connective

def all : List Connective :=
  [.and, .or]

/-- The word that names a connective. -/
def name : Connective → String
  | .and => "and"
  | .or => "or"

/-- The keyword of a connective in a statement. -/
def keyword : Connective → String
  | .and => "AND"
  | .or => "OR"

/-- The connective that a word names. -/
def ofWord? (word : String) : Option Connective :=
  all.find? fun c => word.toList.map Char.toLower == c.name.toList

/-- Whether a word names a connective. -/
def isWord (word : String) : Bool :=
  (ofWord? word).isSome

theorem ofWord?_name (c : Connective) : ofWord? c.name = some c := by
  cases c <;> rfl

theorem ofWord?_keyword (c : Connective) : ofWord? c.keyword = some c := by
  cases c <;> rfl

end Connective

end SqlCompose
