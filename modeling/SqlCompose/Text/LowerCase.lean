import SqlCompose.Text.CaseTable

/-!
# Lower case

The lower case of a text under the full rules of the character set: each
character has its own lower case, a capital I with a dot above becomes two
characters, and a capital sigma is written in its final form where it ends a
word. A word ends at a sigma when a cased character stands before it and none
after it, looking through case-ignorable characters on both sides.
-/

namespace SqlCompose.Text

/-- Membership of a character in a table of closed runs. -/
def inRuns (runs : List (Nat × Nat)) (c : Char) : Bool :=
  runs.any fun run => run.1 ≤ c.toNat && c.toNat ≤ run.2

/-- The lower case of a single character, out of context. -/
def lowerChar (c : Char) : List Char :=
  if c.toNat < 128 then [c.toLower]
  else if c.toNat = 0x130 then ['i', Char.ofNat 0x307]
  else
    match CaseTable.lowerRuns.findSome? (·.lowered? c.toNat) with
    | some code => [Char.ofNat code]
    | none => [c]

/-- Whether the first character that case rules do not look through is cased. -/
def reachesCased (cs : List Char) : Bool :=
  match cs.dropWhile (inRuns CaseTable.ignorable) with
  | [] => false
  | c :: _ => inRuns CaseTable.cased c

/-- The lower case of a text that follows `before`, the nearest character first. -/
def lowerAfter (before : List Char) : List Char → List Char
  | [] => []
  | c :: cs =>
    let lowered :=
      if c.toNat = 0x3A3 then
        [if reachesCased before && !reachesCased cs then Char.ofNat 0x3C2 else Char.ofNat 0x3C3]
      else
        lowerChar c
    lowered ++ lowerAfter (c :: before) cs

/-- The lower case of a text. -/
def lower (s : String) : String :=
  String.ofList (lowerAfter [] s.toList)

@[simp] theorem toList_lower (s : String) : (lower s).toList = lowerAfter [] s.toList := by
  simp [lower]

end SqlCompose.Text
