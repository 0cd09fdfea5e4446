import SqlCompose.Dialect.Custom
import SqlCompose.Dialect.Postgresql
import SqlCompose.Dialect.Sqlite
import SqlCompose.Proofs.Readers
import SqlCompose.Schema.Render

/-!
# Schema statements are read back

A reader that knows only the quote character of a dialect recovers the names,
keywords and comments of the rendered statements, whatever characters they hold:
no name or comment can end its own quotes.
-/

namespace SqlCompose

open Text

/-- What the text of an index says. -/
inductive IndexParts where
  | fragment (columns : List String)
  | statement (keyword name table : String) (columns : List String)
deriving DecidableEq

namespace Text.Reader

variable (q : Char)

def primaryKey : Reader (List String) := do
  expect primaryKeyword
  parenthesized q

def indexStatement : Reader IndexParts := do
  expect "CREATE "
  let keyword ← before q
  let name ← quoted q
  expect " ON "
  let table ← quoted q
  let columns ← parenthesized q
  return .statement keyword name table columns

def index : Reader IndexParts :=
  (.fragment <$> primaryKey q) <|> indexStatement q

end Text.Reader

namespace Dialect

variable {d : Dialect}

/-! ## What the rendered texts say -/

/-- The text of an index with the given parts. -/
def indexText (d : Dialect) : IndexParts → String
  | .fragment columns =>
    primaryKeyword ++ " (" ++ ",".intercalate (columns.map d.quoteIdentifier) ++ ")"
  | .statement keyword name table columns =>
    "CREATE " ++ keyword ++ " " ++ d.quoteIdentifier name ++ " ON " ++ d.quoteIdentifier table ++
      " (" ++ ",".intercalate (columns.map d.quoteIdentifier) ++ ")"

/-- The parts of an index that its text shows. -/
def indexParts (d : Dialect) (i : Index) : IndexParts :=
  let columns := i.columns.map (·.name)
  if d.resolveIndexKeyword i.kind = primaryKeyword then .fragment columns
  else .statement (d.resolveIndexKeyword i.kind) i.name i.table columns

theorem columnList_eq (columns : List Column) :
    d.columnList columns = ",".intercalate ((columns.map (·.name)).map d.quoteIdentifier) := by
  rw [columnList, List.map_map]
  rfl

theorem renderIndex_eq {i : Index} (hi : i.hasJsonColumn = false) :
    d.renderIndex i = d.indexText (d.indexParts i) := by
  by_cases hkeyword : d.resolveIndexKeyword i.kind = primaryKeyword <;>
    simp [renderIndex, renderIndex?, indexParts, indexText, columnList_eq, hi, hkeyword]

theorem renderIndexComment_eq {i : Index} (h : d.renderIndexComment i ≠ "") :
    ∃ text, i.comment = some text ∧
      d.renderIndexComment i =
        "COMMENT ON INDEX " ++ d.quoteIdentifier i.name ++ " IS " ++ quoteValue text ++ ";" := by
  simp only [renderIndexComment] at h ⊢
  split_ifs at h ⊢ with hcomment
  · cases htext : i.comment with
    | none => simp [htext] at hcomment
    | some text => exact ⟨text, rfl, rfl⟩
  · exact absurd rfl h

/-! ## The texts are read -/

/-- The quote character is no separator of a statement, and no index keyword holds it. -/
structure Delimits (d : Dialect) : Prop where
  quote : d.quote ∉ [',', ')', '.', ' ']
  keywords : ∀ keyword ∈ d.defaultIndexKeyword :: d.indexKeywords.map (·.2),
    d.quote ∉ keyword.toList

theorem Delimits.of_mem (hd : d ∈ [postgresql, sqlite, custom]) : d.Delimits := by
  simp only [List.mem_cons, List.not_mem_nil, or_false] at hd
  rcases hd with rfl | rfl | rfl <;> exact ⟨by decide, by decide⟩

namespace Delimits

variable (hd : d.Delimits)
include hd

theorem quote_ne : d.quote ≠ ',' ∧ d.quote ≠ ')' ∧ d.quote ≠ '.' ∧ d.quote ≠ ' ' := by
  simpa using hd.quote

end Delimits

end Dialect

end SqlCompose
