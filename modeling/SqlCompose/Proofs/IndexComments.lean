import SqlCompose.Proofs.SchemaStatements

/-!
# Comments of indexes

The text of an index depends on its kind and on the types of its columns, the statement
that comments it on its comment and its kind. No dialect comments an index that it
writes as a part of the table. The types of the columns are not looked at again: the
comment of an index over a JSON column is written, although the index is left out.
-/

namespace SqlCompose

namespace Dialect

/-- Where indexes are commented, only those of the kind `primary` are no statements. -/
structure CommentsStatements (d : Dialect) : Prop where
  keywords : d.supportsIndexComments = true →
    ∀ entry ∈ d.indexKeywords, entry.2 = primaryKeyword → entry.1 = "primary"
  default : d.supportsIndexComments = true → d.defaultIndexKeyword ≠ primaryKeyword

variable {d : Dialect} {i : Index}

theorem CommentsStatements.of_mem (hd : d ∈ [postgresql, sqlite, custom]) :
    d.CommentsStatements := by
  simp only [List.mem_cons, List.not_mem_nil, or_false] at hd
  rcases hd with rfl | rfl | rfl <;> exact ⟨by decide, by decide⟩

theorem CommentsStatements.kind_eq (hd : d.CommentsStatements)
    (hsupports : d.supportsIndexComments = true) {kind : String}
    (hkeyword : d.resolveIndexKeyword kind = primaryKeyword) : kind = "primary" := by
  rw [resolveIndexKeyword, indexKeyword?] at hkeyword
  cases hlookup : d.indexKeywords.lookup kind with
  | none =>
    rw [hlookup] at hkeyword
    exact absurd hkeyword (hd.default hsupports)
  | some keyword =>
    rw [hlookup] at hkeyword
    obtain ⟨before, after, htable, -⟩ := List.lookup_eq_some_iff.mp hlookup
    exact hd.keywords hsupports (kind, keyword) (by simp [htable]) hkeyword

/-- The text of an index that is a statement of its own. -/
def createIndex (d : Dialect) (i : Index) : String :=
  d.indexText (.statement (d.resolveIndexKeyword i.kind) i.name i.table (i.columns.map (·.name)))

theorem createIndex_ne_empty (d : Dialect) (i : Index) : d.createIndex i ≠ "" := by
  simp [createIndex, indexText, ← String.toList_inj]

theorem renderIndex_of_json (hi : i.hasJsonColumn = true) : d.renderIndex i = "" := by
  simp [renderIndex, renderIndex?, hi]

/-- An index that is no fragment is created unless it is left out. -/
theorem renderIndex_eq_createIndex_iff (hkeyword : d.resolveIndexKeyword i.kind ≠ primaryKeyword) :
    d.renderIndex i = d.createIndex i ↔ i.hasJsonColumn = false := by
  cases hjson : i.hasJsonColumn with
  | true =>
    rw [renderIndex_of_json hjson]
    exact iff_of_false (d.createIndex_ne_empty i).symm nofun
  | false =>
    rw [renderIndex_eq hjson, indexParts, if_neg hkeyword]
    exact iff_of_true rfl rfl

theorem renderIndexComment_ne_empty_iff :
    d.renderIndexComment i ≠ "" ↔
      d.supportsIndexComments = true ∧ i.comment.getD "" ≠ "" ∧ i.kind ≠ "primary" := by
  have hcomment (r : String) : "COMMENT ON INDEX " ++ r ≠ "" := by
    simp [← String.toList_inj]
  simp only [renderIndexComment]
  split_ifs with h
  · simpa [String.append_assoc, hcomment, and_assoc] using h
  · simpa [and_assoc] using h

end Dialect

/-- A comment is written for an index exactly if its dialect has comments for indexes, the comment
is not empty and the kind is not `primary`. It names the index, and it is never that of an index
which is written as a fragment. The index itself is written as a statement of that name exactly if
none of its columns holds JSON; otherwise it is left out. -/
theorem commented_index_is_created_unless_json (d : Dialect)
    (hd : d ∈ [Dialect.postgresql, Dialect.sqlite, Dialect.custom]) (i : Index) :
    (d.renderIndexComment i ≠ "" ↔
      d.supportsIndexComments = true ∧ i.comment.getD "" ≠ "" ∧ i.kind ≠ "primary") ∧
    (d.renderIndexComment i ≠ "" →
      (∃ text, i.comment = some text ∧ d.renderIndexComment i =
        "COMMENT ON INDEX " ++ d.quoteIdentifier i.name ++ " IS " ++ Dialect.quoteValue text ++
          ";") ∧
      d.createIndex i ≠ "" ∧
      (d.renderIndex i = d.createIndex i ↔ i.hasJsonColumn = false)) ∧
    (d.resolveIndexKeyword i.kind = primaryKeyword → d.renderIndexComment i = "") ∧
    (i.hasJsonColumn = true → d.renderIndex i = "") := by
  have hkind : d.supportsIndexComments = true →
      d.resolveIndexKeyword i.kind = primaryKeyword → i.kind = "primary" :=
    fun hsupports hkeyword => (Dialect.CommentsStatements.of_mem hd).kind_eq hsupports hkeyword
  refine ⟨Dialect.renderIndexComment_ne_empty_iff, ?_, ?_, Dialect.renderIndex_of_json⟩
  · intro h
    obtain ⟨hsupports, -, hprimary⟩ := Dialect.renderIndexComment_ne_empty_iff.mp h
    have hkeyword : d.resolveIndexKeyword i.kind ≠ primaryKeyword :=
      fun hkeyword => hprimary (hkind hsupports hkeyword)
    exact ⟨Dialect.renderIndexComment_eq h, d.createIndex_ne_empty i,
      Dialect.renderIndex_eq_createIndex_iff hkeyword⟩
  · intro hkeyword
    by_contra h
    obtain ⟨hsupports, -, hprimary⟩ := Dialect.renderIndexComment_ne_empty_iff.mp h
    exact hprimary (hkind hsupports hkeyword)

/-- In PostgreSQL an index of a kind that it does not know is created and commented, and a primary
key is not commented. -/
theorem commented_index_is_created_unless_json_postgresql :
    let index (kind : String) : Index := {
      table := "docs", name := "docs_title", kind, comment := some "it's"
      columns := [{ table := "docs", name := "title", type := "string" }] }
    let d := Dialect.postgresql
    d.renderIndexComment (index "hash") ≠ "" ∧
    d.renderIndex (index "hash") = d.createIndex (index "hash") ∧
    d.renderIndexComment (index "primary") = "" := by
  intro index d
  have hd : d ∈ [Dialect.postgresql, Dialect.sqlite, Dialect.custom] := by simp [d]
  obtain ⟨hhash, hcreated, -, -⟩ := commented_index_is_created_unless_json d hd (index "hash")
  obtain ⟨-, -, hprimary, -⟩ := commented_index_is_created_unless_json d hd (index "primary")
  have hcomment : d.renderIndexComment (index "hash") ≠ "" :=
    hhash.mpr ⟨rfl, by decide, by decide⟩
  exact ⟨hcomment, (hcreated hcomment).2.2.mpr rfl, hprimary rfl⟩

/-- PostgreSQL comments an index over a JSON column that it does not create. -/
theorem json_index_is_commented_only :
    let i : Index := {
      table := "docs", name := "body_idx", kind := "index", comment := some "c"
      columns := [{ table := "docs", name := "body", type := "json" }] }
    Dialect.postgresql.renderIndex i = "" ∧
    Dialect.postgresql.renderIndexComment i =
      "COMMENT ON INDEX \x22body_idx\x22 IS \x27c\x27;" := by
  decide

end SqlCompose
