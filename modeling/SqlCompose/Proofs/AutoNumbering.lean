import SqlCompose.Proofs.Operators
import SqlCompose.Proofs.TypeSizes

/-!
# Automatically numbered columns

The definition of an automatically numbered column shows its name, the type that numbering
puts in the place of its semantic type, and its collation. The type is chosen by the text
of the SQL type with its size. No size can hide a type that is told apart there, and no
size or list of options can be taken for one, so the choice is made by the semantic type.
-/

namespace SqlCompose

open Text

namespace Column

/-- The collation that a definition shows; an empty one is none. -/
def shownCollation? (c : Column) : Option String :=
  c.collation.filter (!·.isEmpty)

/-- The clause of the collation, if there is one. -/
def collationWords (c : Column) : List String :=
  (c.shownCollation?.map ("COLLATE " ++ ·)).toList

end Column

namespace Text

theorem exists_digit_toString (n : Nat) : ∃ c ∈ (toString n).toList, c.isDigit := by
  have hne : (toString n).toList ≠ [] := by
    rw [Nat.toString_eq_repr, Nat.toList_repr]
    exact Nat.toDigits_ne_nil
  obtain ⟨c, cs, hcs⟩ := List.exists_cons_of_ne_nil hne
  have hc : c ∈ (toString n).toList := hcs ▸ List.mem_cons_self
  exact ⟨c, hc, isDigit_of_mem_toString n c hc⟩

theorem not_isUpper_of_isDigit {c : Char} (h : c.isDigit) : ¬ c.isUpper := by
  intro hupper
  have hhigh := (Char.isDigit_iff_toNat.mp h).2
  have hlow : 'A'.toNat ≤ c.toNat := (of_decide_eq_true hupper).1
  simp only [Char.reduceToNat] at hlow hhigh
  omega

end Text

namespace TypeTemplate

variable {t : TypeTemplate}

/-- Every size shows a digit. -/
theorem exists_digit_sized {size : TypeSize} (hfits : size.isFraction = t.hasSlot)
    (hsize : size ≠ .unsized) : ∃ c ∈ (t.sized size).toList, c.isDigit := by
  have hlist : ∀ n ns, ∃ c ∈ (t.toText ++ numberList (n :: ns)).toList, c.isDigit := by
    intro n ns
    obtain ⟨c, hc, hdigit⟩ := exists_digit_toString n
    have hnumbers : c ∈ (numberList (n :: ns)).toList := by
      rw [toList_numberList, intercalate_map_cons]
      exact List.mem_cons_of_mem _ (List.mem_append_left _ (List.mem_append_left _ hc))
    refine ⟨c, ?_, hdigit⟩
    rw [String.toList_append]
    exact List.mem_append_right _ hnumbers
  cases size with
  | unsized => exact absurd rfl hsize
  | length n => exact hlist n.toNat []
  | fixedPoint p s => exact hlist p.toNat [s.toNat]
  | fraction n =>
    obtain ⟨c, hc, hdigit⟩ := exists_digit_toString n.toNat
    exact ⟨c, mem_fillParts_of_slot (hasSlot_iff.mp hfits.symm) hc, hdigit⟩

end TypeTemplate

namespace Dialect

/-- A SQL type in capital letters that is written without a size, and only for semantic types that
are mapped to it. -/
structure Bare (d : Dialect) (type : String) : Prop where
  capitals : type.toList.all Char.isUpper
  ne_enumType : type ≠ enumType
  ne_defaultType : d.defaultType.toText ≠ type
  length : d.acceptsLength type = false
  fixedPoint : d.isFixedPoint type = false
  plain : ∀ t ∈ d.templates, t.toText = type → t = .plain type

variable {d : Dialect} {c : Column} {type : String}

theorem Bare.isUpper (h : d.Bare type) : ∀ c ∈ type.toList, c.isUpper :=
  List.all_eq_true.mp h.capitals

theorem Bare.enumTypeName_ne (h : d.Bare type) (options : List String) :
    enumTypeName options ≠ type := by
  intro heq
  have hmem : 'e' ∈ (enumTypeName options).toList := by
    rw [enumTypeName, toList_lower, String.toList_append]
    exact mem_lowerAfter (by simp) (by decide) (by decide)
  rw [heq] at hmem
  exact absurd (h.isUpper 'e' hmem) (by decide)

theorem Bare.typeSize_eq (h : d.Bare type) (hbase : (d.baseType c.type).toText = type) :
    d.typeSize c = .unsized := by
  have hfixed : d.fixedPointSize? c = none :=
    fixedPointSize?_eq_none (by rw [hbase, h.fixedPoint])
  have hslot : (d.baseType c.type).hasSlot = false := by
    refine TypeTemplate.hasSlot_eq_false ?_
    intro hbrace
    rw [hbase] at hbrace
    exact absurd (h.isUpper _ hbrace) (by decide)
  rw [typeSize_of_not_fixedPoint hfixed, hslot, if_neg Bool.false_ne_true, hbase, h.length]
  cases c.length <;> rfl

theorem Bare.toText_baseType_eq_iff (h : d.Bare type) {semantic : String} :
    (d.baseType semantic).toText = type ↔ d.mapType? semantic = some (.plain type) := by
  constructor
  · intro htext
    have hbase := h.plain _ (d.baseType_mem semantic) htext
    rw [baseType] at htext hbase
    cases hmap : d.mapType? semantic with
    | none =>
      rw [hmap] at htext
      exact absurd htext h.ne_defaultType
    | some t =>
      rw [hmap] at hbase
      exact congrArg some hbase
  · intro hmap
    rw [baseType, hmap]
    exact TypeTemplate.toText_plain type

/-- Whatever sizes and options a column has, its type is a bare one only if its semantic type is
mapped to it. -/
theorem Sizes.resolveType_eq_iff (hd : d.Sizes) (h : d.Bare type) :
    d.resolveType c = type ↔ d.mapType? c.type = some (.plain type) := by
  rw [← h.toText_baseType_eq_iff]
  by_cases henum : d.Enumerates c.type
  · rw [hd.resolveType_of_enumerates henum]
    refine iff_of_false (h.enumTypeName_ne _) ?_
    intro hbase
    exact h.ne_enumType (hbase.symm.trans henum)
  · rw [resolveType_eq_sized henum]
    by_cases hsize : d.typeSize c = .unsized
    · rw [hsize, TypeTemplate.sized_unsized]
    · refine iff_of_false ?_ fun hbase => hsize (h.typeSize_eq hbase)
      intro heq
      obtain ⟨c, hc, hdigit⟩ := TypeTemplate.exists_digit_sized (hd.isFraction_typeSize c) hsize
      exact not_isUpper_of_isDigit hdigit (h.isUpper c (heq ▸ hc))

/-- The storage type of a numbered column in PostgreSQL. -/
def serialType (semantic : String) : String :=
  if postgresql.mapType? semantic = some (.plain "BIGINT") then "BIGSERIAL"
  else if postgresql.mapType? semantic = some (.plain "SMALLINT") then "SMALLSERIAL"
  else "SERIAL"

/-- Numbering finds the type of a column behind its size. -/
theorem autoIncrementType_postgresql (c : Column) :
    postgresql.autoIncrementType (postgresql.resolveType c) = serialType c.type := by
  have hsizes : postgresql.Sizes := .of_mem (by simp)
  have hbig : postgresql.Bare "BIGINT" :=
    ⟨by decide, by decide, by decide, by decide, by decide, by decide⟩
  have hsmall : postgresql.Bare "SMALLINT" :=
    ⟨by decide, by decide, by decide, by decide, by decide, by decide⟩
  simp only [serialType, ← hsizes.resolveType_eq_iff hbig, ← hsizes.resolveType_eq_iff hsmall]
  rfl

theorem serialType_ne_empty (semantic : String) : serialType semantic ≠ "" := by
  unfold serialType
  split
  · decide
  · split <;> decide

theorem filter_collationClause (c : Column) :
    [collationClause c].filter (!·.isEmpty) = c.collationWords := by
  unfold collationClause Column.collationWords Column.shownCollation?
  cases c.collation with
  | none => rfl
  | some collation =>
    by_cases hempty : collation = ""
    · simp [hempty, Option.filter]
    · simp [hempty, Option.filter]

/-- What the definition of an automatically numbered column shows. -/
theorem renderColumn_of_isAutoIncrement {storage : String} (h : c.isAutoIncrement = true)
    (hstorage : d.autoIncrementType (d.resolveType c) = storage) (hne : storage ≠ "") :
    d.renderColumn c = " ".intercalate ([d.quoteIdentifier c.name, storage] ++
      [d.autoIncrementKeyword].filter (!·.isEmpty) ++ c.collationWords) := by
  have hname : d.quoteIdentifier c.name ≠ "" := quoted_ne_empty _ _
  have hparts : d.quoteIdentifier c.name :: d.columnParts c =
      [d.quoteIdentifier c.name, storage] ++ [d.autoIncrementKeyword] ++ [collationClause c] := by
    simp [columnParts, h, hstorage]
  have hshown : [d.quoteIdentifier c.name, storage].filter (!·.isEmpty) =
      [d.quoteIdentifier c.name, storage] := by
    simp [hname, hne]
  rw [renderColumn, hparts, List.filter_append, List.filter_append, hshown, filter_collationClause]

theorem renderColumn_postgresql (h : c.isAutoIncrement = true) :
    postgresql.renderColumn c = " ".intercalate
      ([postgresql.quoteIdentifier c.name, serialType c.type] ++ c.collationWords) :=
  renderColumn_of_isAutoIncrement h (autoIncrementType_postgresql c) (serialType_ne_empty c.type)

theorem renderColumn_sqlite (h : c.isAutoIncrement = true) :
    sqlite.renderColumn c = " ".intercalate
      ([sqlite.quoteIdentifier c.name, "INTEGER", "PRIMARY KEY AUTOINCREMENT"] ++
        c.collationWords) :=
  renderColumn_of_isAutoIncrement h rfl (by decide)

end Dialect

/-- The definition of an automatically numbered column shows its name, a storage type chosen by its
semantic type, the keyword of the dialect and its collation, so columns with the same name, semantic
type and shown collation have the same definition, whatever else is set on them. -/
theorem numbered_columns_show_name_type_collation :
    (∀ c : Column, c.isAutoIncrement = true →
      Dialect.postgresql.renderColumn c = " ".intercalate
        ([Dialect.postgresql.quoteIdentifier c.name, Dialect.serialType c.type] ++
          c.collationWords)) ∧
    (∀ c : Column, c.isAutoIncrement = true →
      Dialect.sqlite.renderColumn c = " ".intercalate
        ([Dialect.sqlite.quoteIdentifier c.name, "INTEGER", "PRIMARY KEY AUTOINCREMENT"] ++
          c.collationWords)) ∧
    (∀ d ∈ [Dialect.postgresql, Dialect.sqlite], ∀ c c' : Column,
      c.isAutoIncrement = true → c'.isAutoIncrement = true → c.name = c'.name →
      c.type = c'.type → c.shownCollation? = c'.shownCollation? →
      d.renderColumn c = d.renderColumn c') ∧
    ∀ semantic : String,
      (Dialect.serialType semantic = "BIGSERIAL" ↔
        Dialect.postgresql.mapType? semantic = some (.plain "BIGINT")) ∧
      (Dialect.serialType semantic = "SMALLSERIAL" ↔
        Dialect.postgresql.mapType? semantic = some (.plain "SMALLINT")) ∧
      (Dialect.serialType semantic = "SERIAL" ↔
        Dialect.postgresql.mapType? semantic ≠ some (.plain "BIGINT") ∧
        Dialect.postgresql.mapType? semantic ≠ some (.plain "SMALLINT")) := by
  refine ⟨fun c h => Dialect.renderColumn_postgresql h, fun c h => Dialect.renderColumn_sqlite h,
    ?_, ?_⟩
  · intro d hd c c' h h' hname htype hcollation
    have hwords : c.collationWords = c'.collationWords := by
      rw [Column.collationWords, Column.collationWords, hcollation]
    simp only [List.mem_cons, List.not_mem_nil, or_false] at hd
    rcases hd with rfl | rfl
    · rw [Dialect.renderColumn_postgresql h, Dialect.renderColumn_postgresql h', hname, htype,
        hwords]
    · rw [Dialect.renderColumn_sqlite h, Dialect.renderColumn_sqlite h', hname, hwords]
  · intro semantic
    unfold Dialect.serialType
    by_cases hbig : Dialect.postgresql.mapType? semantic = some (.plain "BIGINT")
    · rw [if_pos hbig, hbig]
      decide
    · rw [if_neg hbig]
      by_cases hsmall : Dialect.postgresql.mapType? semantic = some (.plain "SMALLINT")
      · rw [if_pos hsmall, hsmall]
        decide
      · rw [if_neg hsmall]
        simp [hbig, hsmall]

/-- A length, a default, an empty collation and other fields leave the definition as it is, and a
type that no dialect knows is numbered too. -/
theorem numbered_columns_show_name_type_collation_bigserial :
    let d := Dialect.postgresql
    let id : Column := { table := "t", name := "id", type := "big_integer", marker := some "x" }
    let other : Column := { id with
      table := "u", nullable := true, defaultValue := some (.integer 1), length := some 20,
      precision := some 4, scale := some 2, collation := some "", marker := some "y",
      options := ["a"] }
    d.renderColumn other = d.renderColumn id ∧
    d.renderColumn id = "\x22id\x22 BIGSERIAL" ∧
    d.renderColumn { id with type := "money" } = "\x22id\x22 SERIAL" ∧
    Dialect.sqlite.renderColumn { id with collation := some "NOCASE" } =
      "\x22id\x22 INTEGER PRIMARY KEY AUTOINCREMENT COLLATE NOCASE" := by
  intro d id other
  obtain ⟨hpostgresql, hsqlite, hsame, -⟩ := numbered_columns_show_name_type_collation
  have hd : d ∈ [Dialect.postgresql, Dialect.sqlite] := by simp [d]
  refine ⟨hsame d hd other id rfl rfl rfl rfl rfl, ?_, ?_, ?_⟩
  · rw [hpostgresql id rfl]
    decide
  · rw [hpostgresql { id with type := "money" } rfl]
    decide
  · rw [hsqlite { id with collation := some "NOCASE" } rfl]
    decide

end SqlCompose
