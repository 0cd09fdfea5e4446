import SqlCompose.Dialect.Custom
import SqlCompose.Dialect.Postgresql
import SqlCompose.Dialect.Sqlite
import SqlCompose.Proofs.Separation
import SqlCompose.Schema.Render

/-!
# Sizes of column types

A column has fields for several sizes, and its SQL type shows at most one: a precision
with a scale, the precision of fractional seconds, or a length. The type decides which of
them applies. The other fields leave no trace in the text, and two sizes that apply are
never written alike.
-/

namespace SqlCompose

open Text

/-- What the SQL type of a column shows beside its name. -/
inductive TypeSize where
  | unsized
  | length (n : UInt32)
  | fixedPoint (precision scale : UInt32)
  | fraction (digits : UInt32)
deriving DecidableEq

namespace TypeSize

def isFraction : TypeSize → Bool
  | .fraction _ => true
  | _ => false

/-- The numbers that follow the type; those of fractional seconds stand inside it. -/
def numbers : TypeSize → List Nat
  | .length n => [n.toNat]
  | .fixedPoint p s => [p.toNat, s.toNat]
  | .unsized | .fraction _ => []

theorem numbers_inj {a b : TypeSize} (ha : a.isFraction = false) (hb : b.isFraction = false)
    (h : a.numbers = b.numbers) : a = b := by
  cases a <;> cases b <;> simp_all [isFraction, numbers, UInt32.toNat_inj]

end TypeSize

/-! ## Numbers after a type -/

/-- Numbers in parentheses, or nothing. -/
def numberList : List Nat → String
  | [] => ""
  | n :: ns => "(" ++ ",".intercalate ((n :: ns).map toString) ++ ")"

theorem toList_numberList (n : Nat) (ns : List Nat) :
    (numberList (n :: ns)).toList = '(' :: ([','].intercalate
      ((n :: ns).map fun n => (toString n).toList) ++ [')']) := by
  simp only [numberList, String.toList_append, String.toList_intercalate, List.map_map]
  rfl

theorem numberList_inj {ms ns : List Nat} (h : numberList ms = numberList ns) : ms = ns := by
  rw [← String.toList_inj] at h
  cases ms with
  | nil =>
    cases ns with
    | nil => rfl
    | cons n ns =>
      rw [toList_numberList] at h
      cases h
  | cons m ms =>
    cases ns with
    | nil =>
      rw [toList_numberList] at h
      cases h
    | cons n ns =>
      rw [toList_numberList, toList_numberList, List.cons.injEq] at h
      have hclose : Begins (¬ ·.isDigit) [')'] := by simp
      exact (intercalate_append_inj (fun _ _ => toString_append_inj) (by simp)
        (List.cons_ne_nil m ms) (List.cons_ne_nil n ns) (fun _ _ => trivial) (fun _ _ => trivial)
        hclose hclose (by decide) (by decide) h.2).1

/-- Only digits and punctuation are written. -/
theorem mem_numberList {c : Char} {ns : List Nat} (h : c ∈ (numberList ns).toList) :
    c.isDigit ∨ c ∈ ['(', ',', ')'] := by
  cases ns with
  | nil => cases h
  | cons n ns =>
    rw [toList_numberList, intercalate_map_cons] at h
    simp only [List.mem_cons, List.mem_append, List.mem_flatMap, List.not_mem_nil, or_false,
      List.cons_append, List.nil_append] at h
    rcases h with rfl | (hc | ⟨k, -, rfl | hc⟩) | rfl
    · exact .inr (by simp)
    · exact .inl (isDigit_of_mem_toString n c hc)
    · exact .inr (by simp)
    · exact .inl (isDigit_of_mem_toString k c hc)
    · exact .inr (by simp)

/-! ## Templates -/

namespace TypeTemplate

/-- The length of a filled template grows with the text as often as there are slots. -/
theorem length_fillParts (value : String) (parts : List TypePart) :
    (fillParts value parts).length =
      (fillParts "" parts).length + parts.count .precision * value.length := by
  induction parts with
  | nil => simp [fillParts]
  | cons part parts ih =>
    cases part with
    | text s =>
      simp only [fillParts, String.length_append, ih]
      rw [List.count_cons_of_ne (by simp)]
      omega
    | precision =>
      simp only [fillParts, String.length_append, ih, List.count_cons_self, String.length_empty]
      rw [Nat.add_mul]
      omega

/-- A template with a slot is filled alike only by the same text. -/
theorem fillParts_inj {v w : String} {parts : List TypePart} (hslot : .precision ∈ parts)
    (h : fillParts v parts = fillParts w parts) : v = w := by
  have hlength : v.length = w.length := by
    have hsame := congrArg String.length h
    rw [length_fillParts v, length_fillParts w] at hsame
    exact Nat.eq_of_mul_eq_mul_left (List.count_pos_iff.mpr hslot) (Nat.add_left_cancel hsame)
  induction parts with
  | nil => cases hslot
  | cons part parts ih =>
    cases part with
    | text s =>
      rw [fillParts, fillParts, String.append_right_inj] at h
      exact ih (List.mem_of_ne_of_mem (by simp) hslot) h
    | precision =>
      rw [fillParts, fillParts, ← String.toList_inj, String.toList_append,
        String.toList_append] at h
      exact String.toList_inj.mp (List.append_inj_left h hlength)

theorem fillParts_of_not_mem {parts : List TypePart} (hslot : .precision ∉ parts) (v w : String) :
    fillParts v parts = fillParts w parts := by
  induction parts with
  | nil => rfl
  | cons part parts ih =>
    rw [List.mem_cons, not_or] at hslot
    cases part with
    | text s => rw [fillParts, fillParts, ih hslot.2]
    | precision => exact absurd rfl hslot.1

/-- Every character of a filled template is of the text or of the template. -/
theorem mem_fillParts {c : Char} {value : String} {parts : List TypePart}
    (h : c ∈ (fillParts value parts).toList) :
    c ∈ value.toList ∨ c ∈ (fillParts "" parts).toList := by
  induction parts with
  | nil => cases h
  | cons part parts ih =>
    cases part with
    | text s =>
      rw [fillParts, String.toList_append, List.mem_append] at h ⊢
      rcases h with h | h
      · exact .inr (.inl h)
      · exact (ih h).imp_right .inr
    | precision =>
      rw [fillParts, String.toList_append, List.mem_append] at h
      rcases h with h | h
      · exact .inl h
      · simpa [fillParts] using ih h

/-- A slot shows the text that is put into it. -/
theorem mem_fillParts_of_slot {c : Char} {value : String} {parts : List TypePart}
    (hslot : .precision ∈ parts) (hc : c ∈ value.toList) : c ∈ (fillParts value parts).toList := by
  induction parts with
  | nil => cases hslot
  | cons part parts ih =>
    cases part with
    | text s =>
      rw [fillParts, String.toList_append, List.mem_append]
      exact .inr (ih (List.mem_of_ne_of_mem (by simp) hslot))
    | precision =>
      rw [fillParts, String.toList_append, List.mem_append]
      exact .inl hc

variable {t : TypeTemplate}

theorem hasSlot_iff : t.hasSlot = true ↔ .precision ∈ t.parts := by
  simp [hasSlot]

/-- The fixed texts of a template. -/
def fixedText (t : TypeTemplate) : String :=
  fillParts "" t.parts

theorem toText_of_not_hasSlot (h : t.hasSlot = false) : t.toText = t.fixedText := by
  apply fillParts_of_not_mem
  intro hslot
  rw [hasSlot_iff.mpr hslot] at h
  cases h

theorem brace_mem_toText (h : t.hasSlot = true) : '\x7b' ∈ t.toText.toList :=
  mem_fillParts_of_slot (hasSlot_iff.mp h) (by decide)

theorem hasSlot_eq_false (h : '\x7b' ∉ t.toText.toList) : t.hasSlot = false := by
  by_contra hslot
  exact h (brace_mem_toText (Bool.eq_true_of_not_eq_false hslot))

theorem fill_inj {m n : UInt32} (hslot : t.hasSlot = true) (h : t.fill m.toNat = t.fill n.toNat) :
    m = n := by
  have htext := congrArg String.toList (fillParts_inj (hasSlot_iff.mp hslot) h)
  have hnumber := toString_append_inj (begins_nil _) (begins_nil _)
    ((List.append_nil _).trans (htext.trans (List.append_nil _).symm))
  exact UInt32.toNat_inj.mp hnumber.1

/-- A type with a size. -/
def sized (t : TypeTemplate) : TypeSize → String
  | .fraction digits => t.fill digits.toNat
  | size => t.toText ++ numberList size.numbers

theorem sized_of_not_isFraction {size : TypeSize} (h : size.isFraction = false) :
    t.sized size = t.toText ++ numberList size.numbers := by
  cases size with
  | fraction => cases h
  | _ => rfl

theorem sized_unsized : t.sized .unsized = t.toText := by
  simp [sized, TypeSize.numbers, numberList]

theorem sized_length (n : UInt32) : t.sized (.length n) = t.toText ++ "(" ++ toString n ++ ")" := by
  simp only [sized, TypeSize.numbers, numberList, List.map_cons, List.map_nil,
    String.intercalate_singleton, String.append_assoc]
  rfl

theorem sized_fixedPoint (p s : UInt32) :
    t.sized (.fixedPoint p s) = t.toText ++ "(" ++ toString p ++ "," ++ toString s ++ ")" := by
  simp only [sized, TypeSize.numbers, numberList, List.map_cons, List.map_nil,
    String.intercalate_cons_cons, String.intercalate_singleton, String.append_assoc]
  rfl

/-- Sizes that go with the same type are told apart by the text. -/
theorem sized_inj {a b : TypeSize} (ha : a.isFraction = t.hasSlot) (hb : b.isFraction = t.hasSlot)
    (h : t.sized a = t.sized b) : a = b := by
  cases hslot : t.hasSlot with
  | false =>
    rw [hslot] at ha hb
    rw [sized_of_not_isFraction ha, sized_of_not_isFraction hb, String.append_right_inj] at h
    exact TypeSize.numbers_inj ha hb (numberList_inj h)
  | true =>
    rw [hslot] at ha hb
    cases a with
    | fraction m =>
      cases b with
      | fraction n => rw [fill_inj hslot h]
      | _ => cases hb
    | _ => cases ha

/-- A type with a size holds no characters but those of the type, digits and punctuation. -/
theorem mem_sized {c : Char} {size : TypeSize} (hsize : size.isFraction = t.hasSlot)
    (h : c ∈ (t.sized size).toList) :
    c ∈ t.fixedText.toList ∨ c.isDigit ∨ c ∈ ['(', ',', ')'] := by
  cases hslot : t.hasSlot with
  | false =>
    rw [hslot] at hsize
    rw [sized_of_not_isFraction hsize, toText_of_not_hasSlot hslot, String.toList_append,
      List.mem_append] at h
    exact h.imp_right mem_numberList
  | true =>
    rw [hslot] at hsize
    cases size with
    | fraction digits =>
      rcases mem_fillParts h with h | h
      · exact .inr (.inl (isDigit_of_mem_toString _ c h))
      · exact .inl h
    | _ => cases hsize

end TypeTemplate

/-! ## Columns -/

namespace Dialect

/-- Columns of a semantic type have an enumerated type. -/
def Enumerates (d : Dialect) (semantic : String) : Prop :=
  (d.baseType semantic).toText = enumType

instance (d : Dialect) : DecidablePred d.Enumerates :=
  fun _ => inferInstanceAs (Decidable (_ = _))

/-- The size that applies to a column, by its own fields and the tables of the dialect. A type that
takes precision and scale has both of them if both are given. Else a type with a slot has the
precision of fractional seconds, zero if there is none. Any other type has the length, if there is
one and the type accepts it. -/
def typeSize (d : Dialect) (c : Column) : TypeSize :=
  let base := (d.types.lookup c.type).getD d.defaultType
  match c.precision, c.scale, d.isFixedPoint base.toText with
  | some p, some s, true => .fixedPoint p s
  | _, _, _ =>
    if .precision ∈ base.parts then .fraction (c.datetimePrecision.getD 0)
    else
      match c.length, d.acceptsLength base.toText with
      | some n, true => .length n
      | _, _ => .unsized

/-- The templates of a dialect. -/
def templates (d : Dialect) : List TypeTemplate :=
  d.defaultType :: d.types.map (·.2)

/-- Types with slots and enumerated types have no precision and scale, and no fixed text holds the
brace of a slot. -/
structure Sizes (d : Dialect) : Prop where
  fixedPoint : ∀ t ∈ d.templates, t.hasSlot = true → d.isFixedPoint t.toText = false
  enumerated : d.isFixedPoint enumType = false
  brace : ∀ t ∈ d.templates, '\x7b' ∉ t.fixedText.toList

variable {d : Dialect} {c : Column}

theorem Sizes.of_mem (hd : d ∈ [postgresql, sqlite, custom]) : d.Sizes := by
  simp only [List.mem_cons, List.not_mem_nil, or_false] at hd
  rcases hd with rfl | rfl | rfl <;> exact ⟨by decide, by decide, by decide⟩

theorem baseType_mem (d : Dialect) (semantic : String) : d.baseType semantic ∈ d.templates := by
  rw [baseType, mapType?, templates]
  cases h : d.types.lookup semantic with
  | none => exact List.mem_cons_self
  | some t =>
    obtain ⟨before, after, heq, -⟩ := List.lookup_eq_some_iff.mp h
    rw [heq]
    simp

/-- Precision and scale are written if both are given and the type takes them. -/
theorem fixedPointSize?_eq_some_iff {p s : UInt32} :
    d.fixedPointSize? c = some (p, s) ↔
      c.precision = some p ∧ c.scale = some s ∧
        d.isFixedPoint (d.baseType c.type).toText = true := by
  unfold fixedPointSize?
  cases c.precision with
  | none => simp
  | some p' =>
    cases c.scale with
    | none => simp
    | some s' =>
      simp only [Option.ite_none_right_eq_some, Option.some.injEq, Prod.mk.injEq]
      exact and_rotate

theorem fixedPointSize?_eq_none (h : d.isFixedPoint (d.baseType c.type).toText = false) :
    d.fixedPointSize? c = none := by
  rw [Option.eq_none_iff_forall_ne_some]
  rintro ⟨p, s⟩ hsize
  rw [(fixedPointSize?_eq_some_iff.mp hsize).2.2] at h
  cases h

theorem typeSize_of_fixedPoint {p s : UInt32} (h : d.fixedPointSize? c = some (p, s)) :
    d.typeSize c = .fixedPoint p s := by
  obtain ⟨hp, hs, hfixed⟩ := fixedPointSize?_eq_some_iff.mp h
  rw [baseType, mapType?] at hfixed
  simp only [typeSize, hp, hs, hfixed]

theorem typeSize_of_not_fixedPoint (h : d.fixedPointSize? c = none) :
    d.typeSize c =
      if (d.baseType c.type).hasSlot then .fraction (c.datetimePrecision.getD 0)
      else
        match c.length, d.acceptsLength (d.baseType c.type).toText with
        | some n, true => .length n
        | _, _ => .unsized := by
  simp only [typeSize]
  split
  · next p s hp hs hfixed =>
    have hsome := fixedPointSize?_eq_some_iff.mpr ⟨hp, hs, hfixed⟩
    rw [h] at hsome
    cases hsome
  · simp only [TypeTemplate.hasSlot_iff]
    rfl

theorem Sizes.isFraction_typeSize (hd : d.Sizes) (c : Column) :
    (d.typeSize c).isFraction = (d.baseType c.type).hasSlot := by
  have hfixed := hd.fixedPoint _ (d.baseType_mem c.type)
  cases hsize : d.fixedPointSize? c with
  | some size =>
    have hslot : (d.baseType c.type).hasSlot = false := by
      by_contra hslot
      rw [fixedPointSize?_eq_none (hfixed (Bool.eq_true_of_not_eq_false hslot))] at hsize
      cases hsize
    rw [typeSize_of_fixedPoint hsize, hslot]
    rfl
  | none =>
    rw [typeSize_of_not_fixedPoint hsize]
    cases (d.baseType c.type).hasSlot with
    | true => rfl
    | false =>
      rw [if_neg Bool.false_ne_true]
      split <;> rfl

/-- A type that is not enumerated is written with its size. -/
theorem resolveType_eq_sized (h : ¬ d.Enumerates c.type) :
    d.resolveType c = (d.baseType c.type).sized (d.typeSize c) := by
  rw [Enumerates] at h
  cases hfixed : d.fixedPointSize? c with
  | some size =>
    rw [typeSize_of_fixedPoint hfixed, TypeTemplate.sized_fixedPoint]
    simp only [resolveType, hfixed]
  | none =>
    rw [typeSize_of_not_fixedPoint hfixed]
    cases hslot : (d.baseType c.type).hasSlot with
    | true =>
      simp only [resolveType, hfixed, hslot, if_true]
      rfl
    | false =>
      simp only [resolveType, hfixed, hslot, h, Bool.false_eq_true, if_false]
      cases c.length with
      | none => rw [TypeTemplate.sized_unsized]
      | some n =>
        cases d.acceptsLength (d.baseType c.type).toText with
        | true => exact (TypeTemplate.sized_length n).symm
        | false => exact TypeTemplate.sized_unsized.symm

theorem Sizes.resolveType_of_enumerates (hd : d.Sizes) (h : d.Enumerates c.type) :
    d.resolveType c = enumTypeName c.options := by
  rw [Enumerates] at h
  have hfixed : d.fixedPointSize? c = none := fixedPointSize?_eq_none (by rw [h, hd.enumerated])
  have hslot : (d.baseType c.type).hasSlot = false :=
    TypeTemplate.hasSlot_eq_false (by rw [h]; decide)
  simp only [resolveType, hfixed, hslot, h, Bool.false_eq_true, if_false, if_true]

/-- No size brings a brace into a type. -/
theorem Sizes.brace_not_mem (hd : d.Sizes) (h : ¬ d.Enumerates c.type) :
    '\x7b' ∉ (d.resolveType c).toList := by
  intro hmem
  rw [resolveType_eq_sized h] at hmem
  rcases TypeTemplate.mem_sized (hd.isFraction_typeSize c) hmem with hfixed | hdigit | hmark
  · exact hd.brace _ (d.baseType_mem c.type) hfixed
  · exact absurd hdigit (by decide)
  · exact absurd hmark (by decide)

end Dialect

/-- In every dialect two columns of the same semantic type, unless it is enumerated, have the same
SQL type exactly if the same size applies to both. The SQL type of an enumerated column is the name
made from its options. No other type is left with a slot. -/
theorem type_shows_exactly_its_size (d : Dialect)
    (hd : d ∈ [Dialect.postgresql, Dialect.sqlite, Dialect.custom]) :
    (∀ c c' : Column, c.type = c'.type → ¬ d.Enumerates c.type →
      (d.resolveType c = d.resolveType c' ↔ d.typeSize c = d.typeSize c')) ∧
    (∀ c : Column, d.Enumerates c.type → d.resolveType c = enumTypeName c.options) ∧
    ∀ c : Column, ¬ d.Enumerates c.type →
      ¬ TypeTemplate.slot.toList <:+: (d.resolveType c).toList := by
  have hsizes := Dialect.Sizes.of_mem hd
  refine ⟨?_, fun c h => hsizes.resolveType_of_enumerates h, ?_⟩
  · intro c c' htype h
    have h' : ¬ d.Enumerates c'.type := htype ▸ h
    have hfits := hsizes.isFraction_typeSize c
    have hfits' := hsizes.isFraction_typeSize c'
    rw [Dialect.resolveType_eq_sized h, Dialect.resolveType_eq_sized h', ← htype]
    rw [← htype] at hfits'
    constructor
    · exact TypeTemplate.sized_inj hfits hfits'
    · intro hsize
      rw [hsize]
  · intro c h hslot
    exact hsizes.brace_not_mem h (hslot.subset (by decide))

/-- Two pairs are two types in every dialect. In one a pair, a length and no size are three types, a
pair leaves no room for a length, and every slot of a type with two of them is filled, with zero if
there is no precision. -/
theorem type_shows_exactly_its_size_custom :
    let d := Dialect.custom
    let plain : Column := { table := "t", name := "price", type := "decimal" }
    let price : Column := { plain with precision := some 10, scale := some 2 }
    let small : Column := { plain with precision := some 5, scale := some 1 }
    let rounded : Column := { plain with precision := some 10, length := some 10 }
    let changed : Column := { table := "t", name := "changed", type := "timestamp" }
    let precise := changed.withDatetimePrecision 1
    (∀ d' ∈ [Dialect.postgresql, Dialect.sqlite, Dialect.custom],
      d'.resolveType small ≠ d'.resolveType price) ∧
    d.resolveType (price.withLength 5) = d.resolveType price ∧
    d.resolveType rounded ≠ d.resolveType price ∧
    d.resolveType plain ≠ d.resolveType price ∧
    d.resolveType plain ≠ d.resolveType rounded ∧
    d.resolveType (changed.withDatetimePrecision 0) = d.resolveType changed ∧
    d.resolveType precise ≠ d.resolveType changed ∧
    ¬ TypeTemplate.slot.toList <:+: (d.resolveType changed).toList := by
  intro d plain price small rounded changed precise
  have hd : d ∈ [Dialect.postgresql, Dialect.sqlite, Dialect.custom] := by simp [d]
  obtain ⟨hiff, -, hslot⟩ := type_shows_exactly_its_size d hd
  have hplain : ¬ d.Enumerates plain.type := by decide
  have hchanged : ¬ d.Enumerates changed.type := by decide
  refine ⟨?_, ?_, ?_, ?_, ?_, ?_, ?_, hslot changed hchanged⟩
  · intro d' hd'
    have hpairs : ¬ d'.Enumerates small.type ∧ d'.typeSize small ≠ d'.typeSize price := by
      simp only [List.mem_cons, List.not_mem_nil, or_false] at hd'
      rcases hd' with rfl | rfl | rfl <;> decide
    have hsame := (type_shows_exactly_its_size d' hd').1 small price rfl hpairs.1
    exact hsame.not.mpr hpairs.2
  · exact (hiff (price.withLength 5) price rfl hplain).mpr rfl
  · exact (hiff rounded price rfl hplain).not.mpr (by decide)
  · exact (hiff plain price rfl hplain).not.mpr (by decide)
  · exact (hiff plain rounded rfl hplain).not.mpr (by decide)
  · exact (hiff (changed.withDatetimePrecision 0) changed rfl hchanged).mpr rfl
  · exact (hiff precise changed rfl hchanged).not.mpr (by decide)

end SqlCompose
