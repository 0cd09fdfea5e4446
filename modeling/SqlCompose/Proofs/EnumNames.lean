import SqlCompose.Proofs.OperatorSpellings
import SqlCompose.Proofs.TypeSizes

/-!
# Names of enumerated types

The name of an enumerated type is made of the lower case of its options with a separator between
them. Nothing in an option is escaped, so lists of options are told apart by their names only as far
as the separators can be found in them.
-/

namespace SqlCompose

namespace Text

/-! ## Lists with a separator of several characters -/

section Separator

variable {sep : List Char}

/-- A text that holds no separator, also not across its end, goes as far as the first one. -/
theorem prefix_of_append_separator {a b r s : List Char} (hb : ¬ sep <:+: b ++ sep.dropLast)
    (h : a ++ (sep ++ r) = b ++ (sep ++ s)) : b <+: a := by
  rcases List.append_eq_append_iff.mp h with ⟨t, rfl, ht⟩ | ⟨t, rfl, -⟩
  · cases t with
    | nil => simp
    | cons c t =>
      -- The separator after `a` lies within `b` and all but the last character of the next one.
      have hfirst : sep <+: c :: t ++ (sep ++ s) := by
        rw [← ht]
        exact List.prefix_append sep r
      have hshort : c :: t ++ sep.dropLast <+: c :: t ++ (sep ++ s) :=
        (List.prefix_append_right_inj _).mpr
          ((List.dropLast_prefix sep).trans (List.prefix_append sep s))
      have hlength : sep.length ≤ (c :: t ++ sep.dropLast).length := by
        simp only [List.length_append, List.length_cons, List.length_dropLast]
        omega
      have hlong := List.prefix_of_prefix_length_le hfirst hshort hlength
      refine absurd ?_ hb
      rw [List.append_assoc]
      exact hlong.isInfix.trans (List.suffix_append a _).isInfix
  · exact List.prefix_append b t

theorem append_separator_inj {a b r s : List Char} (ha : ¬ sep <:+: a ++ sep.dropLast)
    (hb : ¬ sep <:+: b ++ sep.dropLast) (h : a ++ (sep ++ r) = b ++ (sep ++ s)) :
    a = b ∧ r = s := by
  have hab := prefix_of_append_separator hb h
  have hba := prefix_of_append_separator ha h.symm
  obtain rfl : a = b := hba.eq_of_length_le hab.length_le
  exact ⟨rfl, List.append_cancel_left (List.append_cancel_left h)⟩

/-- The texts of a list are found again between its separators: none holds a separator, and none
but the last makes one with the beginning of the next. -/
def Splits (sep : List Char) : List (List Char) → Prop
  | [] => False
  | [a] => ¬ sep <:+: a
  | a :: b :: as => ¬ sep <:+: a ++ sep.dropLast ∧ Splits sep (b :: as)

instance decidableSplits (sep : List Char) : (as : List (List Char)) → Decidable (Splits sep as)
  | [] => inferInstanceAs (Decidable False)
  | [a] => inferInstanceAs (Decidable (¬ sep <:+: a))
  | a :: b :: as =>
    have := decidableSplits sep (b :: as)
    inferInstanceAs (Decidable (¬ sep <:+: a ++ sep.dropLast ∧ Splits sep (b :: as)))

theorem Splits.ne_nil {as : List (List Char)} (h : Splits sep as) : as ≠ [] := by
  rintro rfl
  exact h

theorem Splits.intercalate_inj {as bs : List (List Char)} (ha : Splits sep as)
    (hb : Splits sep bs) (h : sep.intercalate as = sep.intercalate bs) : as = bs := by
  induction as generalizing bs with
  | nil => exact absurd rfl ha.ne_nil
  | cons a as ih =>
    obtain ⟨b, bs, rfl⟩ := List.exists_cons_of_ne_nil hb.ne_nil
    cases as with
    | nil =>
      cases bs with
      | nil => simpa using h
      | cons b' bs =>
        rw [List.intercalate_singleton, List.intercalate_cons_cons] at h
        refine absurd ?_ ha
        rw [h]
        exact List.infix_append b sep _
    | cons a' as =>
      cases bs with
      | nil =>
        rw [List.intercalate_singleton, List.intercalate_cons_cons] at h
        refine absurd ?_ hb
        rw [← h]
        exact List.infix_append a sep _
      | cons b' bs =>
        rw [List.intercalate_cons_cons, List.intercalate_cons_cons, List.append_assoc,
          List.append_assoc] at h
        obtain ⟨rfl, hrest⟩ := append_separator_inj ha.1 hb.1 h
        rw [ih ha.2 hb.2 hrest]

end Separator

/-! ## Lower case around an underscore -/

theorem reachesCased_cons (c : Char) (cs : List Char) :
    reachesCased (c :: cs) =
      if inRuns CaseTable.ignorable c then reachesCased cs else inRuns CaseTable.cased c := by
  unfold reachesCased
  rw [List.dropWhile_cons]
  by_cases h : inRuns CaseTable.ignorable c
  · rw [if_pos h, if_pos h]
  · rw [if_neg h, if_neg h]

theorem reachesCased_underscore (cs : List Char) : reachesCased ('_' :: cs) = false := by
  have hignorable : inRuns CaseTable.ignorable '_' = false := by decide +kernel
  have hcased : inRuns CaseTable.cased '_' = false := by decide +kernel
  rw [reachesCased_cons, hignorable, hcased]
  rfl

/-- Nothing is seen across an underscore. -/
theorem reachesCased_append_underscore (cs t : List Char) :
    reachesCased (cs ++ '_' :: t) = reachesCased cs := by
  induction cs with
  | nil => exact reachesCased_underscore t
  | cons c cs ih => rw [List.cons_append, reachesCased_cons, reachesCased_cons, ih]

/-- All that matters of what comes before is whether it ends in a cased character. -/
theorem lowerAfter_congr {before before' : List Char}
    (h : reachesCased before = reachesCased before') (cs : List Char) :
    lowerAfter before cs = lowerAfter before' cs := by
  induction cs generalizing before before' with
  | nil => rfl
  | cons c cs ih =>
    have hnext : reachesCased (c :: before) = reachesCased (c :: before') := by
      rw [reachesCased_cons, reachesCased_cons, h]
    simp only [lowerAfter, h, ih hnext]

theorem lowerAfter_append_underscore (before cs t : List Char) :
    lowerAfter before (cs ++ '_' :: t) = lowerAfter before cs ++ '_' :: lowerAfter [] t := by
  induction cs generalizing before with
  | nil =>
    have hrest : lowerAfter ('_' :: before) t = lowerAfter [] t :=
      lowerAfter_congr (reachesCased_underscore before) t
    rw [List.nil_append, lowerAfter_ascii_cons (by decide), hrest]
    rfl
  | cons c cs ih =>
    rw [List.cons_append]
    simp only [lowerAfter, reachesCased_append_underscore, ih, List.append_assoc]

theorem lowerAfter_append_enumSeparator (before cs t : List Char) :
    lowerAfter before (cs ++ enumSeparator.toList ++ t) =
      lowerAfter before cs ++ enumSeparator.toList ++ lowerAfter [] t := by
  have hsep : enumSeparator.toList = '_' :: ("eopt".toList ++ ['_']) := by decide
  have hword : lowerAfter [] "eopt".toList = "eopt".toList := by decide
  have hmiddle := lowerAfter_append_underscore [] "eopt".toList t
  rw [hword] at hmiddle
  simp only [hsep, List.append_assoc, List.cons_append, List.nil_append]
  rw [lowerAfter_append_underscore, hmiddle]

/-- Lower case is taken option by option. -/
theorem lowerAfter_intercalate (css : List (List Char)) :
    lowerAfter [] (enumSeparator.toList.intercalate css) =
      enumSeparator.toList.intercalate (css.map (lowerAfter [])) := by
  induction css with
  | nil => rfl
  | cons cs css ih =>
    cases css with
    | nil => simp
    | cons cs' css =>
      rw [List.intercalate_cons_cons, lowerAfter_append_enumSeparator, ih]
      simp only [List.map_cons, List.intercalate_cons_cons]

end Text

open Text

/-! ## Options in a name -/

/-- The lower case of options, as a name holds it. -/
def loweredOptions (options : List String) : List (List Char) :=
  options.map fun option => (lower option).toList

/-- No option holds a separator, and none but the last makes one with the beginning of the next. -/
def Separable (options : List String) : Prop :=
  Splits enumSeparator.toList (loweredOptions options)

instance : DecidablePred Separable :=
  fun options => inferInstanceAs (Decidable (Splits enumSeparator.toList (loweredOptions options)))

theorem toList_lower_intercalate (options : List String) :
    (lower (enumSeparator.intercalate options)).toList =
      enumSeparator.toList.intercalate (loweredOptions options) := by
  rw [toList_lower, String.toList_intercalate, lowerAfter_intercalate, List.map_map,
    loweredOptions]
  simp only [toList_lower]
  rfl

theorem enumTypeName_eq (options : List String) :
    enumTypeName options = "enum__" ++ lower (enumSeparator.intercalate options) := by
  have hprefix : "enum__".toList = "enum_".toList ++ ['_'] := by decide
  have hword : lowerAfter [] "enum_".toList = "enum_".toList := by decide
  rw [← String.toList_inj, enumTypeName, String.toList_append, toList_lower, toList_lower,
    String.toList_append, hprefix, List.append_assoc, List.singleton_append,
    lowerAfter_append_underscore, hword, List.append_assoc, List.singleton_append]

theorem enumTypeName_eq_iff {options options' : List String} :
    enumTypeName options = enumTypeName options' ↔
      lower (enumSeparator.intercalate options) = lower (enumSeparator.intercalate options') := by
  rw [enumTypeName_eq, enumTypeName_eq, String.append_right_inj]

theorem loweredOptions_eq_iff {options options' : List String} :
    loweredOptions options = loweredOptions options' ↔
      List.Forall₂ (fun option option' => lower option = lower option') options options' := by
  rw [loweredOptions, loweredOptions, ← List.forall₂_eq_eq_eq, List.forall₂_map_left_iff,
    List.forall₂_map_right_iff]
  simp only [String.toList_inj]

/-- Separable options are told apart by the name, up to case. -/
theorem Separable.enumTypeName_eq_iff {options options' : List String} (h : Separable options)
    (h' : Separable options') : enumTypeName options = enumTypeName options' ↔
      List.Forall₂ (fun option option' => lower option = lower option') options options' := by
  rw [SqlCompose.enumTypeName_eq_iff, ← String.toList_inj, toList_lower_intercalate,
    toList_lower_intercalate, ← loweredOptions_eq_iff]
  constructor
  · exact Splits.intercalate_inj h h'
  · intro heq
    rw [heq]

theorem enumTypeName_intercalate (options : List String) :
    enumTypeName [enumSeparator.intercalate options] = enumTypeName options := by
  rw [enumTypeName_eq_iff, String.intercalate_singleton]

/-- Columns with an enumerated type share it exactly if the lower case of their options, joined by
the separator, is the same. Options in which the separators are found again are then the same up to
case. Every list of options, however, shares its type with one of a single option. -/
theorem enum_types_are_shared_by_joined_options (d : Dialect)
    (hd : d ∈ [Dialect.postgresql, Dialect.sqlite, Dialect.custom]) (c c' : Column)
    (h : d.Enumerates c.type) (h' : d.Enumerates c'.type) :
    (d.resolveType c = d.resolveType c' ↔
      lower (enumSeparator.intercalate c.options) =
        lower (enumSeparator.intercalate c'.options)) ∧
    (Separable c.options → Separable c'.options →
      (d.resolveType c = d.resolveType c' ↔
        List.Forall₂ (fun option option' => lower option = lower option')
          c.options c'.options)) ∧
    d.resolveType (c.withOptions [enumSeparator.intercalate c.options]) = d.resolveType c := by
  have hsizes := Dialect.Sizes.of_mem hd
  have hjoined : d.Enumerates (c.withOptions [enumSeparator.intercalate c.options]).type := h
  rw [hsizes.resolveType_of_enumerates h, hsizes.resolveType_of_enumerates h',
    hsizes.resolveType_of_enumerates hjoined]
  exact ⟨enumTypeName_eq_iff, Separable.enumTypeName_eq_iff, enumTypeName_intercalate c.options⟩

/-- Two lists that differ in case share a type, and one with another option does not; the separator
is an option of neither. -/
theorem enum_types_are_shared_by_joined_options_postgresql :
    let d := Dialect.postgresql
    let state : Column := { table := "t", name := "state", type := "enum", options := ["new", "old"] }
    let capital : Column := state.withOptions ["New", "OLD"]
    let longer : Column := state.withOptions ["new", "old", ""]
    d.resolveType state = d.resolveType capital ∧ d.resolveType state ≠ d.resolveType longer ∧
    d.resolveType (state.withOptions ["new_eopt_old"]) = d.resolveType state := by
  intro d state capital longer
  have hd : d ∈ [Dialect.postgresql, Dialect.sqlite, Dialect.custom] := by simp [d]
  have hstate : d.Enumerates state.type := by decide
  obtain ⟨-, hcase, hjoined⟩ :=
    enum_types_are_shared_by_joined_options d hd state capital hstate hstate
  obtain ⟨-, hlonger, -⟩ := enum_types_are_shared_by_joined_options d hd state longer hstate hstate
  have hseparable : Separable state.options := by decide
  have hcapital : Separable capital.options := by decide
  have hlonger' : Separable longer.options := by decide
  refine ⟨(hcase hseparable hcapital).mpr ?_, ?_, ?_⟩
  · exact .cons (by decide) (.cons (by decide) .nil)
  · rw [ne_eq, hlonger hseparable hlonger']
    intro hall
    exact absurd hall.length_eq (by decide)
  · exact hjoined

/-- An option that holds the separator, one that ends with its beginning, and no option at all: in
each case two lists that differ in more than case share a type. -/
theorem enum_types_collide :
    let state (options : List String) : Column := { table := "t", name := "c", type := "enum", options }
    ∀ d ∈ [Dialect.postgresql, Dialect.custom],
      d.Enumerates "enum" ∧
      ∀ pair ∈ [(["a_eopt_b"], ["a", "b"]), (["a_eopt", "b"], ["a", "eopt_b"]), ([], [""])],
        d.resolveType (state pair.1) = d.resolveType (state pair.2) ∧
        ¬ List.Forall₂ (fun option option' => lower option = lower option') pair.1 pair.2 := by
  decide

end SqlCompose
