import SqlCompose.Dialect.Custom
import SqlCompose.Dialect.Postgresql
import SqlCompose.Dialect.Sqlite
import SqlCompose.Proofs.Separation

/-!
# Operators in a statement

An operator is written as it was given, so it may differ from the listed one in
the case of its letters, and a letter outside ASCII may stand for one of them. It
still cannot contain a parenthesis or the first character of a placeholder, which
is where a reader sees it end, and it cannot be taken for a null check.
-/

namespace SqlCompose

namespace Text

/-- An ASCII character that is not a capital letter is kept. -/
theorem mem_lowerAfter {c : Char} {before cs : List Char} (hc : c ∈ cs) (hascii : c.toNat < 128)
    (hlower : c.toLower = c) : c ∈ lowerAfter before cs := by
  induction cs generalizing before with
  | nil => cases hc
  | cons c' cs ih =>
    rw [lowerAfter, List.mem_append]
    rcases List.mem_cons.mp hc with rfl | hc
    · have hsigma : c.toNat ≠ 0x3A3 := by omega
      simp [hsigma, lowerChar, hascii, hlower]
    · exact .inr (ih hc)

theorem lowerAfter_ascii_append {before cs : List Char} (hascii : ∀ c ∈ cs, c.toNat < 128)
    (t : List Char) :
    lowerAfter before (cs ++ t) = cs.map Char.toLower ++ lowerAfter (cs.reverse ++ before) t := by
  induction cs generalizing before with
  | nil => rfl
  | cons c cs ih =>
    obtain ⟨hc, hcs⟩ := List.forall_mem_cons.mp hascii
    have hsigma : c.toNat ≠ 0x3A3 := by omega
    simp [lowerAfter, lowerChar, hsigma, hc, ih hcs]

end Text

/-- The two null checks, as they follow a column. -/
def nullChecks : List (List Char) :=
  ["IS NULL".toList, "IS NOT NULL".toList]

/-- What a reader relies on to see where the parts of a statement end: `mark` is the first
character of every placeholder. -/
structure Dialect.Legible (d : Dialect) (mark : Char) : Prop where
  quote : d.quote ∉ ['*', '.', ',', ' ', '(', ')', 'S']
  placeholder : ∀ n, ∃ digits, (d.placeholder n).toList = mark :: digits
  mark_ne : mark ≠ '(' ∧ mark ≠ ' ' ∧ ∀ check ∈ nullChecks, mark ∉ check
  mark_lower : mark.toNat < 128 ∧ mark.toLower = mark
  operators : ∀ operator ∈ genericOperators ++ d.operators,
    mark ∉ operator.toList ∧ '(' ∉ operator.toList ∧
      ∀ check ∈ nullChecks, ¬ check.map Char.toLower <+: operator.toList

namespace Dialect.Legible

theorem postgresql : Dialect.postgresql.Legible '$' where
  quote := by decide
  placeholder n := ⟨(toString n).toList, by simp [Dialect.postgresql]⟩
  mark_ne := by decide
  mark_lower := by decide
  operators := by decide

theorem sqlite : Dialect.sqlite.Legible '?' where
  quote := by decide
  placeholder n := ⟨[], by simp [Dialect.sqlite]⟩
  mark_ne := by decide
  mark_lower := by decide
  operators := by decide

theorem custom : Dialect.custom.Legible ':' where
  quote := by decide
  placeholder n := ⟨'p' :: (toString n).toList, by simp [Dialect.custom]⟩
  mark_ne := by decide
  mark_lower := by decide
  operators := by decide

variable {d : Dialect} {mark : Char} (hd : d.Legible mark) {operator operator' : String}
include hd

theorem not_mem (ho : d.isOperator operator = true) :
    mark ∉ operator.toList ∧ '(' ∉ operator.toList := by
  have hlisted : Text.lower operator ∈ genericOperators ++ d.operators := by
    simpa [isOperator] using ho
  obtain ⟨hmark, hparen, -⟩ := hd.operators _ hlisted
  rw [Text.toList_lower] at hmark hparen
  constructor
  · intro h
    exact hmark (Text.mem_lowerAfter h hd.mark_lower.1 hd.mark_lower.2)
  · intro h
    exact hparen (Text.mem_lowerAfter h (by decide) (by decide))

theorem not_prefix {check : List Char} (hc : check ∈ nullChecks)
    (ho : d.isOperator operator = true) : ¬ check <+: operator.toList := by
  have hlisted : Text.lower operator ∈ genericOperators ++ d.operators := by
    simpa [isOperator] using ho
  have hascii : ∀ check ∈ nullChecks, ∀ c ∈ check, c.toNat < 128 := by simp [nullChecks]
  rintro ⟨t, ht⟩
  apply (hd.operators _ hlisted).2.2 check hc
  rw [Text.toList_lower, ← ht, Text.lowerAfter_ascii_append (hascii check hc)]
  exact List.prefix_append _ _

/-- What may stand to the right of an operator: a placeholder or a sub-select. -/
def StartsOperand (mark : Char) (r : List Char) : Prop :=
  ∃ t, r = mark :: t ∨ r = '(' :: t

theorem operator_append_inj {r s : List Char} (ho : d.isOperator operator = true)
    (ho' : d.isOperator operator' = true) (hr : StartsOperand mark r) (hs : StartsOperand mark s)
    (h : operator.toList ++ ' ' :: r = operator'.toList ++ ' ' :: s) :
    operator = operator' ∧ r = s := by
  have hrun : ∀ {o : String}, d.isOperator o = true →
      ∀ c ∈ o.toList ++ [' '], c ≠ mark ∧ c ≠ '(' := by
    intro o ho c hc
    obtain ⟨hmark, hparen⟩ := hd.not_mem ho
    rcases List.mem_append.mp hc with hc | hc
    · exact ⟨fun he => hmark (he ▸ hc), fun he => hparen (he ▸ hc)⟩
    · rw [List.mem_singleton.mp hc]
      exact ⟨hd.mark_ne.2.1.symm, by decide⟩
  have hstop : ∀ {t : List Char}, StartsOperand mark t →
      Text.Begins (fun c => ¬ (c ≠ mark ∧ c ≠ '(')) t := by
    rintro t ⟨u, rfl | rfl⟩
    · simp
    · simp
  have happend : (operator.toList ++ [' ']) ++ r = (operator'.toList ++ [' ']) ++ s := by
    simpa using h
  obtain ⟨htext, hrest⟩ :=
    Text.run_append_inj (hrun ho) (hrun ho') (hstop hr) (hstop hs) happend
  exact ⟨String.toList_inj.mp (List.append_cancel_right htext), hrest⟩

/-- An operator with its operand is never read as a null check. -/
theorem operator_ne_nullCheck {check r s : List Char} (hc : check ∈ nullChecks)
    (ho : d.isOperator operator = true) (hr : StartsOperand mark r) :
    operator.toList ++ ' ' :: r ≠ check ++ s := by
  intro h
  have hlast : ∀ check ∈ nullChecks, check.getLast? = some 'L' ∧ '(' ∉ check := by decide
  rcases List.append_eq_append_iff.mp h with ⟨t, ht, hrest⟩ | ⟨t, ht, hrest⟩
  · cases t with
    | nil =>
      rw [List.append_nil] at ht
      exact hd.not_prefix hc ho (by rw [ht])
    | cons c t =>
      rw [List.cons_append, List.cons.injEq] at hrest
      obtain ⟨rfl, hrest⟩ := hrest
      cases t with
      | nil =>
        have hend := (hlast check hc).1
        rw [ht, List.getLast?_concat] at hend
        cases hend
      | cons c t =>
        have hmem : c ∈ check := by rw [ht]; simp
        obtain ⟨u, rfl | rfl⟩ := hr
        · rw [List.cons_append, List.cons.injEq] at hrest
          exact hd.mark_ne.2.2 check hc (hrest.1 ▸ hmem)
        · rw [List.cons_append, List.cons.injEq] at hrest
          exact (hlast check hc).2 (hrest.1 ▸ hmem)
  · exact hd.not_prefix hc ho ⟨t, ht.symm⟩

end Dialect.Legible

end SqlCompose
