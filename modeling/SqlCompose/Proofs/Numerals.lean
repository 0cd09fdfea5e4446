import SqlCompose.Json.Token
import SqlCompose.Proofs.Separation

/-!
# Numerals are read as they are spelled

The grammar of JSON numerals as a relation between the parts of a numeral and
its characters: every spelling is read as its parts.
-/

namespace SqlCompose.Json.Numeral

open Text

/-- At least one digit and nothing else. -/
def IsDigits (cs : List Char) : Prop :=
  cs ≠ [] ∧ ∀ c ∈ cs, c.isDigit

/-- The digits of a whole part, of which a first zero is the only one. -/
def IsWhole (cs : List Char) : Prop :=
  IsDigits cs ∧ (cs.head? = some '0' → cs = ['0'])

def sign (negative : Bool) : List Char :=
  if negative then ['-'] else []

inductive SpellsFraction : Option (List Nat) → List Char → Prop where
  | absent : SpellsFraction none []
  | point {ds : List Char} (h : IsDigits ds) : SpellsFraction (some (ds.map digit)) ('.' :: ds)

inductive SpellsExponent : Option Int → List Char → Prop where
  | absent : SpellsExponent none []
  | unsigned {mark : Char} {ds : List Char} (hmark : mark = 'e' ∨ mark = 'E') (h : IsDigits ds) :
    SpellsExponent (some (natOf (ds.map digit))) (mark :: ds)
  | plus {mark : Char} {ds : List Char} (hmark : mark = 'e' ∨ mark = 'E') (h : IsDigits ds) :
    SpellsExponent (some (natOf (ds.map digit))) (mark :: '+' :: ds)
  | minus {mark : Char} {ds : List Char} (hmark : mark = 'e' ∨ mark = 'E') (h : IsDigits ds) :
    SpellsExponent (some (-(natOf (ds.map digit) : Int))) (mark :: '-' :: ds)

/-- The characters of a numeral. -/
inductive Spells : Numeral → List Char → Prop where
  | mk {negative : Bool} {whole : List Char} {fraction : Option (List Nat)}
      {exponent : Option Int} {fs es : List Char} (hwhole : IsWhole whole)
      (hfraction : SpellsFraction fraction fs) (hexponent : SpellsExponent exponent es) :
    Spells ⟨negative, whole.map digit, fraction, exponent⟩ (sign negative ++ (whole ++ (fs ++ es)))

/-! ## Reading the parts -/

theorem digits_append {ds r : List Char} (h : ∀ c ∈ ds, c.isDigit)
    (hr : Begins (¬ ·.isDigit) r) : digits (ds ++ r) = (ds.map digit, r) := by
  have hnone : r.takeWhile Char.isDigit = [] ∧ r.dropWhile Char.isDigit = r := by
    cases r with
    | nil => exact ⟨rfl, rfl⟩
    | cons c r =>
      have hc := begins_cons.mp hr
      exact ⟨List.takeWhile_cons_of_neg hc, List.dropWhile_cons_of_neg hc⟩
  rw [digits, List.takeWhile_append_of_pos h, List.dropWhile_append_of_pos h, hnone.1, hnone.2,
    List.append_nil]

theorem digits_self {ds : List Char} (h : ∀ c ∈ ds, c.isDigit) :
    digits ds = (ds.map digit, []) := by
  have hds := digits_append h (begins_nil _)
  rwa [List.append_nil] at hds

theorem IsDigits.ne {c : Char} {cs : List Char} (h : IsDigits (c :: cs)) :
    c ≠ '+' ∧ c ≠ '-' := by
  have hc := h.2 c List.mem_cons_self
  constructor <;> rintro rfl <;> revert hc <;> decide

theorem exponentOf?_spelled {e : Option Int} {es : List Char} (h : SpellsExponent e es) :
    exponentOf? es = some e := by
  cases h with
  | absent => rfl
  | unsigned hmark h =>
    obtain ⟨c, cs, rfl⟩ := List.exists_cons_of_ne_nil h.1
    have hdigits := digits_self h.2
    simp only [exponentOf?, hmark, if_true]
    split
    next heq => exact absurd (List.cons.inj heq).1 h.ne.1
    next heq => exact absurd (List.cons.inj heq).1 h.ne.2
    next => simp [hdigits]
  | plus hmark h =>
    obtain ⟨c, cs, rfl⟩ := List.exists_cons_of_ne_nil h.1
    have hdigits := digits_self h.2
    simp [exponentOf?, hmark, hdigits]
  | minus hmark h =>
    obtain ⟨c, cs, rfl⟩ := List.exists_cons_of_ne_nil h.1
    have hdigits := digits_self h.2
    simp [exponentOf?, hmark, hdigits]

theorem SpellsExponent.begins {e : Option Int} {es : List Char} (h : SpellsExponent e es) :
    Begins (fun c => c = 'e' ∨ c = 'E') es := by
  cases h with
  | absent => exact begins_nil _
  | unsigned hmark _ => exact begins_cons.mpr hmark
  | plus hmark _ => exact begins_cons.mpr hmark
  | minus hmark _ => exact begins_cons.mpr hmark

theorem digit_eq_zero_iff {c : Char} (h : c.isDigit) : digit c = 0 ↔ c = '0' := by
  have hlow : '0'.toNat ≤ c.toNat := (Char.isDigit_iff_toNat.mp h).1
  rw [digit, ← Char.toNat_inj]
  omega

theorem IsWhole.digits_append {ds r : List Char} (h : IsWhole ds) (hr : Begins (¬ ·.isDigit) r) :
    ∃ d more, digits (ds ++ r) = (d :: more, r) ∧ ds.map digit = d :: more ∧
      (d = 0 → more = []) := by
  obtain ⟨c, cs, rfl⟩ := List.exists_cons_of_ne_nil h.1.1
  refine ⟨digit c, cs.map digit, Numeral.digits_append h.1.2 hr, rfl, ?_⟩
  intro hzero
  obtain rfl := (digit_eq_zero_iff (h.1.2 c List.mem_cons_self)).mp hzero
  rw [(List.cons.inj (h.2 rfl)).2]
  rfl

theorem IsDigits.append_ne_minus {ds r cs : List Char} (h : IsDigits ds) :
    ds ++ r ≠ '-' :: cs := by
  obtain ⟨c, ds, rfl⟩ := List.exists_cons_of_ne_nil h.1
  intro heq
  exact h.ne.2 (List.cons.inj heq).1

theorem ofChars?_spelled {n : Numeral} {cs : List Char} (h : Spells n cs) :
    ofChars? cs = some n := by
  obtain ⟨hwhole, hfraction, hexponent⟩ := h
  rename_i negative whole fraction exponent fs es
  have hmark : Begins (fun c => ¬ c.isDigit ∧ c ≠ '.') es :=
    hexponent.begins.mono (by rintro c (rfl | rfl) <;> decide)
  have hbegins : Begins (¬ ·.isDigit) (fs ++ es) := by
    cases hfraction with
    | absent => exact hmark.mono fun _ h => h.1
    | point _ => exact begins_cons.mpr (by decide)
  obtain ⟨d, more, hdigits, heq, hzero⟩ := hwhole.digits_append hbegins
  rw [heq]
  unfold ofChars?
  split
  next negative' cs' hsign =>
    have hparts : negative' = negative ∧ cs' = whole ++ (fs ++ es) := by
      cases negative with
      | true => exact ⟨(Prod.mk.inj hsign).1.symm, (Prod.mk.inj hsign).2.symm⟩
      | false =>
        split at hsign
        next h => exact absurd h hwhole.1.append_ne_minus
        next => exact ⟨(Prod.mk.inj hsign).1.symm, (Prod.mk.inj hsign).2.symm⟩
    obtain ⟨rfl, rfl⟩ := hparts
    rw [hdigits]
    cases hfraction with
    | absent =>
      split
      next h => cases h
      next h =>
        obtain ⟨h, -⟩ := Prod.mk.inj h
        obtain ⟨rfl, rfl⟩ := List.cons.inj h
        exact absurd (hzero rfl) (List.cons_ne_nil _ _)
      next h =>
        obtain ⟨-, rfl⟩ := Prod.mk.inj h
        exact absurd rfl (begins_cons.mp hmark).2
      next h =>
        obtain ⟨rfl, rfl⟩ := Prod.mk.inj h
        simp [exponentOf?_spelled hexponent]
    | point hds =>
      obtain ⟨c, cs, rfl⟩ := List.exists_cons_of_ne_nil hds.1
      have hfraction := digits_append hds.2 (hmark.mono fun _ h => h.1)
      rw [List.cons_append]
      split
      next h => cases h
      next h =>
        obtain ⟨h, -⟩ := Prod.mk.inj h
        obtain ⟨rfl, rfl⟩ := List.cons.inj h
        exact absurd (hzero rfl) (List.cons_ne_nil _ _)
      next h =>
        obtain ⟨rfl, hrest⟩ := Prod.mk.inj h
        obtain rfl := (List.cons.inj hrest).2
        rw [hfraction]
        simp [exponentOf?_spelled hexponent]
      next hpoint h =>
        obtain ⟨rfl, rfl⟩ := Prod.mk.inj h
        exact (hpoint _ rfl).elim

/-! ## Numerals as tokens -/

theorem isNumeric_of_isDigit {c : Char} (h : c.isDigit) : Token.isNumeric c := by
  simp [Token.isNumeric, h]

theorem SpellsFraction.isNumeric {f : Option (List Nat)} {fs : List Char}
    (h : SpellsFraction f fs) : ∀ c ∈ fs, Token.isNumeric c := by
  cases h with
  | absent => exact List.forall_mem_nil _
  | point hds =>
    exact List.forall_mem_cons.mpr ⟨by decide, fun c hc => isNumeric_of_isDigit (hds.2 c hc)⟩

theorem SpellsExponent.isNumeric {e : Option Int} {es : List Char} (h : SpellsExponent e es) :
    ∀ c ∈ es, Token.isNumeric c := by
  have hmark : ∀ {c}, c = 'e' ∨ c = 'E' → Token.isNumeric c := by rintro c (rfl | rfl) <;> decide
  cases h with
  | absent => exact List.forall_mem_nil _
  | unsigned he hds =>
    exact List.forall_mem_cons.mpr ⟨hmark he, fun c hc => isNumeric_of_isDigit (hds.2 c hc)⟩
  | plus he hds =>
    exact List.forall_mem_cons.mpr ⟨hmark he, List.forall_mem_cons.mpr
      ⟨by decide, fun c hc => isNumeric_of_isDigit (hds.2 c hc)⟩⟩
  | minus he hds =>
    exact List.forall_mem_cons.mpr ⟨hmark he, List.forall_mem_cons.mpr
      ⟨by decide, fun c hc => isNumeric_of_isDigit (hds.2 c hc)⟩⟩

/-- A numeral begins with a digit or a minus, and all that follows could be part of one. -/
theorem Spells.exists_cons {n : Numeral} {cs : List Char} (h : Spells n cs) :
    ∃ c more, cs = c :: more ∧ (c.isDigit || c = '-') ∧ ∀ c ∈ more, Token.isNumeric c := by
  obtain ⟨hwhole, hfraction, hexponent⟩ := h
  rename_i negative whole fraction exponent fs es
  have hnumeric : ∀ c ∈ whole ++ (fs ++ es), Token.isNumeric c := by
    intro c hc
    rcases List.mem_append.mp hc with hc | hc
    · exact isNumeric_of_isDigit (hwhole.1.2 c hc)
    · rcases List.mem_append.mp hc with hc | hc
      · exact hfraction.isNumeric c hc
      · exact hexponent.isNumeric c hc
  cases negative with
  | true => exact ⟨'-', _, rfl, by decide, hnumeric⟩
  | false =>
    obtain ⟨c, cs, rfl⟩ := List.exists_cons_of_ne_nil hwhole.1.1
    have hc := hwhole.1.2 c List.mem_cons_self
    exact ⟨c, _, rfl, by simp [hc], fun c hc => hnumeric c (List.mem_cons_of_mem _ hc)⟩

/-! ## Written integers -/

theorem head?_toDigits_ne {n : Nat} (hn : 0 < n) : (Nat.toDigits 10 n).head? ≠ some '0' := by
  induction n using Nat.strongRecOn with
  | _ n ih =>
    by_cases hsmall : n < 10
    · rw [Nat.toDigits_of_lt_base hsmall]
      interval_cases n <;> decide
    · have hhead := ih (n / 10) (by omega) (by omega)
      rw [Nat.toDigits_of_base_le (by decide) (by omega)]
      rwa [List.head?_append_of_ne_nil _ Nat.toDigits_ne_nil]

theorem isWhole_toDigits (n : Nat) : IsWhole (Nat.toDigits 10 n) := by
  refine ⟨⟨Nat.toDigits_ne_nil, ?_⟩, ?_⟩
  · intro c hc
    exact Nat.isDigit_of_mem_toDigits (by decide) (by decide) hc
  · intro hzero
    rcases Nat.eq_zero_or_pos n with rfl | hn
    · exact Nat.toDigits_zero 10
    · exact absurd hzero (head?_toDigits_ne hn)

theorem natOf_toDigits (n : Nat) : natOf ((Nat.toDigits 10 n).map digit) = n := by
  rw [natOf, List.foldl_map]
  simp only [Nat.mul_comm _ 10]
  exact Nat.ofDigitChars_ten_toDigits

theorem spells_toDigits (negative : Bool) (n : Nat) :
    Spells ⟨negative, (Nat.toDigits 10 n).map digit, none, none⟩
      (sign negative ++ Nat.toDigits 10 n) := by
  have h : Spells ⟨negative, _, none, none⟩ _ := .mk (isWhole_toDigits n) .absent .absent
  rwa [List.append_nil, List.append_nil] at h

/-- An integer that fits 64 bits is read as it is written. -/
theorem exists_spells_toString {i : Int} (hlow : Int64.minValue.toInt ≤ i)
    (hhigh : i < UInt64.size) : ∃ n, Spells n (toString i).toList ∧ n.value = .int i := by
  have hvalue : ∀ n : Numeral, n.int? = some i → n.value = .int i := by
    intro n hn
    rw [Numeral.value, hn]
  cases i with
  | ofNat m =>
    have hspells := spells_toDigits false m
    have htext : sign false ++ Nat.toDigits 10 m = (toString (Int.ofNat m)).toList :=
      Nat.toList_repr.symm
    rw [htext] at hspells
    have hm : m < UInt64.size := Int.ofNat_lt.mp hhigh
    exact ⟨_, hspells, hvalue _ (by simp [int?, natOf_toDigits, hm])⟩
  | negSucc m =>
    have hspells := spells_toDigits true (m + 1)
    have htext : sign true ++ Nat.toDigits 10 (m + 1) = (toString (Int.negSucc m)).toList := by
      change _ = ("-" ++ Nat.repr (m + 1)).toList
      rw [String.toList_append, Nat.toList_repr]
      rfl
    rw [htext] at hspells
    have hm : Int64.minValue.toInt ≤ -((m + 1 : Nat) : Int) := by omega
    refine ⟨_, hspells, hvalue _ ?_⟩
    simp only [int?, natOf_toDigits, if_true, Nat.succ_pos, hm, and_self]
    rfl

end SqlCompose.Json.Numeral
