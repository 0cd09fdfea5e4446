import Mathlib.Tactic

/-!
# Texts that can be told apart

Each lemma here is about two texts that are written in the same way and followed
by something else. If the wholes are equal, then so are the texts, and so is what
follows them, provided that what follows cannot be taken for more of the text.
-/

namespace SqlCompose.Text

/-- A text that is empty or begins with a character of a kind. -/
def Begins (p : Char → Prop) (r : List Char) : Prop :=
  ∀ c ∈ r.head?, p c

theorem begins_nil (p : Char → Prop) : Begins p [] := by
  intro c hc
  cases hc

@[simp] theorem begins_cons {p : Char → Prop} {c : Char} {r : List Char} :
    Begins p (c :: r) ↔ p c := by
  simp [Begins]

theorem Begins.mono {p p' : Char → Prop} {r : List Char} (h : Begins p r) (hp : ∀ c, p c → p' c) :
    Begins p' r := by
  intro c hc
  exact hp c (h c hc)

/-! ## Runs of characters -/

theorem run_append_inj {p : Char → Prop} {a b r s : List Char} (ha : ∀ c ∈ a, p c)
    (hb : ∀ c ∈ b, p c) (hr : Begins (¬ p ·) r) (hs : Begins (¬ p ·) s) (h : a ++ r = b ++ s) :
    a = b ∧ r = s := by
  induction a generalizing b with
  | nil =>
    cases b with
    | nil => exact ⟨rfl, h⟩
    | cons c b =>
      rw [List.nil_append] at h
      rw [h, List.cons_append, begins_cons] at hr
      exact absurd (hb c List.mem_cons_self) hr
  | cons c a ih =>
    cases b with
    | nil =>
      rw [List.nil_append] at h
      rw [← h, List.cons_append, begins_cons] at hs
      exact absurd (ha c List.mem_cons_self) hs
    | cons c' b =>
      rw [List.cons_append, List.cons_append, List.cons.injEq] at h
      obtain ⟨rfl, h⟩ := h
      have ha' : ∀ c ∈ a, p c := fun c hc => ha c (List.mem_cons_of_mem _ hc)
      have hb' : ∀ c ∈ b, p c := fun c hc => hb c (List.mem_cons_of_mem _ hc)
      obtain ⟨rfl, rfl⟩ := ih ha' hb' h
      exact ⟨rfl, rfl⟩

theorem isDigit_of_mem_toString (n : Nat) : ∀ c ∈ (toString n).toList, c.isDigit := by
  intro c hc
  rw [Nat.toString_eq_repr, Nat.toList_repr] at hc
  exact Nat.isDigit_of_mem_toDigits (by decide) (by decide) hc

/-- A number ends where the digits end. -/
theorem toString_append_inj {m n : Nat} {r s : List Char} (hr : Begins (¬ ·.isDigit) r)
    (hs : Begins (¬ ·.isDigit) s) (h : (toString m).toList ++ r = (toString n).toList ++ s) :
    m = n ∧ r = s := by
  obtain ⟨htext, hrest⟩ := run_append_inj (p := (·.isDigit)) (isDigit_of_mem_toString m)
    (isDigit_of_mem_toString n) hr hs h
  rw [Nat.toString_eq_repr, Nat.toString_eq_repr, Nat.toList_repr, Nat.toList_repr] at htext
  have hvalue := congrArg (Nat.ofDigitChars 10 · 0) htext
  simp only [Nat.ofDigitChars_toDigits (by decide : 1 < 10) (by decide : 10 ≤ 10)] at hvalue
  exact ⟨hvalue, hrest⟩

/-! ## Items with a separator between them -/

section Items

variable {α : Type} {write : α → List Char} {sep : List Char}

theorem intercalate_map_cons (a : α) (as : List α) :
    sep.intercalate ((a :: as).map write) = write a ++ as.flatMap fun a => sep ++ write a := by
  induction as generalizing a with
  | nil => simp
  | cons a' as ih =>
    rw [List.map_cons, List.map_cons, List.intercalate_cons_cons, ← List.map_cons, ih a']
    simp

variable {ok : α → Prop} {follow : List Char → Prop}

/-- What may follow an item may follow the further items, each with a separator before it. -/
theorem follow_further {r : List Char} (hsep : ∀ t, follow (sep ++ t)) (hr : follow r)
    (as : List α) : follow ((as.flatMap fun a => sep ++ write a) ++ r) := by
  cases as with
  | nil => exact hr
  | cons a as =>
    rw [List.flatMap_cons, List.append_assoc, List.append_assoc]
    exact hsep _

variable (hitem : ∀ {a b : α} {r s : List Char}, ok a → ok b → follow r → follow s →
    write a ++ r = write b ++ s → a = b ∧ r = s)
  (hsep : ∀ t, follow (sep ++ t))
include hitem hsep

theorem further_append_inj {as bs : List α} {r s : List Char} (has : ∀ a ∈ as, ok a)
    (hbs : ∀ b ∈ bs, ok b) (hr : follow r) (hs : follow s) (hr' : ¬ sep <+: r) (hs' : ¬ sep <+: s)
    (h : (as.flatMap fun a => sep ++ write a) ++ r = (bs.flatMap fun a => sep ++ write a) ++ s) :
    as = bs ∧ r = s := by
  induction as generalizing bs with
  | nil =>
    cases bs with
    | nil => exact ⟨rfl, h⟩
    | cons b bs =>
      rw [List.flatMap_nil, List.nil_append] at h
      rw [h, List.flatMap_cons, List.append_assoc, List.append_assoc] at hr'
      exact absurd (List.prefix_append _ _) hr'
  | cons a as ih =>
    cases bs with
    | nil =>
      rw [List.flatMap_nil, List.nil_append] at h
      rw [← h, List.flatMap_cons, List.append_assoc, List.append_assoc] at hs'
      exact absurd (List.prefix_append _ _) hs'
    | cons b bs =>
      simp only [List.flatMap_cons, List.append_assoc, List.append_cancel_left_eq] at h
      obtain ⟨ha, hmore⟩ := List.forall_mem_cons.mp has
      obtain ⟨hb, hmore'⟩ := List.forall_mem_cons.mp hbs
      obtain ⟨rfl, hrest⟩ :=
        hitem ha hb (follow_further hsep hr as) (follow_further hsep hs bs) h
      obtain ⟨rfl, rfl⟩ := ih hmore hmore' hrest
      exact ⟨rfl, rfl⟩

/-- If items can be told apart, then so can lists of items with a separator between them. -/
theorem intercalate_append_inj {as bs : List α} {r s : List Char} (hne : as ≠ []) (hne' : bs ≠ [])
    (has : ∀ a ∈ as, ok a) (hbs : ∀ b ∈ bs, ok b) (hr : follow r) (hs : follow s)
    (hr' : ¬ sep <+: r) (hs' : ¬ sep <+: s)
    (h : sep.intercalate (as.map write) ++ r = sep.intercalate (bs.map write) ++ s) :
    as = bs ∧ r = s := by
  obtain ⟨a, as, rfl⟩ := List.exists_cons_of_ne_nil hne
  obtain ⟨b, bs, rfl⟩ := List.exists_cons_of_ne_nil hne'
  rw [intercalate_map_cons, intercalate_map_cons, List.append_assoc, List.append_assoc] at h
  obtain ⟨ha, hmore⟩ := List.forall_mem_cons.mp has
  obtain ⟨hb, hmore'⟩ := List.forall_mem_cons.mp hbs
  obtain ⟨rfl, hrest⟩ := hitem ha hb (follow_further hsep hr as) (follow_further hsep hs bs) h
  obtain ⟨rfl, rfl⟩ := further_append_inj hitem hsep hmore hmore' hr hs hr' hs' hrest
  exact ⟨rfl, rfl⟩

end Items

end SqlCompose.Text
