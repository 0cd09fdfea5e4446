import SqlCompose.Proofs.Separation
import SqlCompose.Text.Quoted

/-!
# Readers

A reader takes its value off the front of a text and leaves the rest. What a
writer puts in front of any text is read back with that text left over, unless
the text could continue what was written.
-/

namespace SqlCompose.Text

/-- Takes a value off the front of a text. -/
abbrev Reader (α : Type) := StateT (List Char) Option α

namespace Reader

/-- A fixed text. -/
def expect (text : String) : Reader Unit := fun s =>
  if text.toList <+: s then some ((), s.drop text.toList.length) else none

/-- The text before the next quote character that is not doubled. -/
def undoubled (q : Char) : List Char → Option (List Char × List Char)
  | [] => none
  | c :: cs =>
    if c = q then
      match cs with
      | [] => some ([], [])
      | c' :: cs' =>
        if c' = q then (undoubled q cs').map (Prod.map (q :: ·) id) else some ([], c' :: cs')
    else (undoubled q cs).map (Prod.map (c :: ·) id)

/-- A text between quote characters. -/
def quoted (q : Char) : Reader String := fun
  | c :: s => if c = q then (undoubled q s).map (Prod.map String.ofList id) else none
  | [] => none

/-- The text before a quote character, without the blank between them. -/
def before (q : Char) : Reader String := fun s =>
  let text := s.takeWhile (· != q)
  if text.getLast? = some ' ' then some (String.ofList text.dropLast, s.dropWhile (· != q))
  else none

/-! ## What the readers leave -/

/-- A reader goes on with what the one before it left. -/
theorem run_bind {α β : Type} {reader : Reader α} {next : α → Reader β} {s r : List Char} {a : α}
    (h : reader.run s = some (a, r)) : (reader >>= next).run s = (next a).run r := by
  simp [h]

theorem run_bind_eq_none {α β : Type} {reader : Reader α} {next : α → Reader β} {s : List Char}
    (h : reader.run s = none) : (reader >>= next).run s = none := by
  simp [h]

theorem run_or_left {α : Type} {reader other : Reader α} {s r : List Char} {a : α}
    (h : reader.run s = some (a, r)) : (reader <|> other).run s = some (a, r) := by
  change (reader.run s <|> other.run s) = _
  rw [h]
  rfl

theorem run_or_right {α : Type} {reader other : Reader α} {s : List Char}
    (h : reader.run s = none) : (reader <|> other).run s = other.run s := by
  change (reader.run s <|> other.run s) = _
  rw [h]
  rfl

theorem run_expect (text : String) (r : List Char) :
    (expect text).run (text.toList ++ r) = some ((), r) := by
  simp [expect, StateT.run]

theorem run_expect_eq_none {text : String} {s : List Char} (h : ¬ text.toList <+: s) :
    (expect text).run s = none := by
  simp [expect, StateT.run, h]

theorem undoubled_cons_of_ne {q c : Char} (h : c ≠ q) (s : List Char) :
    undoubled q (c :: s) = (undoubled q s).map (Prod.map (c :: ·) id) := by
  cases s <;> simp [undoubled, h]

theorem undoubled_doubled {q : Char} {s r : List Char} (hr : Begins (· ≠ q) r) :
    undoubled q (doubled q s ++ q :: r) = some (s, r) := by
  induction s with
  | nil =>
    cases r with
    | nil => simp [undoubled]
    | cons c r => simpa [undoubled] using begins_cons.mp hr
  | cons c s ih =>
    by_cases hc : c = q
    · simp [doubled, undoubled, hc, ih]
    · simp [doubled, undoubled_cons_of_ne hc, hc, ih]

theorem undoubled_eq_some_iff {q : Char} {t s r : List Char} :
    undoubled q t = some (s, r) ↔ t = doubled q s ++ q :: r ∧ Begins (· ≠ q) r := by
  constructor
  · intro h
    induction t using undoubled.induct q generalizing s with
    | case1 => cases h
    | case2 => simp_all [undoubled, begins_nil]
    | case3 cs ih =>
      simp only [undoubled, if_true, Option.map_eq_some_iff] at h
      obtain ⟨⟨s', r'⟩, hrest, heq⟩ := h
      obtain ⟨rfl, rfl⟩ := Prod.mk.inj heq
      obtain ⟨rfl, hr⟩ := ih hrest
      exact ⟨by simp [doubled], hr⟩
    | case4 c cs hc =>
      simp only [undoubled, hc, if_true, if_false, Option.some.injEq, Prod.mk.injEq] at h
      obtain ⟨rfl, rfl⟩ := h
      exact ⟨rfl, begins_cons.mpr hc⟩
    | case5 c cs hc ih =>
      rw [undoubled_cons_of_ne hc, Option.map_eq_some_iff] at h
      obtain ⟨⟨s', r'⟩, hrest, heq⟩ := h
      obtain ⟨rfl, rfl⟩ := Prod.mk.inj heq
      obtain ⟨rfl, hr⟩ := ih hrest
      exact ⟨by simp [doubled, hc], hr⟩
  · rintro ⟨rfl, hr⟩
    exact undoubled_doubled hr

/-- A quoted text is read whatever it holds. -/
theorem run_quoted {q : Char} {s : String} {r : List Char} (hr : Begins (· ≠ q) r) :
    (quoted q).run ((Text.quoted q s).toList ++ r) = some (s, r) := by
  simp [quoted, StateT.run, undoubled_doubled hr]

/-- A quotation is read exactly where it is written and no quote character follows. -/
theorem run_quoted_eq_some_iff {q : Char} {t : List Char} {s : String} {r : List Char} :
    (quoted q).run t = some (s, r) ↔ t = (Text.quoted q s).toList ++ r ∧ Begins (· ≠ q) r := by
  refine ⟨fun h => ?_, fun ⟨ht, hr⟩ => ht ▸ run_quoted hr⟩
  cases t with
  | nil => cases h
  | cons c t =>
    change (if c = q then (undoubled q t).map (Prod.map String.ofList id) else none) = _ at h
    split at h
    · next hc =>
      obtain ⟨⟨s', r'⟩, hrest, heq⟩ := Option.map_eq_some_iff.mp h
      obtain ⟨rfl, rfl⟩ := Prod.mk.inj heq
      obtain ⟨rfl, hr⟩ := undoubled_eq_some_iff.mp hrest
      exact ⟨by simp [hc], hr⟩
    · cases h

theorem length_quoted {q : Char} {s : List Char} {a : String} {r : List Char}
    (h : (quoted q).run s = some (a, r)) : r.length < s.length := by
  obtain ⟨rfl, -⟩ := run_quoted_eq_some_iff.mp h
  rw [toList_quoted, List.length_append, List.length_cons]
  omega

/-- Quoted texts with a comma between them, up to the closing parenthesis. -/
def listed (q : Char) (s : List Char) : Option (List String × List Char) :=
  match h : (quoted q).run s with
  | some (a, ',' :: r) =>
    have : r.length < s.length := (Nat.lt_succ_self _).trans (length_quoted h)
    (listed q r).map (Prod.map (a :: ·) id)
  | some (a, ')' :: r) => some ([a], r)
  | _ => none
termination_by s.length

/-- A blank and quoted texts in parentheses. -/
def parenthesized (q : Char) : Reader (List String) := fun
  | ' ' :: '(' :: ')' :: r => some ([], r)
  | ' ' :: '(' :: s => listed q s
  | _ => none

end Reader

end SqlCompose.Text
