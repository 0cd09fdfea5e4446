import SqlCompose.Proofs.Numerals

/-!
# Tokens are read as they are spelled

The characters of a token as a relation: a string literal is spelled piece by
piece, each character as itself, as an escape or by its number, and blanks may
stand anywhere between tokens. Whatever spelling is chosen, the tokens are found.
-/

namespace SqlCompose.Json.Token

open Text

/-! ## String literals -/

/-- The sixteen bits that four digits spell. -/
def unitOf? (a b c d : Char) : Option Nat := do
  let a ← hexDigit? a
  let b ← hexDigit? b
  let c ← hexDigit? c
  let d ← hexDigit? d
  return ((a * 16 + b) * 16 + c) * 16 + d

/-- A part of a string literal. -/
inductive Piece where
  | plain (c : Char) (h : c ≠ '\x22' ∧ c ≠ '\\' ∧ ¬ c.toNat < 0x20)
  | escaped (mark c : Char) (h : unescape? mark = some c)
  | numeric (a b c d : Char) (unit : Nat) (h : unitOf? a b c d = some unit)

namespace Piece

def chars : Piece → List Char
  | plain c _ => [c]
  | escaped mark _ _ => ['\\', mark]
  | numeric a b c d _ _ => ['\\', 'u', a, b, c, d]

/-- Half of a surrogate pair that comes first. -/
def IsLead (unit : Nat) : Prop :=
  0xD800 ≤ unit ∧ unit < 0xDC00

/-- Half of a surrogate pair that comes second. -/
def IsTrail (unit : Nat) : Prop :=
  0xDC00 ≤ unit ∧ unit < 0xE000

instance (unit : Nat) : Decidable (IsLead unit) :=
  inferInstanceAs (Decidable (_ ∧ _))

instance (unit : Nat) : Decidable (IsTrail unit) :=
  inferInstanceAs (Decidable (_ ∧ _))

/-- The character of a surrogate pair. -/
def ofPair (lead trail : Nat) : Char :=
  Char.ofNat (0x10000 + (lead - 0xD800) * 0x400 + (trail - 0xDC00))

/-- The text that pieces spell after a first half of a pair, if there is one; a half without the
other spells nothing. -/
def textAfter? : Option Nat → List Piece → Option (List Char)
  | none, [] => some []
  | none, plain c _ :: ps => (textAfter? none ps).map (c :: ·)
  | none, escaped _ c _ :: ps => (textAfter? none ps).map (c :: ·)
  | none, numeric _ _ _ _ unit _ :: ps =>
    if IsLead unit then textAfter? (some unit) ps
    else if IsTrail unit then none
    else (textAfter? none ps).map (Char.ofNat unit :: ·)
  | some lead, numeric _ _ _ _ unit _ :: ps =>
    if IsTrail unit then (textAfter? none ps).map (ofPair lead unit :: ·) else none
  | some _, _ => none

def text? (ps : List Piece) : Option String :=
  (textAfter? none ps).map String.ofList

/-! ## Reading a literal -/

/-- What a piece adds to the literal that is read. -/
def addTo (l : Literal) : Piece → Literal
  | plain c _ => l.push c
  | escaped _ c _ => l.push c
  | numeric _ _ _ _ unit _ => l.pushUnit unit

theorem pushUnit_lead {l : Literal} {unit : Nat} (hlead : l.lead = none) (h : IsLead unit) :
    l.pushUnit unit = ⟨l.reversed, some unit, l.paired⟩ := by
  simp only [Literal.pushUnit, hlead]
  exact if_pos h

theorem pushUnit_trail {l : Literal} {unit : Nat} (hlead : l.lead = none) (h : IsTrail unit) :
    l.pushUnit unit = ⟨l.reversed, none, false⟩ := by
  simp only [Literal.pushUnit, hlead]
  have hnot : ¬ (0xD800 ≤ unit ∧ unit < 0xDC00) := by
    have := h.1
    omega
  exact (if_neg hnot).trans (if_pos h)

theorem pushUnit_char {l : Literal} {unit : Nat} (hlead : l.lead = none) (h : ¬ IsLead unit)
    (h' : ¬ IsTrail unit) : l.pushUnit unit = l.push (Char.ofNat unit) := by
  simp only [Literal.pushUnit, hlead]
  exact (if_neg h).trans (if_neg h')

theorem pushUnit_pair {l : Literal} {lead unit : Nat} (hlead : l.lead = some lead)
    (h : IsTrail unit) : l.pushUnit unit = ⟨ofPair lead unit :: l.reversed, none, l.paired⟩ := by
  simp only [Literal.pushUnit, hlead]
  exact if_pos h

theorem pushUnit_unpaired {l : Literal} {lead unit : Nat} (hlead : l.lead = some lead)
    (h : ¬ IsTrail unit) : l.pushUnit unit = ⟨l.reversed, none, false⟩ := by
  simp only [Literal.pushUnit, hlead]
  exact if_neg h

theorem text?_of_unpaired {l : Literal} (h : l.paired = false) (ps : List Piece) :
    (ps.foldl addTo l).text? = none := by
  induction ps generalizing l with
  | nil => simp [Literal.text?, h]
  | cons p ps ih =>
    refine ih ?_
    cases p with
    | plain c _ => simp [addTo, Literal.push, h]
    | escaped _ c _ => simp [addTo, Literal.push, h]
    | numeric _ _ _ _ unit _ =>
      simp only [addTo, Literal.pushUnit]
      repeat' split
      all_goals simp [Literal.push, h]

theorem text?_push {l : Literal} (h : l.paired = true) {c : Char} {ps : List Piece}
    (ih : ∀ {l : Literal}, l.paired = true → (ps.foldl addTo l).text? =
      (textAfter? l.lead ps).map fun cs => String.ofList (l.reversed.reverse ++ cs)) :
    (ps.foldl addTo (l.push c)).text? =
      (if l.lead.isNone then (textAfter? none ps).map (c :: ·) else none).map
        fun cs => String.ofList (l.reversed.reverse ++ cs) := by
  cases hlead : l.lead with
  | none =>
    rw [ih (by simp [Literal.push, h, hlead])]
    simp [Literal.push, Function.comp_def]
  | some lead => simp [text?_of_unpaired (l := l.push c) (by simp [Literal.push, hlead])]

/-- The literal that was read has the text that its pieces spell. -/
theorem text?_foldl {l : Literal} (h : l.paired = true) (ps : List Piece) :
    (ps.foldl addTo l).text? =
      (textAfter? l.lead ps).map fun cs => String.ofList (l.reversed.reverse ++ cs) := by
  -- The half of a pair that waits is all that one piece tells the next, so `l` stays general.
  induction ps generalizing l with
  | nil => cases hlead : l.lead <;> simp [Literal.text?, textAfter?, h, hlead]
  | cons p ps ih =>
    rw [List.foldl_cons]
    cases p with
    | plain c _ =>
      rw [addTo, text?_push h ih]
      cases hlead : l.lead <;> simp [textAfter?]
    | escaped _ c _ =>
      rw [addTo, text?_push h ih]
      cases hlead : l.lead <;> simp [textAfter?]
    | numeric _ _ _ _ unit _ =>
      cases hlead : l.lead with
      | none =>
        by_cases hunit : IsLead unit
        · rw [addTo, pushUnit_lead hlead hunit, ih (l := ⟨l.reversed, some unit, l.paired⟩) h,
            textAfter?, if_pos hunit]
        · by_cases htrail : IsTrail unit
          · rw [addTo, pushUnit_trail hlead htrail, text?_of_unpaired rfl, textAfter?,
              if_neg hunit, if_pos htrail]
            rfl
          · rw [addTo, pushUnit_char hlead hunit htrail, text?_push h ih, hlead, textAfter?,
              if_neg hunit, if_neg htrail]
            rfl
      | some lead =>
        by_cases htrail : IsTrail unit
        · rw [addTo, pushUnit_pair hlead htrail,
            ih (l := ⟨ofPair lead unit :: l.reversed, none, l.paired⟩) h, textAfter?,
            if_pos htrail]
          simp [Function.comp_def]
        · rw [addTo, pushUnit_unpaired hlead htrail, text?_of_unpaired rfl, textAfter?,
            if_neg htrail]
          rfl

theorem run?_chars (found : List Token) (l : Literal) (p : Piece) (r : List Char) :
    State.run? found (.literal l) (p.chars ++ r) = State.run? found (.literal (p.addTo l)) r := by
  cases p with
  | plain c h => simp [chars, addTo, State.run?, State.step?, h]
  | escaped mark c h =>
    have hmark : mark ≠ 'u' := by
      rintro rfl
      cases h
    simp [chars, addTo, State.run?, State.step?, h, hmark]
  | numeric a b c d unit h =>
    simp only [unitOf?, Option.bind_eq_bind, Option.bind_eq_some_iff] at h
    obtain ⟨w, hw, x, hx, y, hy, z, hz, h⟩ := h
    obtain rfl := Option.some.inj h
    simp [chars, addTo, State.run?, State.step?, hw, hx, hy, hz]

theorem run?_flatMap_chars (found : List Token) (l : Literal) (ps : List Piece) (r : List Char) :
    State.run? found (.literal l) (ps.flatMap chars ++ r) =
      State.run? found (.literal (ps.foldl addTo l)) r := by
  induction ps generalizing l with
  | nil => rfl
  | cons p ps ih => rw [List.flatMap_cons, List.append_assoc, run?_chars, ih, List.foldl_cons]

end Piece

/-! ## Tokens -/

/-- The characters of a token. -/
inductive Spells : Token → List Char → Prop where
  | openArray : Spells .openArray ['[']
  | closeArray : Spells .closeArray [']']
  | openObject : Spells .openObject ['\x7b']
  | closeObject : Spells .closeObject ['\x7d']
  | comma : Spells .comma [',']
  | colon : Spells .colon [':']
  | null : Spells .null ['n', 'u', 'l', 'l']
  | true : Spells (.bool true) ['t', 'r', 'u', 'e']
  | false : Spells (.bool false) ['f', 'a', 'l', 's', 'e']
  | number {n : Numeral} {cs : List Char} (h : n.Spells cs) : Spells (.number n.value) cs
  | text (ps : List Piece) :
    Spells (.text (Piece.text? ps)) ('\x22' :: (ps.flatMap Piece.chars ++ ['\x22']))

/-- Characters that spell tokens, with blanks anywhere between them. -/
inductive SpellsAll : List Token → List Char → Prop where
  | nil : SpellsAll [] []
  | blank {ts : List Token} {c : Char} {cs : List Char} (hc : isBlank c) (h : SpellsAll ts cs) :
    SpellsAll ts (c :: cs)
  | cons {t : Token} {ts : List Token} {cs r : List Char} (ht : Spells t cs) (h : SpellsAll ts r) :
    SpellsAll (t :: ts) (cs ++ r)

/-- A token that has no mark at its end: further characters could belong to it. -/
def isBare : Token → Bool
  | .null | .bool _ | .number _ => Bool.true
  | _ => Bool.false

/-- No two tokens without a mark at their ends follow each other. -/
def Separated : List Token → Prop :=
  List.IsChain fun t u => ¬ (t.isBare ∧ u.isBare)

/-- A character that ends every word and every numeral. -/
def Ends (c : Char) : Prop :=
  ¬ c.isLower ∧ ¬ isNumeric c

theorem ends_of_isBlank {c : Char} (h : isBlank c) : Ends c := by
  simp only [isBlank, Bool.or_eq_true, decide_eq_true_eq] at h
  rcases h with ((rfl | rfl) | rfl) | rfl <;> exact ⟨by decide, by decide⟩

theorem Spells.begins {t : Token} {cs : List Char} (h : Spells t cs) (ht : ¬ t.isBare)
    (r : List Char) : Begins Ends (cs ++ r) := by
  cases h with
  | null | true | false | number => exact absurd rfl ht
  | openArray | closeArray | openObject | closeObject | comma | colon | text =>
    exact begins_cons.mpr ⟨by decide, by decide⟩

theorem SpellsAll.begins {ts : List Token} {cs : List Char} (h : SpellsAll ts cs)
    (hts : ∀ t ∈ ts.head?, ¬ t.isBare) : Begins Ends cs := by
  cases h with
  | nil => exact begins_nil _
  | blank hc _ => exact begins_cons.mpr (ends_of_isBlank hc)
  | cons ht _ => exact ht.begins (hts _ rfl) _

/-- A word or a numeral ends before a character that cannot belong to it. -/
theorem run?_ended {s : State} {t : Token} {r : List Char} {p : Char → Prop}
    (found : List Token) (hfinish : s.finish? = some [t])
    (hstep : ∀ c, p c → s.step? c = State.startAfter? (some t) c) (hr : Begins p r) :
    State.run? found s r = State.run? (t :: found) .between r := by
  cases r with
  | nil =>
    rw [State.run?, hfinish]
    simp [State.run?, State.finish?]
  | cons c r =>
    rw [State.run?, State.run?, hstep c (begins_cons.mp hr)]
    cases hstart : State.start? c with
    | none => simp [State.startAfter?, State.step?, hstart]
    | some next => simp [State.startAfter?, State.step?, hstart]

/-- Characters that belong to the token are gathered. -/
theorem run?_gathered (found : List Token) {state : List Char → State} {p : Char → Prop}
    (hstep : ∀ reversed c, p c → (state reversed).step? c = some (state (c :: reversed), []))
    {cs : List Char} (hcs : ∀ c ∈ cs, p c) (reversed r : List Char) :
    State.run? found (state reversed) (cs ++ r) =
      State.run? found (state (cs.reverse ++ reversed)) r := by
  induction cs generalizing reversed with
  | nil => rfl
  | cons c cs ih =>
    obtain ⟨hc, hcs⟩ := List.forall_mem_cons.mp hcs
    rw [List.cons_append, State.run?, hstep _ _ hc]
    simpa using ih hcs (c :: reversed)

theorem start?_of_isDigit_or {c : Char} (h : c.isDigit || c = '-') :
    State.start? c = some (.numeral [c], []) := by
  have hblank : ¬ isBlank c := by
    intro hblank
    have hnumeric := (ends_of_isBlank hblank).2
    simp only [Bool.or_eq_true, decide_eq_true_eq] at h
    rcases h with h | rfl
    · exact hnumeric (Numeral.isNumeric_of_isDigit h)
    · exact hnumeric (by decide)
  unfold State.start?
  rw [if_neg hblank, if_pos h]

theorem start?_of_isLower {c : Char} (h : c.isLower) : State.start? c = some (.word [c], []) := by
  have hblank : ¬ isBlank c := fun hblank => (ends_of_isBlank hblank).1 h
  have hnumeral : ¬ (c.isDigit || c = '-') := by
    simp only [Bool.or_eq_true, decide_eq_true_eq]
    rintro (hdigit | rfl)
    · have hlow := (Char.isDigit_iff_toNat.mp hdigit).2
      have hhigh : 'a'.toNat ≤ c.toNat := of_decide_eq_true (Bool.and_eq_true_iff.mp h).1
      simp only [Char.reduceToNat] at hlow hhigh
      omega
    · exact absurd h (by decide)
  unfold State.start?
  rw [if_neg hblank, if_neg hnumeral, if_pos h]

theorem run?_start (found : List Token) {s : State} {c : Char}
    (h : State.start? c = some (s, [])) (cs : List Char) :
    State.run? found .between (c :: cs) = State.run? found s cs := by
  simp [State.run?, State.step?, h]

theorem run?_word (found : List Token) {t : Token} {c : Char} {cs r : List Char}
    (hc : c.isLower) (hcs : cs.all Char.isLower) (ht : ofWord? (cs.reverse ++ [c]) = some t)
    (hr : Begins Ends r) :
    State.run? found .between (c :: cs ++ r) = State.run? (t :: found) .between r := by
  rw [List.cons_append, run?_start found (start?_of_isLower hc)]
  rw [run?_gathered found (fun _ _ hlower => by simp [State.step?, hlower])
    (List.all_eq_true.mp hcs)]
  refine run?_ended found (by simp [State.finish?, ht]) ?_ hr
  intro c' hc'
  simp [State.step?, hc'.1, ht]

theorem run?_numeral (found : List Token) {n : Numeral} {cs r : List Char} (h : n.Spells cs)
    (hr : Begins Ends r) :
    State.run? found .between (cs ++ r) = State.run? (.number n.value :: found) .between r := by
  obtain ⟨c, cs, rfl, hc, hcs⟩ := h.exists_cons
  have ht : ofNumeral? (cs.reverse ++ [c]) = some (.number n.value) := by
    simp [ofNumeral?, Numeral.ofChars?_spelled h]
  rw [List.cons_append, run?_start found (start?_of_isDigit_or hc)]
  rw [run?_gathered found (fun _ _ hnumeric => by simp [State.step?, hnumeric]) hcs]
  refine run?_ended found (by simp [State.finish?, ht]) ?_ hr
  intro c' hc'
  simp [State.step?, hc'.2, ht]

theorem run?_spelled (found : List Token) {t : Token} {cs r : List Char} (h : Spells t cs)
    (hr : t.isBare → Begins Ends r) :
    State.run? found .between (cs ++ r) = State.run? (t :: found) .between r := by
  cases h with
  | openArray | closeArray | openObject | closeObject | comma | colon => rfl
  | null | true | false => exact run?_word found rfl rfl rfl (hr rfl)
  | number h => exact run?_numeral found h (hr rfl)
  | text ps =>
    have hopen : State.run? found .between ('\x22' :: (ps.flatMap Piece.chars ++ ['\x22']) ++ r) =
        State.run? found (.literal {}) (ps.flatMap Piece.chars ++ '\x22' :: r) := by
      rw [List.cons_append, run?_start found rfl, List.append_assoc]
      rfl
    have htext : (ps.foldl Piece.addTo {}).text? = Piece.text? ps := by
      rw [Piece.text?_foldl rfl]
      rfl
    rw [hopen, Piece.run?_flatMap_chars]
    simp [State.run?, State.step?, htext]

/-- Whatever spelling is chosen for tokens, they are found. -/
theorem ofString?_spelled {ts : List Token} {text : String} (hts : Separated ts)
    (h : SpellsAll ts text.toList) : ofString? text = some ts := by
  have hrun : ∀ {ts : List Token} {cs : List Char} (found : List Token), Separated ts →
      SpellsAll ts cs → State.run? found .between cs = some (found.reverse ++ ts) := by
    intro ts cs found hts h
    induction h generalizing found with
    | nil => simp [State.run?, State.finish?]
    | blank hc _ ih =>
      rw [← ih found hts]
      simp [State.run?, State.step?, State.start?, hc]
    | cons ht h ih =>
      obtain ⟨hnext, hts⟩ := List.isChain_cons.mp hts
      have hr := fun hbare => h.begins fun u hu hu' => hnext u hu ⟨hbare, hu'⟩
      rw [run?_spelled found ht hr, ih _ hts]
      simp
  exact hrun [] hts h

end SqlCompose.Json.Token
