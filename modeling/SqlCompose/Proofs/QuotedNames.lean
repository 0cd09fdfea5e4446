import SqlCompose.Dialect.Custom
import SqlCompose.Proofs.Readers

/-!
# Quoted names are read back

Whatever characters a name holds, a reader that knows only the quote character finds
where its quotation ends: at the first quote character that is not doubled. The parts
of a dotted name are found in the same way, if the quote character is neither a dot
nor a star. What follows must not continue what was written.
-/

namespace SqlCompose

/-- A name that is written with its parts quoted. -/
def PlainName (name : String) : Prop :=
  '(' ∉ name.toList ∧ ' ' ∉ name.toList

instance (name : String) : Decidable (PlainName name) :=
  inferInstanceAs (Decidable ('(' ∉ name.toList ∧ ' ' ∉ name.toList))

open Text (Begins)

/-- A part of a dotted name: a bare star, or a quoted text. -/
inductive NamePart where
  | star
  | quoted (text : String)
deriving DecidableEq

namespace NamePart

/-- What the text between two dots of a name is written as. -/
def ofSegment (segment : List Char) : NamePart :=
  if segment = ['*'] then .star else .quoted (String.ofList segment)

def segment : NamePart → List Char
  | .star => ['*']
  | .quoted text => text.toList

def write (q : Char) : NamePart → List Char
  | .star => ['*']
  | .quoted text => (Text.quoted q text).toList

@[simp] theorem segment_ofSegment (segment : List Char) :
    (ofSegment segment).segment = segment := by
  unfold ofSegment
  split
  · next h => exact h.symm
  · exact String.toList_ofList

end NamePart

/-- The parts of a name between its dots. -/
def nameParts (name : String) : List NamePart :=
  (name.toList.splitOn '.').map .ofSegment

theorem nameParts_inj {a b : String} : nameParts a = nameParts b ↔ a = b := by
  refine ⟨fun h => ?_, congrArg nameParts⟩
  have hsegments (name : String) :
      ['.'].intercalate ((nameParts name).map NamePart.segment) = name.toList := by
    simp [nameParts, Function.comp_def, List.intercalate_splitOn]
  rw [← String.toList_inj, ← hsegments a, ← hsegments b, h]

namespace Text.Reader

/-! ## Parts with dots between them -/

/-- A bare star or a quoted text. -/
def namePart (q : Char) : Reader NamePart :=
  (do expect "*"; return .star) <|> .quoted <$> quoted q

theorem run_namePart_star (q : Char) (r : List Char) :
    (namePart q).run ('*' :: r) = some (.star, r) :=
  run_or_left (run_bind (run_expect "*" r))

theorem run_namePart_of_ne {q c : Char} (hc : c ≠ '*') (s : List Char) :
    (namePart q).run (c :: s) = ((quoted q).run (c :: s)).map (Prod.map .quoted id) := by
  have hstar : ¬ "*".toList <+: c :: s := by
    simpa using hc.symm
  refine (run_or_right (run_bind_eq_none (run_expect_eq_none hstar))).trans ?_
  rw [StateT.run_map]
  rfl

theorem run_namePart {q : Char} (hstar : q ≠ '*') (part : NamePart) {r : List Char}
    (hr : Begins (· ≠ q) r) : (namePart q).run (part.write q ++ r) = some (part, r) := by
  cases part with
  | star => exact run_namePart_star q r
  | quoted text =>
    have hread := run_quoted (s := text) hr
    rw [toList_quoted, List.cons_append] at hread
    rw [NamePart.write, toList_quoted, List.cons_append, run_namePart_of_ne hstar, hread]
    rfl

theorem length_namePart {q : Char} {s : List Char} {part : NamePart} {r : List Char}
    (h : (namePart q).run s = some (part, r)) : r.length < s.length := by
  cases s with
  | nil => cases h
  | cons c s =>
    by_cases hc : c = '*'
    · rw [hc, run_namePart_star] at h
      obtain ⟨-, rfl⟩ := Prod.mk.inj (Option.some.inj h)
      exact Nat.lt_succ_self _
    · rw [run_namePart_of_ne hc] at h
      obtain ⟨⟨text, r'⟩, hread, heq⟩ := Option.map_eq_some_iff.mp h
      obtain ⟨-, rfl⟩ := Prod.mk.inj heq
      exact length_quoted hread

/-- Parts of a name with a dot between them, as many as there are. -/
def dottedName (q : Char) (s : List Char) : Option (List NamePart × List Char) :=
  match h : (namePart q).run s with
  | some (part, '.' :: r) =>
    have : r.length < s.length := (Nat.lt_succ_self _).trans (length_namePart h)
    (dottedName q r).map (Prod.map (part :: ·) id)
  | some (part, r) => some ([part], r)
  | none => none
termination_by s.length

theorem dottedName_dot {q : Char} {s r : List Char} {part : NamePart}
    (h : (namePart q).run s = some (part, '.' :: r)) :
    dottedName q s = (dottedName q r).map (Prod.map (part :: ·) id) := by
  rw [dottedName]
  split <;> simp_all

theorem dottedName_end {q : Char} {s r : List Char} {part : NamePart}
    (h : (namePart q).run s = some (part, r)) (hr : Begins (· ≠ '.') r) :
    dottedName q s = some ([part], r) := by
  rw [dottedName]
  split
  · next part' r' hread =>
    obtain ⟨-, rfl⟩ := Prod.mk.inj (Option.some.inj (h.symm.trans hread))
    exact absurd rfl (begins_cons.mp hr)
  · simp_all
  · simp_all

/-- Parts are read whatever the quoted texts hold, dots and stars included. -/
theorem dottedName_append {q : Char} (hdot : q ≠ '.') (hstar : q ≠ '*') {r : List Char}
    (hr : Begins (fun c => c ≠ q ∧ c ≠ '.') r) (part : NamePart) (parts : List NamePart) :
    dottedName q ((part.write q ++ parts.flatMap fun p => ['.'] ++ p.write q) ++ r) =
      some (part :: parts, r) := by
  induction parts generalizing part with
  | nil =>
    rw [List.flatMap_nil, List.append_nil]
    exact dottedName_end (run_namePart hstar part (hr.mono fun _ h => h.1))
      (hr.mono fun _ h => h.2)
  | cons next parts ih =>
    rw [List.flatMap_cons, List.append_assoc, List.append_assoc, List.append_assoc,
      List.singleton_append]
    rw [dottedName_dot (run_namePart hstar part (begins_cons.mpr hdot.symm)), ← List.append_assoc,
      ih]
    rfl

end Text.Reader

namespace Dialect

variable {d : Dialect}

theorem isExpression_of_plainName {name : String} (h : PlainName name) :
    isExpression name = false := by
  simp [isExpression, h.1, h.2]

theorem toList_wrapPart (d : Dialect) (part : List Char) :
    (d.wrapPart part).toList =
      if part = ['*'] then ['*'] else d.quote :: (Text.doubled d.quote part ++ [d.quote]) := by
  unfold wrapPart quoteIdentifier
  split
  · rfl
  · simp

theorem toList_wrap (d : Dialect) {name : String} (h : PlainName name) :
    (d.wrap name).toList =
      ['.'].intercalate ((name.toList.splitOn '.').map fun part => (d.wrapPart part).toList) := by
  simp [wrap, isExpression_of_plainName h, Function.comp_def]

/-- A name is written part by part. -/
theorem toList_wrap_eq (d : Dialect) {name : String} (h : PlainName name) :
    (d.wrap name).toList = ['.'].intercalate ((nameParts name).map (NamePart.write d.quote)) := by
  rw [toList_wrap d h, nameParts, List.map_map]
  congr 2
  funext segment
  rw [toList_wrapPart, Function.comp, NamePart.ofSegment]
  split <;> simp [NamePart.write]

/-- What a dialect quotes is found again in front of any text that does not continue it. -/
structure ReadsQuoted (d : Dialect) : Prop where
  identifier (s : String) (t r : List Char) :
    (Text.Reader.quoted d.quote).run t = some (s, r) ↔
      t = (d.quoteIdentifier s).toList ++ r ∧ Begins (· ≠ d.quote) r
  value (s : String) (t r : List Char) :
    (Text.Reader.quoted '\x27').run t = some (s, r) ↔
      t = (quoteValue s).toList ++ r ∧ Begins (· ≠ '\x27') r
  name (name : String) (hname : PlainName name) (r : List Char)
    (hr : Begins (fun c => c ≠ d.quote ∧ c ≠ '.') r) :
    Text.Reader.dottedName d.quote ((d.wrap name).toList ++ r) = some (nameParts name, r)
  unambiguous (a b : String) (ha : PlainName a) (hb : PlainName b) (r s : List Char)
    (hr : Begins (fun c => c ≠ d.quote ∧ c ≠ '.') r)
    (hs : Begins (fun c => c ≠ d.quote ∧ c ≠ '.') s) :
    (d.wrap a).toList ++ r = (d.wrap b).toList ++ s ↔ a = b ∧ r = s
  injective (a b : String) (ha : PlainName a) (hb : PlainName b) : d.wrap a = d.wrap b ↔ a = b

theorem dottedName_wrap (hdot : d.quote ≠ '.') (hstar : d.quote ≠ '*') {name : String}
    (hname : PlainName name) {r : List Char} (hr : Begins (fun c => c ≠ d.quote ∧ c ≠ '.') r) :
    Text.Reader.dottedName d.quote ((d.wrap name).toList ++ r) = some (nameParts name, r) := by
  have hne : nameParts name ≠ [] := by
    simp [nameParts, List.splitOn_ne_nil]
  obtain ⟨part, parts, hparts⟩ := List.exists_cons_of_ne_nil hne
  rw [d.toList_wrap_eq hname, hparts, Text.intercalate_map_cons]
  exact Text.Reader.dottedName_append hdot hstar hr part parts

theorem wrap_append_eq_iff (hdot : d.quote ≠ '.') (hstar : d.quote ≠ '*') {a b : String}
    (ha : PlainName a) (hb : PlainName b) {r s : List Char}
    (hr : Begins (fun c => c ≠ d.quote ∧ c ≠ '.') r)
    (hs : Begins (fun c => c ≠ d.quote ∧ c ≠ '.') s) :
    (d.wrap a).toList ++ r = (d.wrap b).toList ++ s ↔ a = b ∧ r = s := by
  constructor
  · intro h
    have hread := (dottedName_wrap hdot hstar ha hr).symm.trans
      (h ▸ dottedName_wrap hdot hstar hb hs)
    obtain ⟨hparts, hrest⟩ := Prod.mk.inj (Option.some.inj hread)
    exact ⟨nameParts_inj.mp hparts, hrest⟩
  · rintro ⟨rfl, rfl⟩
    rfl

end Dialect

/-- Quoted identifiers and values, and dotted names in a dialect whose quote character is neither a
dot nor a star, are found again in front of any text that does not continue them. -/
theorem quoted_names_read_back (d : Dialect) (hdot : d.quote ≠ '.') (hstar : d.quote ≠ '*') :
    d.ReadsQuoted where
  identifier s t r := Text.Reader.run_quoted_eq_some_iff
  value s t r := Text.Reader.run_quoted_eq_some_iff
  name name hname r hr := Dialect.dottedName_wrap hdot hstar hname hr
  unambiguous a b ha hb r s hr hs := Dialect.wrap_append_eq_iff hdot hstar ha hb hr hs
  injective a b ha hb := by
    have hnil := Text.begins_nil fun c => c ≠ d.quote ∧ c ≠ '.'
    have h := Dialect.wrap_append_eq_iff hdot hstar ha hb hnil hnil
    rwa [List.append_nil, List.append_nil, String.toList_inj, and_iff_left rfl] at h

/-- Quote characters at the end of a part, before a dot and alone do not end a name early, a star
among the parts stays bare, and a name is not taken for one with more parts. -/
theorem quoted_names_read_back_custom :
    let d := Dialect.custom
    let name := "s\x60\x60.*.\x60"
    d.quote ≠ '.' ∧ d.quote ≠ '*' ∧
    Text.Reader.dottedName d.quote ((d.wrap name).toList ++ " = 1".toList) =
      some ([.quoted "s\x60\x60", .star, .quoted "\x60"], " = 1".toList) ∧
    d.wrap "a\x60.\x60b" ≠ d.wrap "a.b" := by
  intro d name
  have hdot : d.quote ≠ '.' := by decide
  have hstar : d.quote ≠ '*' := by decide
  have hreads := quoted_names_read_back d hdot hstar
  have hparts : nameParts name = [.quoted "s\x60\x60", .star, .quoted "\x60"] := by decide
  refine ⟨hdot, hstar, ?_, ?_⟩
  · rw [← hparts]
    exact hreads.name name (by decide) _ (Text.begins_cons.mpr (by decide))
  · rw [Ne, hreads.injective _ _ (by decide) (by decide)]
    decide

end SqlCompose
