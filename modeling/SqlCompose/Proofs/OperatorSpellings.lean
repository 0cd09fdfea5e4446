import SqlCompose.Proofs.ArgumentLists
import SqlCompose.Proofs.Operators
import SqlCompose.Proofs.Validation

/-!
# Spellings of operators

An operator is looked up by its lower case under the full rules of the character set,
and written as it was typed. One character outside ASCII has a lower case within it:
the sign for kelvin, whose lower case is the letter k. So a listed operator reaches the
statement in any case of its letters, and with kelvin signs in place of the letter k.
-/

namespace SqlCompose

namespace Text

/-- The sign for kelvin, a character of its own that is drawn like a capital K. -/
def kelvin : Char := Char.ofNat 0x212A

/-- An ASCII character that is not a capital letter. -/
def IsPlain (c : Char) : Prop :=
  c.toNat < 128 ∧ c.toLower = c

instance : DecidablePred IsPlain := fun _ => inferInstanceAs (Decidable (_ ∧ _))

/-- A text that is in lower case and within ASCII. -/
def AllPlain (s : String) : Prop :=
  ∀ c ∈ s.toList, IsPlain c

-- the list is what is searched, as there are instances that search all characters
instance : DecidablePred AllPlain := fun s => List.decidableBAll IsPlain s.toList

/-- A character is a letter up to ASCII case, or the sign for kelvin in place of a k. -/
def StandsFor (typed letter : Char) : Prop :=
  typed.toLower = letter ∨ typed = kelvin ∧ letter = 'k'

/-- A text spells another one, character by character. -/
def Spells (typed listed : String) : Prop :=
  List.Forall₂ StandsFor typed.toList listed.toList

/-- Two texts differ at most in the case of their ASCII letters. -/
def SameUpToCase (s t : String) : Prop :=
  s.toList.map Char.toLower = t.toList.map Char.toLower

instance (s t : String) : Decidable (SameUpToCase s t) :=
  inferInstanceAs (Decidable (_ = _))

/-! ## Lower cases within ASCII -/

namespace CaseTable

/-- The lower case of every code point of the run is a character outside ASCII. -/
def LowerRun.LeavesAscii (run : LowerRun) : Prop :=
  128 ≤ run.first + run.shift ∧
    (run.last + run.shift < 0xD800 ∨
      0xDFFF < run.first + run.shift ∧ run.last + run.shift < 0x110000)

instance (run : LowerRun) : Decidable run.LeavesAscii :=
  inferInstanceAs (Decidable (_ ∧ _))

theorem lowerRuns_cases : ∀ run ∈ lowerRuns,
    run.last < 128 ∨ run.first = 0x212A ∧ run.last = 0x212A ∨ run.LeavesAscii := by
  decide +kernel

theorem toNat_ofNat {code : Nat} (h : code.isValidChar) : (Char.ofNat code).toNat = code := by
  rw [Char.ofNat, dif_pos h]
  rfl

theorem LowerRun.lowered?_eq_some_iff {run : LowerRun} {code lowered : Nat} :
    run.lowered? code = some lowered ↔
      (run.first ≤ code ∧ code ≤ run.last ∧ (code - run.first) % run.step = 0) ∧
        lowered = (code + run.shift).toNat := by
  simp [lowered?, eq_comm]

theorem LowerRun.LeavesAscii.le_toNat {run : LowerRun} (h : run.LeavesAscii) {code lowered : Nat}
    (hlowered : run.lowered? code = some lowered) : 128 ≤ (Char.ofNat lowered).toNat := by
  obtain ⟨⟨hfirst, hlast, -⟩, rfl⟩ := lowered?_eq_some_iff.mp hlowered
  obtain ⟨hlow, hvalid⟩ := h
  have hchar : (code + run.shift).toNat.isValidChar := by
    unfold Nat.isValidChar
    omega
  rw [toNat_ofNat hchar]
  omega

end CaseTable

theorem exists_mem_lowerChar {c : Char} (hc : 128 ≤ c.toNat) (hkelvin : c ≠ kelvin) :
    ∃ x ∈ lowerChar c, 128 ≤ x.toNat := by
  have hcode : c.toNat ≠ 0x212A := fun h => hkelvin (Char.toNat_inj.mp h)
  unfold lowerChar
  rw [if_neg (by omega)]
  split
  · exact ⟨Char.ofNat 0x307, by simp, by decide⟩
  · split
    · next code hfound =>
      obtain ⟨run, hrun, hlowered⟩ := List.exists_of_findSome?_eq_some hfound
      obtain ⟨⟨hfirst, hlast, -⟩, -⟩ := CaseTable.LowerRun.lowered?_eq_some_iff.mp hlowered
      rcases CaseTable.lowerRuns_cases run hrun with h | h | h
      · omega
      · omega
      · exact ⟨_, List.mem_singleton.mpr rfl, h.le_toNat hlowered⟩
    · exact ⟨c, List.mem_singleton.mpr rfl, hc⟩

theorem lowerAfter_ascii_cons {c : Char} (hc : c.toNat < 128) (before cs : List Char) :
    lowerAfter before (c :: cs) = c.toLower :: lowerAfter (c :: before) cs := by
  have hsigma : c.toNat ≠ 0x3A3 := by omega
  simp [lowerAfter, lowerChar, hsigma, hc]

theorem lowerAfter_kelvin_cons (before cs : List Char) :
    lowerAfter before (kelvin :: cs) = 'k' :: lowerAfter (kelvin :: before) cs := by
  have hlower : lowerChar kelvin = ['k'] := by decide
  have hsigma : kelvin.toNat ≠ 0x3A3 := by decide
  simp [lowerAfter, hlower, hsigma]

/-- Every other character leaves one outside ASCII behind. -/
theorem exists_mem_lowerAfter_cons {c : Char} (hc : 128 ≤ c.toNat) (hkelvin : c ≠ kelvin)
    (before cs : List Char) : ∃ x ∈ lowerAfter before (c :: cs), 128 ≤ x.toNat := by
  rw [lowerAfter]
  split
  · refine ⟨_, List.mem_append_left _ (List.mem_singleton.mpr rfl), ?_⟩
    split <;> decide
  · obtain ⟨x, hx, hascii⟩ := exists_mem_lowerChar hc hkelvin
    exact ⟨x, List.mem_append_left _ hx, hascii⟩

/-! ## Spellings of a plain text -/

theorem toLower_of_not_ascii {c : Char} (hc : 128 ≤ c.toNat) : c.toLower = c := by
  rw [← Char.toNat_inj, toNat_toLower, if_neg (by omega)]

theorem not_isPlain_kelvin : ¬ IsPlain kelvin := by
  decide

theorem standsFor_of_ascii {typed letter : Char} (h : typed.toNat < 128) :
    StandsFor typed letter ↔ typed.toLower = letter := by
  have hkelvin : typed ≠ kelvin := by
    rintro rfl
    exact absurd h (by decide)
  simp [StandsFor, hkelvin]

theorem standsFor_kelvin {letter : Char} (h : IsPlain letter) :
    StandsFor kelvin letter ↔ letter = 'k' := by
  have hlower : kelvin.toLower ≠ letter := by
    rintro rfl
    exact absurd h (by decide)
  simp [StandsFor, hlower]

theorem not_standsFor_of_not_ascii {typed letter : Char} (htyped : 128 ≤ typed.toNat)
    (hkelvin : typed ≠ kelvin) (h : IsPlain letter) : ¬ StandsFor typed letter := by
  rintro (hlower | ⟨rfl, -⟩)
  · rw [toLower_of_not_ascii htyped] at hlower
    subst hlower
    exact absurd h.1 (by omega)
  · exact hkelvin rfl

/-- A plain text is the lower case of its spellings and of nothing else. -/
theorem lowerAfter_eq_iff {letters : List Char} (hplain : ∀ letter ∈ letters, IsPlain letter)
    {before typed : List Char} :
    lowerAfter before typed = letters ↔ List.Forall₂ StandsFor typed letters := by
  induction typed generalizing before letters with
  | nil => simp [lowerAfter, eq_comm]
  | cons c cs ih =>
    by_cases hascii : c.toNat < 128
    · rw [lowerAfter_ascii_cons hascii]
      cases letters with
      | nil => simp
      | cons letter letters =>
        obtain ⟨-, hplain⟩ := List.forall_mem_cons.mp hplain
        rw [List.cons.injEq, List.forall₂_cons, ih hplain, standsFor_of_ascii hascii]
    by_cases hkelvin : c = kelvin
    · subst hkelvin
      rw [lowerAfter_kelvin_cons]
      cases letters with
      | nil => simp
      | cons letter letters =>
        obtain ⟨hletter, hplain⟩ := List.forall_mem_cons.mp hplain
        rw [List.cons.injEq, List.forall₂_cons, ih hplain, standsFor_kelvin hletter, eq_comm]
    · have hbeyond : 128 ≤ c.toNat := Nat.le_of_not_lt hascii
      constructor
      · rintro rfl
        obtain ⟨x, hx, hxascii⟩ := exists_mem_lowerAfter_cons hbeyond hkelvin before cs
        exact absurd (hplain x hx).1 (by omega)
      · intro h
        cases h with
        | cons hc hcs =>
          exact absurd hc (not_standsFor_of_not_ascii hbeyond hkelvin (hplain _ (by simp)))

theorem lower_eq_iff {typed listed : String} (hplain : AllPlain listed) :
    lower typed = listed ↔ Spells typed listed := by
  rw [← String.toList_inj, toList_lower, lowerAfter_eq_iff hplain, Spells]

theorem map_toLower_of_isPlain {letters : List Char} (h : ∀ letter ∈ letters, IsPlain letter) :
    letters.map Char.toLower = letters :=
  List.map_congr_left (fun letter hl => (h letter hl).2) |>.trans (List.map_id letters)

/-- Without the sign for kelvin a spelling differs in case only. -/
theorem Spells.sameUpToCase {typed listed : String} (hplain : AllPlain listed)
    (h : Spells typed listed) (hkelvin : kelvin ∉ typed.toList) : SameUpToCase typed listed := by
  rw [SameUpToCase, map_toLower_of_isPlain hplain]
  rw [AllPlain] at hplain
  rw [Spells] at h
  generalize typed.toList = cs at *
  generalize listed.toList = letters at *
  induction h with
  | nil => rfl
  | cons hc hcs ih =>
    rw [List.mem_cons, not_or] at hkelvin
    obtain ⟨-, hplain⟩ := List.forall_mem_cons.mp hplain
    rcases hc with hc | ⟨rfl, -⟩
    · rw [List.map_cons, hc, ih hkelvin.2 hplain]
    · exact absurd rfl hkelvin.1

/-- With it, it differs from every plain text in more than that. -/
theorem not_sameUpToCase {typed listed : String} (hplain : AllPlain listed)
    (hkelvin : kelvin ∈ typed.toList) : ¬ SameUpToCase typed listed := by
  intro h
  rw [SameUpToCase, map_toLower_of_isPlain hplain] at h
  have hmem : kelvin.toLower ∈ listed.toList := h ▸ List.mem_map_of_mem hkelvin
  exact not_isPlain_kelvin (hplain _ hmem)

/-- A text with kelvin signs for its letters k. -/
def withKelvin (s : String) : String :=
  String.ofList (s.toList.map fun c => if c = 'k' then kelvin else c)

theorem spells_withKelvin {listed : String} (hplain : AllPlain listed) :
    Spells (withKelvin listed) listed := by
  rw [Spells, withKelvin, String.toList_ofList, List.forall₂_map_left_iff, List.forall₂_same]
  intro letter hl
  split
  · next h => exact .inr ⟨rfl, h⟩
  · exact .inl (hplain letter hl).2

theorem kelvin_mem_withKelvin {listed : String} (h : 'k' ∈ listed.toList) :
    kelvin ∈ (withKelvin listed).toList := by
  rw [withKelvin, String.toList_ofList]
  exact List.mem_map.mpr ⟨'k', h, if_pos rfl⟩

end Text

open Text (AllPlain Spells SameUpToCase kelvin)

/-! ## Operators of a dialect -/

namespace Dialect

/-- The operators that a dialect knows: those of every dialect and its own. -/
def listed (d : Dialect) : List String :=
  genericOperators ++ d.operators

/-- The operators of its own are in lower case and within ASCII. -/
def ListsPlain (d : Dialect) : Prop :=
  ∀ operator ∈ d.operators, AllPlain operator

instance : DecidablePred ListsPlain := fun d => List.decidableBAll AllPlain d.operators

theorem allPlain_genericOperators : ∀ operator ∈ genericOperators, AllPlain operator := by
  decide

variable {d : Dialect}

theorem ListsPlain.allPlain (hd : d.ListsPlain) : ∀ operator ∈ d.listed, AllPlain operator := by
  intro operator ho
  rcases List.mem_append.mp ho with ho | ho
  · exact allPlain_genericOperators operator ho
  · exact hd operator ho

theorem isOperator_iff_mem_listed {operator : String} :
    d.isOperator operator = true ↔ Text.lower operator ∈ d.listed := by
  simp [isOperator, listed]

/-- The accepted operators are the spellings of those listed. -/
theorem ListsPlain.isOperator_iff (hd : d.ListsPlain) {operator : String} :
    d.isOperator operator = true ↔ ∃ listed ∈ d.listed, Spells operator listed := by
  rw [isOperator_iff_mem_listed]
  constructor
  · intro h
    exact ⟨_, h, (Text.lower_eq_iff (hd.allPlain _ h)).mp rfl⟩
  · rintro ⟨listed, hlisted, h⟩
    rwa [(Text.lower_eq_iff (hd.allPlain _ hlisted)).mpr h]

theorem ListsPlain.exists_sameUpToCase_iff (hd : d.ListsPlain) {operator : String}
    (h : d.isOperator operator = true) :
    (∃ listed ∈ d.listed, SameUpToCase operator listed) ↔ kelvin ∉ operator.toList := by
  constructor
  · rintro ⟨listed, hlisted, hsame⟩ hkelvin
    exact Text.not_sameUpToCase (hd.allPlain _ hlisted) hkelvin hsame
  · intro hkelvin
    obtain ⟨listed, hlisted, hspells⟩ := hd.isOperator_iff.mp h
    exact ⟨listed, hlisted, hspells.sameUpToCase (hd.allPlain _ hlisted) hkelvin⟩

end Dialect

/-- A rendering succeeds exactly if all operators are those of the dialect. -/
theorem Query.render_eq_ok_iff {d : Dialect} {q : Query} {n m : Nat} {text : String} :
    q.render d n = .ok (text, m) ↔
      (∀ operator ∈ q.operators, d.isOperator operator = true) ∧
        text = Fragment.write d.placeholder (q.fragments d) n ∧ m = n + q.values.length := by
  rw [q.render_eq_find d n]
  cases hfind : q.operators.find? (!d.isOperator ·) with
  | none =>
    have hall : ∀ operator ∈ q.operators, d.isOperator operator = true := by
      simpa using hfind
    constructor
    · rintro ⟨⟩
      exact ⟨hall, rfl, rfl⟩
    · rintro ⟨-, rfl, rfl⟩
      rfl
  | some operator =>
    have hmem := List.mem_of_find?_eq_some hfind
    have hbad := List.find?_some hfind
    refine iff_of_false nofun ?_
    rintro ⟨hall, -⟩
    simp [hall operator hmem] at hbad

theorem Query.exists_render_iff (d : Dialect) (q : Query) (n : Nat) :
    (∃ text m, q.render d n = .ok (text, m)) ↔
      ∀ operator ∈ q.operators, d.isOperator operator = true := by
  constructor
  · rintro ⟨text, m, h⟩
    exact (render_eq_ok_iff.mp h).1
  · intro h
    exact ⟨_, _, render_eq_ok_iff.mpr ⟨h, rfl, rfl⟩⟩

/-- What may stand in the place of an operator in a statement: a statement is written exactly if
every operator in it, at whatever depth, is a spelling of a listed one. It is then written
letter for letter, and is a listed operator up to the case of ASCII letters exactly if it holds
no sign for kelvin. Every listed operator with a letter k is accepted in a spelling that no
listed operator equals up to case. -/
theorem written_operators_spell_listed (d : Dialect) (hd : d.ListsPlain) (q : Query) (n : Nat) :
    ((∃ text m, q.render d n = .ok (text, m)) ↔
      ∀ q' ∈ q :: q.embedded, ∀ operator, q'.Uses operator →
        ∃ listed ∈ d.listed, Spells operator listed) ∧
    (∀ text m, q.render d n = .ok (text, m) →
      text = Fragment.write d.placeholder (q.fragments d) n ∧
      ∀ operator ∈ Fragment.operators (q.fragments d),
        (∃ listed ∈ d.listed, Spells operator listed) ∧
        ((∃ listed ∈ d.listed, SameUpToCase operator listed) ↔ kelvin ∉ operator.toList)) ∧
    ∀ listed ∈ d.listed, 'k' ∈ listed.toList →
      ∃ operator, Spells operator listed ∧ d.isOperator operator = true ∧
        ¬ ∃ other ∈ d.listed, SameUpToCase operator other := by
  refine ⟨?_, ?_, ?_⟩
  · rw [q.exists_render_iff d n]
    constructor
    · intro h q' hq' operator ho
      exact hd.isOperator_iff.mp (h operator (q.mem_operators.mpr ⟨q', hq', ho⟩))
    · intro h operator ho
      obtain ⟨q', hq', ho⟩ := q.mem_operators.mp ho
      exact hd.isOperator_iff.mpr (h q' hq' operator ho)
  · intro text m h
    obtain ⟨hoperators, htext, -⟩ := Query.render_eq_ok_iff.mp h
    refine ⟨htext, fun operator ho => ?_⟩
    have hoperator := hoperators operator ((q.perm_operators d).mem_iff.mp ho)
    exact ⟨hd.isOperator_iff.mp hoperator, hd.exists_sameUpToCase_iff hoperator⟩
  · intro listed hlisted hk
    have hplain := hd.allPlain _ hlisted
    have hspells := Text.spells_withKelvin hplain
    have hoperator := hd.isOperator_iff.mpr ⟨listed, hlisted, hspells⟩
    refine ⟨_, hspells, hoperator, ?_⟩
    rw [hd.exists_sameUpToCase_iff hoperator, not_not]
    exact Text.kelvin_mem_withKelvin hk

/-- A third dialect with operators of its own, in a group and in a sub-select of a column. The
operator with the sign for kelvin is written, the one with a dotted capital I is refused. -/
theorem written_operators_spell_listed_custom :
    let d : Dialect := { Dialect.custom with operators := ["walks to"] }
    let walks : Query := {
      clauses := [⟨.and, .compare (.name "a") "WalKs To" (.scalar (.int 5)) 1⟩] }
    let q (operator : String) : Query := {
      clauses := [⟨.and, .group {
        clauses := [⟨.or, .compare (.subquery walks) operator (.scalar (.int 6)) 1⟩] }⟩] }
    d.ListsPlain ∧
    (∃ text m, (q "LI\u212AE").render d 0 = .ok (text, m)) ∧
    (q "L\u0130KE").render d 0 = .error (.invalidOperator "L\u0130KE") ∧
    (¬ ∃ listed ∈ d.listed, SameUpToCase "LI\u212AE" listed) ∧
    ∃ listed ∈ d.listed, SameUpToCase "WalKs To" listed := by
  intro d walks q
  have hd : d.ListsPlain := by decide
  have hdotted : (q "L\u0130KE").render d 0 = .error (.invalidOperator "L\u0130KE") := rfl
  obtain ⟨-, hwritten, -⟩ := written_operators_spell_listed d hd (q "LI\u212AE") 0
  obtain ⟨text, m, h⟩ : ∃ text m, (q "LI\u212AE").render d 0 = .ok (text, m) := ⟨_, _, rfl⟩
  have hoperators : Fragment.operators ((q "LI\u212AE").fragments d) =
      ["WalKs To", "LI\u212AE"] := rfl
  obtain ⟨-, hspelled⟩ := hwritten text m h
  rw [hoperators] at hspelled
  refine ⟨hd, ⟨text, m, h⟩, hdotted, ?_, ?_⟩
  · rw [(hspelled "LI\u212AE" (by simp)).2, not_not]
    decide
  · rw [(hspelled "WalKs To" (by simp)).2]
    decide

/-- With the sign for kelvin in its place the letter of LIKE is accepted and written by every
dialect, and the text is no listed operator up to case. -/
theorem kelvin_reaches_statement :
    let q : Query := {
      table := some "t"
      clauses := [⟨.and, .compare (.name "a") "LI\u212AE" (.scalar (.int 1)) 1⟩] }
    q.toSql .postgresql = .ok "SELECT * FROM \x22t\x22 WHERE \x22a\x22 LI\u212AE $1" ∧
    q.toSql .sqlite = .ok "SELECT * FROM \x22t\x22 WHERE \x22a\x22 LI\u212AE ?" ∧
    q.toSql .custom = .ok "SELECT * FROM \x60t\x60 WHERE \x60a\x60 LI\u212AE :p1" ∧
    ∀ d ∈ [Dialect.postgresql, .sqlite, .custom],
      d.ListsPlain ∧ ¬ ∃ listed ∈ d.listed, SameUpToCase "LI\u212AE" listed :=
  ⟨by decide +kernel, by decide +kernel, by decide +kernel, by decide +kernel⟩

end SqlCompose
