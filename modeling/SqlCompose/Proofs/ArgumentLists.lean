import SqlCompose.Proofs.Refusals

/-!
# The language of call arguments

The meaning of an argument depends on its place, on what comes before it and on how
many there are. Said by places, a list of trailing arguments is empty, or a lone
value, or a value with a connective and an offset after it, each of which may be
missing; before the value, a text is the operator. The relations below say which lists
these are and what is read from them, and the reading of arguments one after the other
comes to the same: it accepts these lists and no others.
-/

namespace SqlCompose

/-! ## Words for connectives -/

namespace Text

theorem isLower_iff {c : Char} : c.isLower = true ↔ 97 ≤ c.toNat ∧ c.toNat ≤ 122 := by
  have hbetween : c.isLower = (decide (c.val ≥ 97) && decide (c.val ≤ 122)) := rfl
  simp [hbetween, UInt32.le_iff_toNat_le]

theorem toNat_toUpper {c : Char} (h : c.isLower = true) : c.toUpper.toNat = c.toNat - 32 := by
  obtain ⟨hlow, hhigh⟩ := isLower_iff.mp h
  unfold Char.toUpper
  rw [dif_pos (by simpa [UInt32.le_iff_toNat_le] using ⟨hlow, hhigh⟩)]
  simp only [Char.toNat, UInt32.toNat_add] at *
  simp
  omega

theorem toNat_toLower (c : Char) :
    c.toLower.toNat = if 65 ≤ c.toNat ∧ c.toNat ≤ 90 then c.toNat + 32 else c.toNat := by
  unfold Char.toLower
  simp only [Char.toNat, UInt32.le_iff_toNat_le, ge_iff_le]
  split_ifs with hcapital h h
  · simp at *
    omega
  · exact absurd hcapital h
  · exact absurd h hcapital
  · rfl

/-- A small letter is the lower case of itself and of its capital, and of nothing else. -/
theorem toLower_eq_iff {typed letter : Char} (h : letter.isLower = true) :
    typed.toLower = letter ↔ typed = letter ∨ typed = letter.toUpper := by
  obtain ⟨hlow, hhigh⟩ := isLower_iff.mp h
  simp only [← Char.toNat_inj, toNat_toLower, toNat_toUpper h]
  split_ifs <;> omega

end Text

namespace Connective

/-- A word for a connective, each letter small or capital. -/
def SpelledBy (c : Connective) (word : String) : Prop :=
  List.Forall₂ (fun typed letter => typed = letter ∨ typed = letter.toUpper)
    word.toList c.name.toList

theorem isLower_name (c : Connective) : ∀ letter ∈ c.name.toList, letter.isLower = true := by
  cases c <;> simp [name, Text.isLower_iff]

theorem map_toLower_eq_iff {word letters : List Char} (h : ∀ l ∈ letters, l.isLower = true) :
    word.map Char.toLower = letters ↔
      List.Forall₂ (fun typed letter => typed = letter ∨ typed = letter.toUpper) word letters := by
  induction letters generalizing word with
  | nil => simp
  | cons letter letters ih =>
    obtain ⟨hletter, hletters⟩ := List.forall_mem_cons.mp h
    cases word with
    | nil => simp
    | cons typed word =>
      rw [List.map_cons, List.cons.injEq, List.forall₂_cons, Text.toLower_eq_iff hletter,
        ih hletters]

theorem ofWord?_eq_some_iff {word : String} {c : Connective} :
    ofWord? word = some c ↔ c.SpelledBy word := by
  rw [SpelledBy, ← map_toLower_eq_iff c.isLower_name]
  constructor
  · intro h
    have hname := List.find?_some h
    exact eq_of_beq hname
  · intro h
    cases c with
    | and => simp [ofWord?, all, h]
    | or => simp [ofWord?, all, h, name]

theorem parse_eq_ok_iff {word : String} {c : Connective} :
    parse word = .ok c ↔ c.SpelledBy word := by
  rw [← ofWord?_eq_some_iff, parse]
  split <;> simp_all

end Connective

/-! ## Arguments by their places -/

/-- An argument in the place of a value. -/
inductive Arg.StandsFor : Arg → Operand → Prop
  | text (s : String) : StandsFor (.text s) (.value (.scalar (.text s)))
  | value (v : Value) : StandsFor (.value v) (.value v)
  | query (q : Subquery) : StandsFor (.query q) (.query q)

/-- The place of a connective, which may be left empty. -/
inductive Arg.MayJoin : List Arg → Option Connective → Prop
  | nothing : MayJoin [] none
  | word {c : Connective} {word : String} : c.SpelledBy word → MayJoin [.text word] (some c)

/-- The place of an offset, which may be left empty. -/
inductive Arg.MayMove : List Arg → Option Nat → Prop
  | nothing : MayMove [] none
  | offset (n : Nat) : MayMove [.offset n] (some n)

/-- The lists of trailing arguments, and what is read from each. -/
inductive Prepared.Reads (defaults : Options) : List Arg → Prepared → Prop
  | nothing : Reads defaults [] { options := defaults }
  | value {arg : Arg} {v : Operand} : arg.StandsFor v →
      Reads defaults [arg] { options := defaults, value := some v }
  | operator {arg : Arg} {v : Operand} {joint move : List Arg} {c : Option Connective}
      {n : Option Nat} (operator : String) :
      arg.StandsFor v → Arg.MayJoin joint c → Arg.MayMove move n →
      Reads defaults (.text operator :: arg :: (joint ++ move))
        { options := ⟨operator, c.getD defaults.connective, n.getD defaults.offset⟩
          value := some v
          hasOperator := true
          hasTail := c.isSome || n.isSome }
  | leading {arg : Arg} {v : Operand} {joint move : List Arg} {c : Option Connective}
      {n : Option Nat} :
      arg.StandsFor v → arg.kind ≠ .text → Arg.MayJoin joint c → Arg.MayMove move n →
      joint ++ move ≠ [] →
      Reads defaults (arg :: (joint ++ move))
        { options := ⟨defaults.operator, c.getD defaults.connective, n.getD defaults.offset⟩
          value := some v
          hasTail := c.isSome || n.isSome }

theorem Arg.toOperand_eq_ok_iff {arg : Arg} {v : Operand} :
    arg.toOperand = .ok v ↔ arg.StandsFor v := by
  constructor
  · intro h
    cases arg <;> cases h
    · exact .text _
    · exact .value _
    · exact .query _
  · rintro (_ | _ | _) <;> rfl

namespace Prepared

variable {p p' : Prepared} {args : List Arg}

theorem close_eq_ok_iff : p.close args = .ok p' ↔ args = [] ∧ p' = p := by
  cases args with
  | nil => simp [close, eq_comm]
  | cons arg args => simp [close]

theorem withOffset_eq_ok_iff :
    p.withOffset args = .ok p' ↔
      ∃ n, Arg.MayMove args n ∧
        p' = { p with
          options.offset := n.getD p.options.offset
          hasTail := p.hasTail || n.isSome } := by
  constructor
  · intro h
    unfold withOffset at h
    split at h
    · next n args =>
      obtain ⟨rfl, rfl⟩ := close_eq_ok_iff.mp h
      exact ⟨some n, .offset n, by simp⟩
    · obtain ⟨rfl, rfl⟩ := close_eq_ok_iff.mp h
      exact ⟨none, .nothing, by simp⟩
  · rintro ⟨n, hmove, rfl⟩
    cases hmove with
    | nothing => simp [withOffset, close]
    | offset n => simp [withOffset, close]

theorem withTail_eq_ok_iff :
    p.withTail args = .ok p' ↔
      ∃ joint move c n, args = joint ++ move ∧ Arg.MayJoin joint c ∧ Arg.MayMove move n ∧
        p' = { p with
          options.connective := c.getD p.options.connective
          options.offset := n.getD p.options.offset
          hasTail := p.hasTail || c.isSome || n.isSome } := by
  constructor
  · intro h
    unfold withTail at h
    split at h
    · next word args =>
      obtain ⟨c, hc, h⟩ := Except.bind_eq_ok_iff.mp h
      obtain ⟨n, hmove, rfl⟩ := withOffset_eq_ok_iff.mp h
      have hword := Connective.parse_eq_ok_iff.mp hc
      exact ⟨[.text word], args, some c, n, rfl, .word hword, hmove, by simp⟩
    · obtain ⟨n, hmove, rfl⟩ := withOffset_eq_ok_iff.mp h
      exact ⟨[], args, none, n, rfl, .nothing, hmove, by simp⟩
  · rintro ⟨joint, move, c, n, rfl, hjoin, hmove, rfl⟩
    cases hjoin with
    | nothing =>
      cases hmove with
      | nothing => simp [withTail, withOffset, close]
      | offset n => simp [withTail, withOffset, close]
    | word hword =>
      apply Except.bind_eq_ok_iff.mpr
      exact ⟨_, Connective.parse_eq_ok_iff.mpr hword,
        withOffset_eq_ok_iff.mpr ⟨n, hmove, by simp⟩⟩

/-- Before further arguments only a text is taken for an operator. -/
theorem ofArgs_cons (defaults : Options) {arg : Arg} (hkind : arg.kind ≠ .text)
    (hargs : args ≠ []) :
    ofArgs defaults (arg :: args) = (do
      let value ← arg.toOperand
      withTail { options := defaults, value } args) := by
  cases args with
  | nil => exact absurd rfl hargs
  | cons next args =>
    cases arg with
    | text s => exact absurd rfl hkind
    | _ => rfl

theorem reads_of_ofArgs {defaults : Options} (h : ofArgs defaults args = .ok p) :
    Reads defaults args p := by
  unfold ofArgs at h
  split at h
  · cases h
    exact .nothing
  · obtain ⟨v, hv, h⟩ := Except.bind_eq_ok_iff.mp h
    cases h
    exact .value (Arg.toOperand_eq_ok_iff.mp hv)
  · next operator arg args =>
    obtain ⟨v, hv, h⟩ := Except.bind_eq_ok_iff.mp h
    obtain ⟨joint, move, c, n, rfl, hjoin, hmove, rfl⟩ := withTail_eq_ok_iff.mp h
    exact .operator operator (Arg.toOperand_eq_ok_iff.mp hv) hjoin hmove
  · next arg args hlone htext =>
    obtain ⟨v, hv, h⟩ := Except.bind_eq_ok_iff.mp h
    obtain ⟨joint, move, c, n, rfl, hjoin, hmove, rfl⟩ := withTail_eq_ok_iff.mp h
    -- a text in front of further arguments is read as an operator, by the case before
    have hkind : arg.kind ≠ .text := by
      intro hk
      obtain ⟨next, rest, hrest⟩ := List.exists_cons_of_ne_nil hlone
      cases arg with
      | text operator => exact htext operator next rest rfl hrest
      | _ => cases hk
    exact .leading (Arg.toOperand_eq_ok_iff.mp hv) hkind hjoin hmove hlone

theorem Reads.ofArgs_eq {defaults : Options} (h : Reads defaults args p) :
    ofArgs defaults args = .ok p := by
  cases h with
  | nothing => rfl
  | value hv =>
    exact Except.bind_eq_ok_iff.mpr ⟨_, Arg.toOperand_eq_ok_iff.mpr hv, rfl⟩
  | @operator arg v joint move c n operator hv hjoin hmove =>
    refine Except.bind_eq_ok_iff.mpr ⟨v, Arg.toOperand_eq_ok_iff.mpr hv, ?_⟩
    exact withTail_eq_ok_iff.mpr ⟨joint, move, c, n, rfl, hjoin, hmove, rfl⟩
  | @leading arg v joint move c n hv hkind hjoin hmove hmore =>
    rw [ofArgs_cons defaults hkind hmore]
    refine Except.bind_eq_ok_iff.mpr ⟨v, Arg.toOperand_eq_ok_iff.mpr hv, ?_⟩
    exact withTail_eq_ok_iff.mpr ⟨joint, move, c, n, rfl, hjoin, hmove, rfl⟩

/-- Reading arguments one after the other reads them by their places. -/
theorem ofArgs_eq_ok_iff {defaults : Options} :
    ofArgs defaults args = .ok p ↔ Reads defaults args p :=
  ⟨reads_of_ofArgs, Reads.ofArgs_eq⟩

end Prepared

/-! ## Shapes of dynamic calls -/

/-- A first argument that names a column. -/
inductive Arg.Names : Arg → ColumnRef → Prop
  | name (text : String) : Names (.text text) (.name text)
  | raw (sql : String) : Names (.raw sql) (.raw sql)

/-- The comparison of a column by the parts that were given; a missing value is null. -/
inductive ColumnCall.GivenBy (column : ColumnRef) (p : Prepared) : ColumnCall → Prop
  | value : p.hasOperator = false → p.hasTail = false →
      GivenBy column p (.value column (p.value.getD (.value (.scalar .null))))
  | operatorValue : p.hasOperator = true → p.hasTail = false →
      GivenBy column p
        (.operatorValue column p.options.operator (p.value.getD (.value (.scalar .null))))
  | operatorValueConnective : p.hasTail = true →
      GivenBy column p (.operatorValueConnective column p.options.operator
        (p.value.getD (.value (.scalar .null))) p.options.connective p.options.offset)

/-- A callback with no comparison after it. -/
def Subquery.Groups (q : Subquery) (args : List Arg) : Prop :=
  (∃ run, q = .callback run) ∧ ∃ c, Arg.MayJoin args c

/-- The arguments of dynamic calls, and the shape of each call. -/
inductive Shape.Reads (defaults : Options) : Arg → List Arg → Shape → Prop
  | conditions (cs : List Condition) {args : List Arg} {c : Option Connective} :
      Arg.MayJoin args c →
      Reads defaults (.conditions cs) args (.conditions cs (c.getD defaults.connective))
  | group (run : Build Unit) {args : List Arg} {c : Option Connective} : Arg.MayJoin args c →
      Reads defaults (.query (.callback run)) args (.group run (c.getD defaults.connective))
  | subquery {q : Subquery} {args : List Arg} {p : Prepared} {v : Operand} :
      ¬ q.Groups args → args ≠ [] → Prepared.Reads defaults args p → p.value = some v →
      Reads defaults (.query q) args (.subquery q p.options.operator v p.options.connective)
  | column {first : Arg} {column : ColumnRef} {args : List Arg} {p : Prepared}
      {call : ColumnCall} :
      first.Names column → Prepared.Reads defaults args p → call.GivenBy column p →
      Reads defaults first args (.column call)

/-- Only the empty list leaves the value out. -/
theorem Prepared.Reads.exists_value {defaults : Options} {args : List Arg} {p : Prepared}
    (h : Reads defaults args p) (hargs : args ≠ []) : ∃ v, p.value = some v := by
  cases h with
  | nothing => exact absurd rfl hargs
  | value _ => exact ⟨_, rfl⟩
  | operator _ _ _ _ => exact ⟨_, rfl⟩
  | leading _ _ _ _ _ => exact ⟨_, rfl⟩

theorem ColumnCall.ofArgs_eq_ok_iff {defaults : Options} {column : ColumnRef} {args : List Arg}
    {call : ColumnCall} :
    ofArgs defaults column args = .ok call ↔
      ∃ p, Prepared.Reads defaults args p ∧ call.GivenBy column p := by
  constructor
  · intro h
    obtain ⟨p, hp, h⟩ := Except.bind_eq_ok_iff.mp h
    refine ⟨p, Prepared.ofArgs_eq_ok_iff.mp hp, ?_⟩
    cases h
    split_ifs with htail hoperator
    · exact .operatorValueConnective htail
    · exact .operatorValue hoperator (by simpa using htail)
    · exact .value (by simpa using hoperator) (by simpa using htail)
  · rintro ⟨p, hp, hcall⟩
    refine Except.bind_eq_ok_iff.mpr ⟨p, Prepared.ofArgs_eq_ok_iff.mpr hp, ?_⟩
    cases hcall with
    | value hoperator htail => simp [hoperator, htail, pure, Except.pure]
    | operatorValue hoperator htail => simp [hoperator, htail, pure, Except.pure]
    | operatorValueConnective htail => simp [htail, pure, Except.pure]

namespace Shape

variable {defaults : Options} {args : List Arg} {s : Shape}

theorem connectiveOnly_eq_ok_iff {fallback c : Connective} :
    connectiveOnly fallback args = .ok c ↔
      ∃ c', Arg.MayJoin args c' ∧ c = c'.getD fallback := by
  constructor
  · intro h
    unfold connectiveOnly at h
    split at h
    · cases h
      exact ⟨none, .nothing, rfl⟩
    · next word args =>
      obtain ⟨c', hc, h⟩ := Except.bind_eq_ok_iff.mp h
      split_ifs at h with hempty
      · cases h
        rw [List.isEmpty_iff.mp hempty]
        exact ⟨some c, .word (Connective.parse_eq_ok_iff.mp hc), rfl⟩
    · cases h
  · rintro ⟨c', hjoin, rfl⟩
    cases hjoin with
    | nothing => rfl
    | word hword =>
      exact Except.bind_eq_ok_iff.mpr ⟨_, Connective.parse_eq_ok_iff.mpr hword, rfl⟩

theorem isGroupTail_iff : isGroupTail args = true ↔ ∃ c, Arg.MayJoin args c := by
  constructor
  · intro h
    unfold isGroupTail at h
    split at h
    · exact ⟨none, .nothing⟩
    · obtain ⟨c, hc⟩ := Option.isSome_iff_exists.mp h
      exact ⟨some c, .word (Connective.ofWord?_eq_some_iff.mp hc)⟩
    · cases h
  · rintro ⟨c, hjoin⟩
    cases hjoin with
    | nothing => rfl
    | word hword =>
      exact Option.isSome_iff_exists.mpr ⟨_, Connective.ofWord?_eq_some_iff.mpr hword⟩

theorem comparison_eq_ok_iff {q : Subquery} :
    comparison defaults q args = .ok s ↔
      ∃ p v, args ≠ [] ∧ Prepared.Reads defaults args p ∧ p.value = some v ∧
        s = .subquery q p.options.operator v p.options.connective := by
  unfold comparison
  constructor
  · intro h
    split_ifs at h with hempty
    · cases h
    · obtain ⟨p, hp, h⟩ := Except.bind_eq_ok_iff.mp h
      cases h
      have hargs : args ≠ [] := by simpa using hempty
      have hreads := Prepared.ofArgs_eq_ok_iff.mp hp
      obtain ⟨v, hv⟩ := hreads.exists_value hargs
      exact ⟨p, v, hargs, hreads, hv, by rw [hv, Option.getD_some]⟩
  · rintro ⟨p, v, hargs, hp, hv, rfl⟩
    rw [if_neg (by simpa using hargs)]
    refine Except.bind_eq_ok_iff.mpr ⟨p, Prepared.ofArgs_eq_ok_iff.mpr hp, ?_⟩
    rw [hv]
    rfl

theorem columnOfArgs_eq_ok_iff {column : ColumnRef} :
    (ColumnCall.ofArgs defaults column args).map .column = .ok s ↔
      ∃ p call, Prepared.Reads defaults args p ∧ call.GivenBy column p ∧ s = .column call := by
  simp only [Except.map_eq_ok_iff, ColumnCall.ofArgs_eq_ok_iff]
  constructor
  · rintro ⟨call, ⟨p, hp, hcall⟩, rfl⟩
    exact ⟨p, call, hp, hcall, rfl⟩
  · rintro ⟨p, call, hp, hcall, rfl⟩
    exact ⟨call, ⟨p, hp, hcall⟩, rfl⟩

/-- What may be followed by a connective alone: a list of conditions, and the callback of a
group. -/
theorem joinedOfArgs_eq_ok_iff {fallback : Connective} {shape : Connective → Shape} :
    (connectiveOnly fallback args).map shape = .ok s ↔
      ∃ c, Arg.MayJoin args c ∧ s = shape (c.getD fallback) := by
  simp only [Except.map_eq_ok_iff, connectiveOnly_eq_ok_iff]
  constructor
  · rintro ⟨_, ⟨c, hjoin, rfl⟩, rfl⟩
    exact ⟨c, hjoin, rfl⟩
  · rintro ⟨c, hjoin, rfl⟩
    exact ⟨_, ⟨c, hjoin, rfl⟩, rfl⟩

theorem reads_of_ofArgs {first : Arg} (h : ofArgs defaults first args = .ok s) :
    Reads defaults first args s := by
  unfold ofArgs at h
  split at h
  · next cs =>
    obtain ⟨c, hjoin, rfl⟩ := joinedOfArgs_eq_ok_iff.mp h
    exact .conditions cs hjoin
  · next run =>
    split_ifs at h with htail
    · obtain ⟨c, hjoin, rfl⟩ := joinedOfArgs_eq_ok_iff.mp h
      exact .group run hjoin
    · obtain ⟨p, v, hargs, hp, hv, rfl⟩ := comparison_eq_ok_iff.mp h
      refine .subquery ?_ hargs hp hv
      rintro ⟨-, hjoin⟩
      exact htail (isGroupTail_iff.mpr hjoin)
  · next q hq =>
    obtain ⟨p, v, hargs, hp, hv, rfl⟩ := comparison_eq_ok_iff.mp h
    refine .subquery ?_ hargs hp hv
    rintro ⟨⟨run, rfl⟩, -⟩
    exact hq run rfl
  · next text =>
    obtain ⟨p, call, hp, hcall, rfl⟩ := columnOfArgs_eq_ok_iff.mp h
    exact .column (.name text) hp hcall
  · next sql =>
    obtain ⟨p, call, hp, hcall, rfl⟩ := columnOfArgs_eq_ok_iff.mp h
    exact .column (.raw sql) hp hcall
  · cases h
  · cases h

/-- A sub-query that makes no group is compared. -/
theorem ofArgs_query {q : Subquery} (h : ¬ q.Groups args) :
    ofArgs defaults (.query q) args = comparison defaults q args := by
  cases q with
  | raw sql => rfl
  | builder child => rfl
  | callback run =>
    have htail : ¬ isGroupTail args = true := by
      intro htail
      exact h ⟨⟨run, rfl⟩, isGroupTail_iff.mp htail⟩
    rw [ofArgs, if_neg htail]

theorem Reads.ofArgs_eq {first : Arg} (h : Reads defaults first args s) :
    ofArgs defaults first args = .ok s := by
  cases h with
  | @conditions cs args c hjoin => exact joinedOfArgs_eq_ok_iff.mpr ⟨c, hjoin, rfl⟩
  | @group run args c hjoin =>
    rw [ofArgs, if_pos (isGroupTail_iff.mpr ⟨c, hjoin⟩)]
    exact joinedOfArgs_eq_ok_iff.mpr ⟨c, hjoin, rfl⟩
  | @subquery q args p v hgroups hargs hp hv =>
    rw [ofArgs_query hgroups]
    exact comparison_eq_ok_iff.mpr ⟨p, v, hargs, hp, hv, rfl⟩
  | @column first column args p call hfirst hp hcall =>
    cases hfirst with
    | name text => exact columnOfArgs_eq_ok_iff.mpr ⟨p, call, hp, hcall, rfl⟩
    | raw sql => exact columnOfArgs_eq_ok_iff.mpr ⟨p, call, hp, hcall, rfl⟩

/-- The shape of a dynamic call is read by the places of its arguments. -/
theorem ofArgs_eq_ok_iff {first : Arg} :
    ofArgs defaults first args = .ok s ↔ Reads defaults first args s :=
  ⟨reads_of_ofArgs, Reads.ofArgs_eq⟩

end Shape

/-- A result is reached exactly where a relation says what it is; all else is refused, for its
arguments. -/
def AcceptsExactly {α : Type} (result : Except Error α) (accepted : α → Prop) : Prop :=
  (∀ a, result = .ok a ↔ accepted a) ∧
    ((∀ a, ¬ accepted a) ↔ ∃ e, result = .error e ∧ e.kind = .classification)

theorem AcceptsExactly.of_iff {α : Type} {result : Except Error α} {accepted : α → Prop}
    (h : ∀ a, result = .ok a ↔ accepted a) (hc : OnlyClassifies result) :
    AcceptsExactly result accepted := by
  refine ⟨h, ?_⟩
  cases result with
  | error e =>
    constructor
    · intro _
      exact ⟨e, rfl, hc e rfl⟩
    · rintro - a ha
      cases (h a).mpr ha
  | ok a =>
    constructor
    · intro hnone
      exact absurd ((h a).mp rfl) (hnone a)
    · rintro ⟨e, he, -⟩
      cases he

/-- Whatever the options of a builder, the lists of trailing arguments that are read are those of
the language, each with the meaning that the places of its arguments give it, and so are the
arguments of dynamic calls with the shapes of the calls. All others are refused for what they
are. -/
theorem arguments_read_by_place (defaults : Options) :
    (∀ args, AcceptsExactly (Prepared.ofArgs defaults args) (Prepared.Reads defaults args)) ∧
    ∀ first args, AcceptsExactly (Shape.ofArgs defaults first args)
      (Shape.Reads defaults first args) := by
  constructor
  · intro args
    exact .of_iff (fun _ => Prepared.ofArgs_eq_ok_iff) (Prepared.onlyClassifies_ofArgs defaults args)
  · intro first args
    exact .of_iff (fun _ => Shape.ofArgs_eq_ok_iff) (Shape.onlyClassifies_ofArgs defaults first args)

example :
    Prepared.ofArgs {} [.text ">", .value (.scalar (.int 5)), .text "oR", .offset 3] =
      .ok { options := ⟨">", .or, 3⟩, value := some (.value (.scalar (.int 5))),
            hasOperator := true, hasTail := true } := rfl

end SqlCompose
