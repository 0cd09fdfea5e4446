import SqlCompose.Proofs.ArgumentLists
import SqlCompose.Proofs.Atomicity

/-!
# Positional and typed calls

A typed call has its shape by its name, a positional call by its arguments. What is
left out of a call is filled in twice, from the same options: when the arguments are
read, and again when a shape without these parts is carried out. So it makes no
difference which of the three shapes of a column is picked, and every typed call has
positional forms that do the same.
-/

namespace SqlCompose

namespace Prepared

/-- The comparison of a column with every part as it was read; a missing value is null. -/
def full (p : Prepared) (column : ColumnRef) : ColumnCall :=
  .operatorValueConnective column p.options.operator (p.value.getD (.value (.scalar .null)))
    p.options.connective p.options.offset

namespace Reads

variable {defaults : Options} {args : List Arg} {p : Prepared} (h : Reads defaults args p)
include h

/-- An operator that was not given is the default one. -/
theorem operator_eq (hoperator : p.hasOperator = false) :
    p.options.operator = defaults.operator := by
  cases h with
  | nothing => rfl
  | value _ => rfl
  | operator _ _ _ _ => cases hoperator
  | leading _ _ _ _ _ => rfl

/-- Where neither a connective nor an offset was given, both are the default ones. -/
theorem tail_eq (htail : p.hasTail = false) :
    p.options.connective = defaults.connective ∧ p.options.offset = defaults.offset := by
  have hdefault : ∀ {c : Option Connective} {n : Option Nat}, (c.isSome || n.isSome) = false →
      c.getD defaults.connective = defaults.connective ∧
        n.getD defaults.offset = defaults.offset := by
    intro c n hcn
    obtain ⟨hc, hn⟩ := Bool.or_eq_false_iff.mp hcn
    rw [Option.isSome_eq_false_iff, Option.isNone_iff_eq_none] at hc hn
    rw [hc, hn]
    exact ⟨rfl, rfl⟩
  cases h with
  | nothing => exact ⟨rfl, rfl⟩
  | value _ => exact ⟨rfl, rfl⟩
  | operator _ _ _ _ => exact hdefault htail
  | leading _ _ _ _ _ => exact hdefault htail

end Reads

end Prepared

/-! ## The three shapes of a column -/

theorem ColumnCall.exists_givenBy (column : ColumnRef) (p : Prepared) :
    ∃ call : ColumnCall, call.GivenBy column p := by
  cases htail : p.hasTail with
  | true => exact ⟨_, .operatorValueConnective htail⟩
  | false =>
    cases hoperator : p.hasOperator with
    | true => exact ⟨_, .operatorValue hoperator htail⟩
    | false => exact ⟨_, .value hoperator htail⟩

/-- What the options of the builder complete is what the arguments were completed with. -/
theorem Builder.compareColumn_full {b : Builder} {column : ColumnRef} {args : List Arg}
    {p : Prepared} {call : ColumnCall} (hp : Prepared.Reads b.options args p)
    (hcall : call.GivenBy column p) :
    b.compareColumn call = b.compareColumn (p.full column) := by
  cases hcall with
  | value hoperator htail =>
    obtain ⟨hconnective, hoffset⟩ := hp.tail_eq htail
    simp only [compareColumn, Prepared.full, hp.operator_eq hoperator, hconnective, hoffset]
  | operatorValue hoperator htail =>
    obtain ⟨hconnective, hoffset⟩ := hp.tail_eq htail
    simp only [compareColumn, Prepared.full, hconnective, hoffset]
  | operatorValueConnective htail => rfl

namespace WhereCall

theorem run_congr {call call' : WhereCall} {b : Builder}
    (h : (call.shape b >>= b.addition) = (call'.shape b >>= b.addition)) :
    call.run b = call'.run b := by
  simp only [run_eq, Build.contribute, h]

/-- A positional call of a column compares with all that was read from its arguments. -/
theorem run_dynamic_column {b : Builder} {first : Arg} {column : ColumnRef} {args : List Arg}
    {p : Prepared} (hfirst : first.Names column) (hp : Prepared.ofArgs b.options args = .ok p) :
    (dynamic first args).run b = (dispatch (.column (p.full column))).run b := by
  have hreads := Prepared.ofArgs_eq_ok_iff.mp hp
  obtain ⟨call, hcall⟩ := ColumnCall.exists_givenBy column p
  have hshape : (dynamic first args).shape b = .ok (.column call) :=
    Shape.ofArgs_eq_ok_iff.mpr (.column hfirst hreads hcall)
  apply run_congr
  rw [hshape]
  exact Builder.compareColumn_full hreads hcall

theorem run_dynamic_column_error {b : Builder} {first : Arg} {column : ColumnRef}
    {args : List Arg} {e : Error} (hfirst : first.Names column)
    (he : Prepared.ofArgs b.options args = .error e) :
    (dynamic first args).run b = (.error e, b) := by
  have hcall : ∀ column, ColumnCall.ofArgs b.options column args = .error e :=
    fun column => Except.bind_eq_error_iff.mpr (.inl he)
  have hshape : (dynamic first args).shape b = .error e := by
    cases hfirst with
    | name text => exact Except.map_eq_error_iff.mpr (hcall _)
    | raw sql => exact Except.map_eq_error_iff.mpr (hcall _)
  rw [run_eq, Build.contribute, hshape]
  rfl

/-! ## The positional forms of typed calls -/

/-- The arguments by which a typed call is made as a positional one. A value may be given by any
argument that stands for it, except before a lone connective, where a text would be the operator;
a connective may be given by any word for it. -/
inductive Form : WhereCall → Arg → List Arg → Prop
  | eq (column : String) {arg : Arg} {v : Value} : arg.StandsFor (.value v) →
      Form (.eq column v) (.text column) [arg]
  | op (column operator : String) {arg : Arg} {v : Value} : arg.StandsFor (.value v) →
      Form (.op column operator v) (.text column) [.text operator, arg]
  | orOp (column operator : String) {arg : Arg} {v : Value} {word : String} :
      arg.StandsFor (.value v) → Connective.or.SpelledBy word →
      Form (.orOp column operator v) (.text column) [.text operator, arg, .text word]
  | orEq (column : String) (v : Value) {word : String} : Connective.or.SpelledBy word →
      Form (.orEq column v) (.text column) [.value v, .text word]
  | sub (column operator : String) (run : Build Unit) :
      Form (.sub column operator run) (.text column) [.text operator, .query (.callback run)]
  | compared (query : Subquery) (operator : String) {arg : Arg} {v : Value} :
      arg.StandsFor (.value v) →
      Form (.compared query operator v) (.query query) [.text operator, arg]
  | group (run : Build Unit) {connective : Connective} {word : String} :
      connective.SpelledBy word →
      Form (.group connective run) (.query (.callback run)) [.text word]
  | all (cs : List Condition) {connective : Connective} {word : String} :
      connective.SpelledBy word → Form (.all connective cs) (.conditions cs) [.text word]

/-- The arguments of a positional form are read as the shape that the typed call has. -/
theorem Form.reads {call : WhereCall} {first : Arg} {args : List Arg}
    (h : call.Form first args) (b : Builder) :
    ∃ s, call.shape b = .ok s ∧ Shape.Reads b.options first args s := by
  cases h with
  | eq column hv => exact ⟨_, rfl, .column (.name column) (.value hv) (.value rfl rfl)⟩
  | op column operator hv =>
    have hp : Prepared.Reads b.options _ _ := .operator operator hv .nothing .nothing
    exact ⟨_, rfl, .column (.name column) hp (.operatorValue rfl rfl)⟩
  | orOp column operator hv hword =>
    have hp : Prepared.Reads b.options _ _ := .operator operator hv (.word hword) .nothing
    exact ⟨_, rfl, .column (.name column) hp (.operatorValueConnective rfl)⟩
  | orEq column v hword =>
    have hkind : (Arg.value v).kind ≠ .text := by simp [Arg.kind]
    have hp : Prepared.Reads b.options _ _ :=
      .leading (.value v) hkind (.word hword) .nothing (List.cons_ne_nil _ _)
    exact ⟨_, rfl, .column (.name column) hp (.operatorValueConnective rfl)⟩
  | sub column operator run =>
    have hp : Prepared.Reads b.options _ _ :=
      .operator operator (.query (.callback run)) .nothing .nothing
    exact ⟨_, rfl, .column (.name column) hp (.operatorValue rfl rfl)⟩
  | @compared query operator arg v hv =>
    have hp : Prepared.Reads b.options _ _ := .operator operator hv .nothing .nothing
    have hgroups : ¬ query.Groups [.text operator, arg] := by
      rintro ⟨-, c, hjoin⟩
      cases hjoin
    exact ⟨_, rfl, .subquery hgroups (List.cons_ne_nil _ _) hp rfl⟩
  | group run hword => exact ⟨_, rfl, .group run (.word hword)⟩
  | all cs hword => exact ⟨_, rfl, .conditions cs (.word hword)⟩

theorem Form.run_eq {call : WhereCall} {first : Arg} {args : List Arg}
    (h : call.Form first args) : call.run = (dynamic first args).run := by
  funext b
  obtain ⟨s, hshape, hreads⟩ := h.reads b
  have hdynamic : (dynamic first args).shape b = .ok s := Shape.ofArgs_eq_ok_iff.mpr hreads
  apply run_congr
  rw [hshape, hdynamic]

end WhereCall

/-- On every builder, a positional call of a column does what the comparison does to which all
parts are given as they were read from its arguments, whichever shape was picked for it, and it is
refused as its arguments are. Every typed call does what its positional forms do. -/
theorem positional_calls_agree :
    (∀ (b : Builder) (first : Arg) (column : ColumnRef) (args : List Arg), first.Names column →
      (∀ p, Prepared.ofArgs b.options args = .ok p →
        (WhereCall.dynamic first args).run b =
          (WhereCall.dispatch (.column (p.full column))).run b) ∧
      ∀ e, Prepared.ofArgs b.options args = .error e →
        (WhereCall.dynamic first args).run b = (.error e, b)) ∧
    ∀ (call : WhereCall) (first : Arg) (args : List Arg), call.Form first args →
      call.run = (WhereCall.dynamic first args).run := by
  refine ⟨?_, fun call first args h => h.run_eq⟩
  intro b first column args hfirst
  exact ⟨fun p hp => WhereCall.run_dynamic_column hfirst hp,
    fun e he => WhereCall.run_dynamic_column_error hfirst he⟩

/-- On a builder with options of its own: a raw column with a value and an offset, one with a
word that is no connective, and a typed call with its positional form. -/
theorem positional_calls_agree_with_options :
    let b : Builder := { Builder.ofTable "t" with options := ⟨"like", .or, 7⟩ }
    let raw : WhereCall := .dynamic (.raw "a || b") [.value (.scalar (.text "x")), .offset 3]
    let typed : WhereCall := .orEq "a" (.scalar (.text "or"))
    (raw.run b).2.query.clauses =
      [⟨.or, .compare (.raw "a || b") "like" (.scalar (.text "x")) 3⟩] ∧
    raw.run b = (WhereCall.dispatch (.column
      (.operatorValueConnective (.raw "a || b") "like" (.value (.scalar (.text "x"))) .or 3))).run b ∧
    (WhereCall.dynamic (.text "a") [.text ">", .text "x", .text "xor"]).run b =
      (.error (.unknownConnective "xor"), b) ∧
    (typed.run b).2.query.clauses = [⟨.or, .compare (.name "a") "like" (.scalar (.text "or")) 7⟩] ∧
    typed.run = (WhereCall.dynamic (.text "a") [.value (.scalar (.text "or")), .text "oR"]).run := by
  intro b raw typed
  obtain ⟨hcolumn, hforms⟩ := positional_calls_agree
  have hword : Connective.or.SpelledBy "oR" := Connective.ofWord?_eq_some_iff.mp rfl
  have hread : Prepared.ofArgs b.options [.value (.scalar (.text "x")), .offset 3] =
      .ok { options := ⟨"like", .or, 3⟩, value := some (.value (.scalar (.text "x"))),
            hasTail := true } := rfl
  have hrefused : Prepared.ofArgs b.options [.text ">", .text "x", .text "xor"] =
      .error (.unknownConnective "xor") := rfl
  refine ⟨rfl, (hcolumn b _ _ _ (.raw "a || b")).1 _ hread, ?_, rfl, ?_⟩
  · exact (hcolumn b _ _ _ (.name "a")).2 _ hrefused
  · exact hforms typed _ _ (.orEq "a" _ hword)

end SqlCompose
