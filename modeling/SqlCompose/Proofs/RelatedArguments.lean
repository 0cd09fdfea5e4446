import SqlCompose.Proofs.Alike
import SqlCompose.Proofs.Atomicity

/-!
# Arguments that are read alike

How the arguments of a call are read depends on the words and offsets among them, and of
the rest only on what kind of argument it is. So two lists of arguments that differ in
values and sub-queries are read to shapes that differ in these values and sub-queries,
whatever the difference is, as long as a callback stays a callback. What such shapes
contribute is alike if it is so for the parts that they differ in.
-/

namespace SqlCompose

namespace Subquery

def isCallback : Subquery → Bool
  | .callback _ => true
  | _ => false

end Subquery

/-- How the values, sub-queries and columns in the arguments of two calls may differ. -/
structure Likeness where
  value : Value → Value → Prop
  query : Subquery → Subquery → Prop
  column : ColumnRef → ColumnRef → Prop
  value_refl (v : Value) : value v v
  column_refl (c : ColumnRef) : column c c
  isCallback {q q' : Subquery} : query q q' → q.isCallback = q'.isCallback

variable (R : Likeness)

inductive Operand.Related : Operand → Operand → Prop
  | value {v v' : Value} : R.value v v' → Related (.value v) (.value v')
  | query {q q' : Subquery} : R.query q q' → Related (.query q) (.query q')

mutual

inductive Arg.Related : Arg → Arg → Prop
  | text (s : String) : Arg.Related (.text s) (.text s)
  | raw (sql : String) : Arg.Related (.raw sql) (.raw sql)
  | value {v v' : Value} : R.value v v' → Arg.Related (.value v) (.value v')
  | offset (n : Nat) : Arg.Related (.offset n) (.offset n)
  | query {q q' : Subquery} : R.query q q' → Arg.Related (.query q) (.query q')
  | conditions {cs cs' : List Condition} :
      List.Forall₂ Condition.Related cs cs' → Arg.Related (.conditions cs) (.conditions cs')

inductive Condition.Related : Condition → Condition → Prop
  | mk (column : String) {args args' : List Arg} :
      List.Forall₂ Arg.Related args args' → Condition.Related ⟨column, args⟩ ⟨column, args'⟩

end

/-- Trailing arguments that were read to related values and to the same otherwise. -/
structure Prepared.Related (p p' : Prepared) : Prop where
  value : Option.Rel (Operand.Related R) p.value p'.value
  options : p.options = p'.options
  hasOperator : p.hasOperator = p'.hasOperator
  hasTail : p.hasTail = p'.hasTail

inductive ColumnCall.Related : ColumnCall → ColumnCall → Prop
  | value {c c' : ColumnRef} {v v' : Operand} :
      R.column c c' → v.Related R v' → Related (.value c v) (.value c' v')
  | operatorValue {c c' : ColumnRef} {v v' : Operand} (operator : String) :
      R.column c c' → v.Related R v' →
        Related (.operatorValue c operator v) (.operatorValue c' operator v')
  | operatorValueConnective {c c' : ColumnRef} {v v' : Operand} (operator : String)
      (connective : Connective) (offset : Nat) : R.column c c' → v.Related R v' →
        Related (.operatorValueConnective c operator v connective offset)
          (.operatorValueConnective c' operator v' connective offset)

inductive Shape.Related : Shape → Shape → Prop
  | column {call call' : ColumnCall} : call.Related R call' → Related (.column call) (.column call')
  | group {run run' : Build Unit} (connective : Connective) :
      R.query (.callback run) (.callback run') →
        Related (.group run connective) (.group run' connective)
  | subquery {q q' : Subquery} {v v' : Operand} (operator : String) (connective : Connective) :
      R.query q q' → v.Related R v' →
        Related (.subquery q operator v connective) (.subquery q' operator v' connective)
  | conditions {cs cs' : List Condition} (connective : Connective) :
      List.Forall₂ (Condition.Related R) cs cs' →
        Related (.conditions cs connective) (.conditions cs' connective)

inductive WhereCall.Related : WhereCall → WhereCall → Prop
  | dynamic {first first' : Arg} {args args' : List Arg} : first.Related R first' →
      List.Forall₂ (Arg.Related R) args args' →
        Related (.dynamic first args) (.dynamic first' args')
  | dispatch {s s' : Shape} : s.Related R s' → Related (.dispatch s) (.dispatch s')
  | eq (column : String) {v v' : Value} : R.value v v' → Related (.eq column v) (.eq column v')
  | orEq (column : String) {v v' : Value} :
      R.value v v' → Related (.orEq column v) (.orEq column v')
  | op (column operator : String) {v v' : Value} :
      R.value v v' → Related (.op column operator v) (.op column operator v')
  | orOp (column operator : String) {v v' : Value} :
      R.value v v' → Related (.orOp column operator v) (.orOp column operator v')
  | group (connective : Connective) {run run' : Build Unit} :
      R.query (.callback run) (.callback run') →
        Related (.group connective run) (.group connective run')
  | compared {q q' : Subquery} (operator : String) {v v' : Value} : R.query q q' →
      R.value v v' → Related (.compared q operator v) (.compared q' operator v')
  | sub (column operator : String) {run run' : Build Unit} :
      R.query (.callback run) (.callback run') →
        Related (.sub column operator run) (.sub column operator run')
  | all (connective : Connective) {cs cs' : List Condition} :
      List.Forall₂ (Condition.Related R) cs cs' → Related (.all connective cs) (.all connective cs')

variable {R}

/-! ## Conditions -/

namespace Condition.Related

variable {c c' : Condition} (h : c.Related R c')
include h

theorem isEmpty_args : c.args.isEmpty = c'.args.isEmpty := by
  obtain ⟨column, hargs⟩ := h
  cases hargs <;> rfl

theorem or : c.or.Related R c'.or := by
  obtain ⟨column, hargs⟩ := h
  cases hargs with
  | nil => exact .mk column (.cons (.text "or") .nil)
  | cons harg hrest =>
    cases hrest with
    | nil => exact .mk column (.cons (.text "=") (.cons harg (.cons (.text "or") .nil)))
    | cons harg₂ hrest =>
      exact .mk column (.cons harg (.cons harg₂ (List.rel_append hrest (.cons (.text "or") .nil))))

end Condition.Related

/-- Related lists both have a condition without arguments, or neither has. -/
theorem Condition.isSome_find?_of_related {cs cs' : List Condition}
    (h : List.Forall₂ (Condition.Related R) cs cs') :
    (cs.find? (·.args.isEmpty)).isSome = (cs'.find? (·.args.isEmpty)).isSome := by
  induction h with
  | nil => rfl
  | cons hc _ ih =>
    simp only [List.find?_cons, hc.isEmpty_args]
    split
    · rfl
    · exact ih

/-! ## Trailing arguments -/

theorem Arg.Related.toOperand {arg arg' : Arg} (h : arg.Related R arg') :
    Agree (Operand.Related R) arg.toOperand arg'.toOperand := by
  cases h with
  | text s => exact .ok (.value (R.value_refl _))
  | value hv => exact .ok (.value hv)
  | query hq => exact .ok (.query hq)
  | raw sql => exact .error _ _
  | offset n => exact .error _ _
  | conditions hcs => exact .error _ _

namespace Prepared.Related

variable {p p' : Prepared} (h : p.Related R p') {args args' : List Arg}
  (hargs : List.Forall₂ (Arg.Related R) args args')
include h

/-- A value that is left out is null in both. -/
theorem getD :
    (p.value.getD (.value (.scalar .null))).Related R
      (p'.value.getD (.value (.scalar .null))) := by
  have hv := h.value
  generalize p.value = v at hv ⊢
  generalize p'.value = v' at hv ⊢
  cases hv with
  | some hv => exact hv
  | none => exact .value (R.value_refl _)

include hargs

theorem close : Agree (Prepared.Related R) (p.close args) (p'.close args') := by
  cases hargs with
  | nil => exact .ok h
  | cons harg hrest => exact .error _ _

theorem withOffset : Agree (Prepared.Related R) (p.withOffset args) (p'.withOffset args') := by
  cases hargs with
  | nil => exact h.close .nil
  | cons harg hrest =>
    cases harg with
    | offset n =>
      have hn : Prepared.Related R { p with options.offset := n, hasTail := true }
          { p' with options.offset := n, hasTail := true } :=
        ⟨h.value, by rw [h.options], h.hasOperator, rfl⟩
      exact hn.close hrest
    | _ => exact .error _ _

theorem withTail : Agree (Prepared.Related R) (p.withTail args) (p'.withTail args') := by
  have hoffset := h.withOffset hargs
  cases hargs with
  | nil => exact hoffset
  | cons harg hrest =>
    cases harg with
    | text word =>
      refine (Agree.refl (R := Eq) (fun _ => rfl) (Connective.parse word)).bind ?_
      rintro connective _ rfl
      have hc : Prepared.Related R { p with options.connective := connective, hasTail := true }
          { p' with options.connective := connective, hasTail := true } :=
        ⟨h.value, by rw [h.options], h.hasOperator, rfl⟩
      exact hc.withOffset hrest
    | _ => exact hoffset

end Prepared.Related

section

variable {args args' : List Arg} (h : List.Forall₂ (Arg.Related R) args args')
include h

theorem Prepared.related_ofArgs (defaults : Options) :
    Agree (Prepared.Related R) (ofArgs defaults args) (ofArgs defaults args') := by
  have hgiven : ∀ {v v' : Operand} (operator : Option String), v.Related R v' →
      Prepared.Related R
        { options := { defaults with operator := operator.getD defaults.operator }
          value := some v, hasOperator := operator.isSome }
        { options := { defaults with operator := operator.getD defaults.operator }
          value := some v', hasOperator := operator.isSome } :=
    fun _ hv => ⟨.some hv, rfl, rfl, rfl⟩
  cases h with
  | nil => exact .ok ⟨.none, rfl, rfl, rfl⟩
  | cons harg hrest =>
    cases hrest with
    | nil => exact harg.toOperand.bind fun v v' hv => .ok (hgiven none hv)
    | cons harg₂ hrest =>
      -- only a leading text makes the second argument the value
      cases harg with
      | text operator =>
        exact harg₂.toOperand.bind fun v v' hv => (hgiven (some operator) hv).withTail hrest
      | value hv => exact (hgiven none (.value hv)).withTail (.cons harg₂ hrest)
      | query hq => exact (hgiven none (.query hq)).withTail (.cons harg₂ hrest)
      | raw sql => exact .error _ _
      | offset n => exact .error _ _
      | conditions hcs => exact .error _ _

theorem ColumnCall.related_ofArgs (defaults : Options) (column : ColumnRef) :
    Agree (ColumnCall.Related R) (ofArgs defaults column args) (ofArgs defaults column args') := by
  refine (Prepared.related_ofArgs h defaults).bind fun p p' hp => .ok ?_
  have hcolumn := R.column_refl column
  rw [hp.hasTail, hp.hasOperator, hp.options]
  split
  · exact .operatorValueConnective _ _ _ hcolumn hp.getD
  · split
    · exact .operatorValue _ hcolumn hp.getD
    · exact .value hcolumn hp.getD

/-! ## Shapes -/

namespace Shape

theorem isGroupTail_of_related : isGroupTail args = isGroupTail args' := by
  cases h with
  | nil => rfl
  | cons harg hrest =>
    cases hrest with
    | nil => cases harg <;> rfl
    | cons harg₂ hrest => cases harg <;> rfl

theorem related_connectiveOnly (fallback : Connective) :
    Agree Eq (connectiveOnly fallback args) (connectiveOnly fallback args') := by
  cases h with
  | nil => exact .ok rfl
  | cons harg hrest =>
    cases harg with
    | text word =>
      refine (Agree.refl (fun _ => rfl) (Connective.parse word)).bind ?_
      rintro connective _ rfl
      cases hrest with
      | nil => exact .ok rfl
      | cons harg₂ hrest => exact .error _ _
    | _ => exact .error _ _

theorem related_comparison (defaults : Options) {q q' : Subquery} (hq : R.query q q') :
    Agree (Shape.Related R) (comparison defaults q args) (comparison defaults q' args') := by
  have hp := Prepared.related_ofArgs h defaults
  cases h with
  | nil => exact .error _ _
  | cons harg hrest =>
    refine hp.bind fun p p' hp => .ok ?_
    rw [hp.options]
    exact .subquery _ _ hq hp.getD

/-- Related arguments are both accepted, and then read to related shapes, or both refused. -/
theorem related_ofArgs (defaults : Options) {first first' : Arg} (hf : first.Related R first') :
    Agree (Shape.Related R) (ofArgs defaults first args) (ofArgs defaults first' args') := by
  have hconnective := related_connectiveOnly h defaults.connective
  cases hf with
  | text name => exact (ColumnCall.related_ofArgs h defaults _).map fun _ _ hc => .column hc
  | raw sql => exact (ColumnCall.related_ofArgs h defaults _).map fun _ _ hc => .column hc
  | value hv => exact .error _ _
  | offset n => exact .error _ _
  | conditions hcs =>
    refine hconnective.map ?_
    rintro connective _ rfl
    exact .conditions connective hcs
  | @query q q' hq =>
    have hcomparison := related_comparison h defaults hq
    have hkind := R.isCallback hq
    cases q with
    | callback run =>
      cases q' with
      | callback run' =>
        simp only [ofArgs, isGroupTail_of_related h]
        split
        · refine hconnective.map ?_
          rintro connective _ rfl
          exact .group connective hq
        · exact hcomparison
      | _ => cases hkind
    | raw sql =>
      cases q' with
      | callback run' => cases hkind
      | _ => exact hcomparison
    | builder c =>
      cases q' with
      | callback run' => cases hkind
      | _ => exact hcomparison

end Shape

end

/-- Related calls have related shapes on builders with the same options. -/
theorem WhereCall.Related.shape {call call' : WhereCall} (h : call.Related R call')
    {b b' : Builder} (hb : b.options = b'.options) :
    Agree (Shape.Related R) (call.shape b) (call'.shape b') := by
  cases h with
  | dynamic hf hargs =>
    simp only [WhereCall.shape, hb]
    exact Shape.related_ofArgs hargs _ hf
  | dispatch hs => exact .ok hs
  | eq column hv => exact .ok (.column (.value (R.column_refl _) (.value hv)))
  | orEq column hv =>
    simp only [WhereCall.shape, hb]
    exact .ok (.column (.operatorValueConnective _ _ _ (R.column_refl _) (.value hv)))
  | op column operator hv =>
    exact .ok (.column (.operatorValue operator (R.column_refl _) (.value hv)))
  | orOp column operator hv =>
    simp only [WhereCall.shape, hb]
    exact .ok (.column (.operatorValueConnective _ _ _ (R.column_refl _) (.value hv)))
  | group connective hrun => exact .ok (.group connective hrun)
  | compared operator hq hv =>
    simp only [WhereCall.shape, hb]
    exact .ok (.subquery operator _ hq (.value hv))
  | sub column operator hrun =>
    exact .ok (.column (.operatorValue operator (R.column_refl _) (.query hrun)))
  | all connective hcs => exact .ok (.conditions connective hcs)

/-! ## Contributions -/

namespace Builder

variable {A : Addition → Addition → Prop} {b b' : Builder}

/-- Calls that compare a column contribute alike if comparisons of related columns with related
values do. -/
theorem agree_compareColumn (hb : b.options = b'.options)
    (hcompare : ∀ {c c' : ColumnRef} {v v' : Operand} (operator : String)
      (connective : Connective) (offset : Nat), R.column c c' → v.Related R v' →
        Agree A (b.compare c operator v connective offset)
          (b'.compare c' operator v' connective offset))
    {call call' : ColumnCall} (h : call.Related R call') :
    Agree A (b.compareColumn call) (b'.compareColumn call') := by
  cases h with
  | value hc hv =>
    simp only [compareColumn, hb]
    exact hcompare _ _ _ hc hv
  | operatorValue operator hc hv =>
    simp only [compareColumn, hb]
    exact hcompare _ _ _ hc hv
  | operatorValueConnective operator connective offset hc hv => exact hcompare _ _ _ hc hv

/-- Lists of conditions contribute alike if the groups of their calls do. -/
theorem agree_conditions {cs cs' : List Condition}
    (h : List.Forall₂ (Condition.Related R) cs cs') {connective : Connective}
    (hgroup : Agree A (b.group (Condition.calls cs) connective)
      (b'.group (Condition.calls cs') connective)) :
    Agree A (b.conditions cs connective) (b'.conditions cs' connective) := by
  have hfind := Condition.isSome_find?_of_related h
  unfold conditions
  cases hc : cs.find? (·.args.isEmpty) with
  | some c =>
    rw [hc, Option.isSome_some, eq_comm, Option.isSome_iff_exists] at hfind
    obtain ⟨c', hc'⟩ := hfind
    rw [hc']
    exact .error _ _
  | none =>
    rw [hc, Option.isSome_none, eq_comm, Option.isSome_eq_false_iff,
      Option.isNone_iff_eq_none] at hfind
    rw [hfind]
    exact hgroup

end Builder

end SqlCompose
