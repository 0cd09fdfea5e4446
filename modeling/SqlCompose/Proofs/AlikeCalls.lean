import SqlCompose.Proofs.Calls
import SqlCompose.Proofs.RelatedArguments

/-!
# Calls that differ in values only

Two calls are alike when they are the same but for the values they bind. What a call
contributes and whether it is refused are followed here on both of two such calls at
once; their arguments are read to shapes that are alike as well.
-/

namespace SqlCompose

/-! ## Arguments -/

/-- Sub-queries that differ in values only. -/
inductive Subquery.Alike : Subquery → Subquery → Prop
  | raw (sql : String) : Alike (.raw sql) (.raw sql)
  | callback {run run' : Build Unit} : run.Alike run' → Alike (.callback run) (.callback run')
  | builder {c c' : Builder} : c.query.Alike c'.query → Alike (.builder c) (.builder c')

inductive Operand.Alike : Operand → Operand → Prop
  | value {v v' : Value} : v.SameClass v' → Alike (.value v) (.value v')
  | query {q q' : Subquery} : q.Alike q' → Alike (.query q) (.query q')

mutual

inductive Arg.Alike : Arg → Arg → Prop
  | text (s : String) : Arg.Alike (.text s) (.text s)
  | raw (sql : String) : Arg.Alike (.raw sql) (.raw sql)
  | value {v v' : Value} : v.SameClass v' → Arg.Alike (.value v) (.value v')
  | offset (n : Nat) : Arg.Alike (.offset n) (.offset n)
  | query {q q' : Subquery} : q.Alike q' → Arg.Alike (.query q) (.query q')
  | conditions {cs cs' : List Condition} :
      List.Forall₂ Condition.Alike cs cs' → Arg.Alike (.conditions cs) (.conditions cs')

inductive Condition.Alike : Condition → Condition → Prop
  | mk (column : String) {args args' : List Arg} :
      List.Forall₂ Arg.Alike args args' → Condition.Alike ⟨column, args⟩ ⟨column, args'⟩

end

theorem Condition.Alike.or {c c' : Condition} (h : c.Alike c') : c.or.Alike c'.or := by
  obtain ⟨column, hargs⟩ := h
  cases hargs with
  | nil => exact .mk column (.cons (.text "or") .nil)
  | cons harg hrest =>
    cases hrest with
    | nil => exact .mk column (.cons (.text "=") (.cons harg (.cons (.text "or") .nil)))
    | cons harg₂ hrest =>
      exact .mk column (.cons harg (.cons harg₂ (List.rel_append hrest (.cons (.text "or") .nil))))

/-! ## Shapes -/

inductive ColumnCall.Alike : ColumnCall → ColumnCall → Prop
  | value {c c' : ColumnRef} {v v' : Operand} :
      c.unbound = c'.unbound → v.Alike v' → Alike (.value c v) (.value c' v')
  | operatorValue {c c' : ColumnRef} {v v' : Operand} (operator : String) :
      c.unbound = c'.unbound → v.Alike v' →
        Alike (.operatorValue c operator v) (.operatorValue c' operator v')
  | operatorValueConnective {c c' : ColumnRef} {v v' : Operand} (operator : String)
      (connective : Connective) (offset : Nat) : c.unbound = c'.unbound → v.Alike v' →
        Alike (.operatorValueConnective c operator v connective offset)
          (.operatorValueConnective c' operator v' connective offset)

inductive Shape.Alike : Shape → Shape → Prop
  | column {call call' : ColumnCall} : call.Alike call' → Alike (.column call) (.column call')
  | group {run run' : Build Unit} (connective : Connective) :
      run.Alike run' → Alike (.group run connective) (.group run' connective)
  | subquery {q q' : Subquery} {v v' : Operand} (operator : String) (connective : Connective) :
      q.Alike q' → v.Alike v' →
        Alike (.subquery q operator v connective) (.subquery q' operator v' connective)
  | conditions {cs cs' : List Condition} (connective : Connective) :
      List.Forall₂ Condition.Alike cs cs' →
        Alike (.conditions cs connective) (.conditions cs' connective)

inductive WhereCall.Alike : WhereCall → WhereCall → Prop
  | dynamic {first first' : Arg} {args args' : List Arg} : first.Alike first' →
      List.Forall₂ Arg.Alike args args' → Alike (.dynamic first args) (.dynamic first' args')
  | dispatch {s s' : Shape} : s.Alike s' → Alike (.dispatch s) (.dispatch s')
  | eq (column : String) {v v' : Value} : v.SameClass v' → Alike (.eq column v) (.eq column v')
  | orEq (column : String) {v v' : Value} :
      v.SameClass v' → Alike (.orEq column v) (.orEq column v')
  | op (column operator : String) {v v' : Value} :
      v.SameClass v' → Alike (.op column operator v) (.op column operator v')
  | orOp (column operator : String) {v v' : Value} :
      v.SameClass v' → Alike (.orOp column operator v) (.orOp column operator v')
  | group (connective : Connective) {run run' : Build Unit} :
      run.Alike run' → Alike (.group connective run) (.group connective run')
  | compared {q q' : Subquery} (operator : String) {v v' : Value} : q.Alike q' →
      v.SameClass v' → Alike (.compared q operator v) (.compared q' operator v')
  | sub (column operator : String) {run run' : Build Unit} :
      run.Alike run' → Alike (.sub column operator run) (.sub column operator run')
  | all (connective : Connective) {cs cs' : List Condition} :
      List.Forall₂ Condition.Alike cs cs' → Alike (.all connective cs) (.all connective cs')

/-! ## Calls that are alike are related -/

/-- Arguments that are the same but for values that calls cannot tell apart. -/
def Likeness.alike : Likeness where
  value := Value.SameClass
  query := Subquery.Alike
  column c c' := c.unbound = c'.unbound
  value_refl := .refl
  column_refl _ := rfl
  isCallback h := by cases h <;> rfl

theorem Operand.Alike.related {v v' : Operand} (h : v.Alike v') : v.Related .alike v' := by
  cases h with
  | value hv => exact .value hv
  | query hq => exact .query hq

mutual

theorem Arg.related_of_alike : ∀ arg arg' : Arg, arg.Alike arg' → arg.Related .alike arg'
  | .text s, _, .text _ => .text s
  | .raw sql, _, .raw _ => .raw sql
  | .value _, _, .value hv => .value hv
  | .offset n, _, .offset _ => .offset n
  | .query _, _, .query hq => .query hq
  | .conditions cs, _, .conditions hcs => .conditions (Condition.allRelated_of_alike cs _ hcs)

theorem Arg.allRelated_of_alike : ∀ args args' : List Arg, List.Forall₂ Arg.Alike args args' →
    List.Forall₂ (Arg.Related .alike) args args'
  | [], _, .nil => .nil
  | arg :: args, _, .cons h hargs =>
    .cons (Arg.related_of_alike arg _ h) (Arg.allRelated_of_alike args _ hargs)

theorem Condition.related_of_alike : ∀ c c' : Condition, c.Alike c' → c.Related .alike c'
  | ⟨column, args⟩, _, .mk _ hargs => .mk column (Arg.allRelated_of_alike args _ hargs)

theorem Condition.allRelated_of_alike : ∀ cs cs' : List Condition,
    List.Forall₂ Condition.Alike cs cs' → List.Forall₂ (Condition.Related .alike) cs cs'
  | [], _, .nil => .nil
  | c :: cs, _, .cons h hcs =>
    .cons (Condition.related_of_alike c _ h) (Condition.allRelated_of_alike cs _ hcs)

end

theorem ColumnCall.Alike.related {call call' : ColumnCall} (h : call.Alike call') :
    call.Related .alike call' := by
  cases h with
  | value hc hv => exact .value hc hv.related
  | operatorValue operator hc hv => exact .operatorValue operator hc hv.related
  | operatorValueConnective operator connective offset hc hv =>
    exact .operatorValueConnective operator connective offset hc hv.related

theorem Shape.Alike.related {s s' : Shape} (h : s.Alike s') : s.Related .alike s' := by
  cases h with
  | column hcall => exact .column hcall.related
  | group connective hrun => exact .group connective (.callback hrun)
  | subquery operator connective hq hv => exact .subquery operator connective hq hv.related
  | conditions connective hcs =>
    exact .conditions connective (Condition.allRelated_of_alike _ _ hcs)

theorem WhereCall.Alike.related {call call' : WhereCall} (h : call.Alike call') :
    call.Related .alike call' := by
  cases h with
  | dynamic hf hargs =>
    exact .dynamic (Arg.related_of_alike _ _ hf) (Arg.allRelated_of_alike _ _ hargs)
  | dispatch hs => exact .dispatch hs.related
  | eq column hv => exact .eq column hv
  | orEq column hv => exact .orEq column hv
  | op column operator hv => exact .op column operator hv
  | orOp column operator hv => exact .orOp column operator hv
  | group connective hrun => exact .group connective (.callback hrun)
  | compared operator hq hv => exact .compared operator hq hv
  | sub column operator hrun => exact .sub column operator (.callback hrun)
  | all connective hcs => exact .all connective (Condition.allRelated_of_alike _ _ hcs)

/-! ## Contributions -/

/-- Sub-queries in a clause that differ in values only and bind equally many scalars. -/
structure Embedded.Alike (sub sub' : Embedded) : Prop where
  column : sub.column.unbound = sub'.column.unbound
  scalars : sub.scalars.length = sub'.scalars.length

namespace Builder

variable {b b' : Builder}

theorem alike_embed (hb : b.Alike b') {q q' : Subquery} (hq : q.Alike q') :
    Agree Embedded.Alike (b.embed q) (b'.embed q') := by
  have hquery : ∀ q q' : Query, q.Alike q' → (b.embedQuery q).Alike (b'.embedQuery q') := by
    intro q q' hq
    exact ⟨by simp only [embedQuery, ColumnRef.unbound, hq.unbound], hq.length_toList⟩
  cases hq with
  | raw sql =>
    simp only [embed]
    split
    · exact .error _ _
    · exact .ok ⟨rfl, rfl⟩
  | callback hrun => exact (hrun.fill hb.forSubquery).map hquery
  | builder hc => exact .ok (hquery _ _ hc)

theorem alike_subselect (hb : b.Alike b') {q q' : Subquery} (hq : q.Alike q') :
    Agree Query.Alike (b.subselect q) (b'.subselect q') := by
  cases hq with
  | raw sql => exact .error _ _
  | callback hrun => exact hrun.fill hb.forSubquery
  | builder hc => exact .ok hc

/-- Null, one scalar and any other number of scalars are the only things told apart. -/
theorem alike_compareValue {c c' : ColumnRef} (hc : c.unbound = c'.unbound) {v v' : Value}
    (hv : v.SameClass v') (operator : String) (connective : Connective) (offset offset' : Nat) :
    Agree Addition.Alike (compareValue c operator v connective offset)
      (compareValue c' operator v' connective offset') := by
  have hnull := hv.isNull_eq
  unfold compareValue isIllegalNull
  rw [hnull]
  split
  · exact .error _ _
  · split
    · exact .ok (.nullChecks connective _ hc)
    · rcases hv.single? with ⟨s, s', hs, hs'⟩ | ⟨hs, hs'⟩
      · rw [hs, hs']
        exact .ok (.single (by simp only [Predicate.unbound, hc]) rfl)
      · rw [hs, hs']
        exact .error _ _

theorem alike_compare (hb : b.Alike b') {c c' : ColumnRef} (hc : c.unbound = c'.unbound)
    {v v' : Operand} (hv : v.Related .alike v') (operator : String) (connective : Connective)
    (offset offset' : Nat) :
    Agree Addition.Alike (b.compare c operator v connective offset)
      (b'.compare c' operator v' connective offset') := by
  cases hv with
  | value hv => exact alike_compareValue hc hv operator connective offset offset'
  | query hq =>
    refine (alike_subselect hb hq).bind fun q q' hq => .ok (.single ?_ hq.length_toList)
    simp only [Predicate.unbound, hc, hq.unbound]

theorem alike_compareColumn (hb : b.Alike b') {call call' : ColumnCall}
    (h : call.Related .alike call') :
    Agree Addition.Alike (b.compareColumn call) (b'.compareColumn call') :=
  agree_compareColumn hb.options (fun _ _ _ hc hv => alike_compare hb hc hv _ _ _ _) h

theorem alike_compareSubquery (hb : b.Alike b') {q q' : Subquery} (hq : q.Alike q')
    {v v' : Operand} (hv : v.Related .alike v') (operator : String) (connective : Connective) :
    Agree Addition.Alike (b.compareSubquery q operator v connective)
      (b'.compareSubquery q' operator v' connective) := by
  refine (alike_embed hb hq).bind fun sub sub' hsub => ?_
  refine (alike_compare hb hsub.column hv _ _ _ _).bind fun a a' ha => .ok ⟨ha.clauses, ?_⟩
  rw [List.length_append, List.length_append, hsub.scalars, ha.scalars]

theorem alike_group (hb : b.Alike b') {run run' : Build Unit} (h : run.Alike run')
    (connective : Connective) :
    Agree Addition.Alike (b.group run connective) (b'.group run' connective) :=
  (h.fill hb.forGroup).map fun _ _ hq => .group connective hq

end Builder

namespace Condition

theorem alike_call {c c' : Condition} (h : c.Related .alike c') : c.call.Alike c'.call := by
  obtain ⟨column, hargs⟩ := h
  refine .contribute fun b b' hb => ?_
  rw [hb.options]
  refine (ColumnCall.related_ofArgs hargs b'.options _).bind fun call call' hcall => ?_
  exact Builder.alike_compareColumn hb hcall

theorem alike_calls {cs cs' : List Condition} (h : List.Forall₂ (Condition.Related .alike) cs cs') :
    (calls cs).Alike (calls cs') := by
  induction h with
  | nil => exact .pure () ()
  | cons hc _ ih => exact (alike_call hc).bind fun _ _ => ih

end Condition

namespace Builder

variable {b b' : Builder}

theorem alike_conditions (hb : b.Alike b') {cs cs' : List Condition}
    (h : List.Forall₂ (Condition.Related .alike) cs cs') (connective : Connective) :
    Agree Addition.Alike (b.conditions cs connective) (b'.conditions cs' connective) :=
  agree_conditions h (alike_group hb (Condition.alike_calls h) connective)

theorem alike_addition (hb : b.Alike b') {s s' : Shape} (h : s.Related .alike s') :
    Agree Addition.Alike (b.addition s) (b'.addition s') := by
  cases h with
  | column hcall => exact alike_compareColumn hb hcall
  | group connective hrun =>
    cases hrun with
    | callback hrun => exact alike_group hb hrun connective
  | subquery operator connective hq hv => exact alike_compareSubquery hb hq hv operator connective
  | conditions connective hcs => exact alike_conditions hb hcs connective

end Builder

/-! ## Calls -/

namespace WhereCall

theorem Alike.run {call call' : WhereCall} (h : call.Alike call') : call.run.Alike call'.run := by
  rw [run_eq, run_eq]
  refine .contribute fun b b' hb => ?_
  exact (h.related.shape hb.options).bind fun s s' hs => Builder.alike_addition hb hs

end WhereCall

namespace BuilderCall

inductive Alike : BuilderCall → BuilderCall → Prop
  | setTable (table : String) : Alike (.setTable table) (.setTable table)
  | setColumns (columns : List String) : Alike (.setColumns columns) (.setColumns columns)
  | setLimit (limit : Nat) : Alike (.setLimit limit) (.setLimit limit)
  | condition {call call' : WhereCall} :
      call.Alike call' → Alike (.condition call) (.condition call')
  | nest (connective : Connective) {q q' : Query} :
      q.Alike q' → Alike (.nest connective q) (.nest connective q')
  | nullChecks (connective : Connective) (negated : Bool) (columns : List String) :
      Alike (.nullChecks connective negated columns) (.nullChecks connective negated columns)

theorem Alike.run {call call' : BuilderCall} (h : call.Alike call') :
    call.run.Alike call'.run := by
  cases h with
  | setTable table => exact .modify fun b b' hb => hb.setTable table
  | setColumns columns => exact .modify fun b b' hb => hb.setColumns columns
  | setLimit limit => exact .modify fun b b' hb => hb.setLimit limit
  | condition hcall => exact hcall.run
  | nest connective hq => exact .modify fun b b' hb => hb.add (.group connective hq)
  | nullChecks connective negated columns =>
    exact .modify fun b b' hb => hb.add ⟨rfl, rfl⟩

/-- Two programs of such calls succeed call by call together. -/
theorem Alike.trace {calls calls' : List BuilderCall} (h : List.Forall₂ Alike calls calls')
    {b b' : Builder} (hb : b.Alike b') :
    (trace calls b).1.map (·.result.isOk) = (trace calls' b').1.map (·.result.isOk) ∧
      (trace calls b).2.Alike (trace calls' b').2 := by
  induction h generalizing b b' with
  | nil => exact ⟨rfl, hb⟩
  | cons hcall _ ih =>
    obtain ⟨hresult, hnext⟩ := hcall.run b b' hb
    obtain ⟨hresults, hlast⟩ := ih hnext
    rw [trace_cons, trace_cons]
    exact ⟨by rw [List.map_cons, List.map_cons, hresult.isOk_eq, hresults], hlast⟩

end BuilderCall

end SqlCompose
