import SqlCompose.Proofs.Reachable

/-!
# Programs stay among the reachable builders

A program written down as data makes public calls and nothing else, so every
builder it makes is reachable. Only two of its terms hand over a query that was
not built by calls alone: a sub-query in the place of a dispatched column, and a
nested query with further bindings. A program may use them where `columns` and
`bindings` permit it.
-/

namespace SqlCompose

section

variable (columns bindings : Prop)

mutual

/-- A program that uses neither term where it is not permitted to. -/
def BuilderTerm.Permitted : BuilderTerm → Prop
  | { steps, .. } => Step.AllPermitted steps

def SubqueryTerm.Permitted : SubqueryTerm → Prop
  | .raw _ => True
  | .callback steps => Step.AllPermitted steps
  | .builder b => b.Permitted

def OperandTerm.Permitted : OperandTerm → Prop
  | .value _ => True
  | .query q => q.Permitted

def ArgTerm.Permitted : ArgTerm → Prop
  | .text _ => True
  | .raw _ => True
  | .value _ => True
  | .offset _ => True
  | .query q => q.Permitted
  | .conditions cs => ConditionTerm.AllPermitted cs

def ArgTerm.AllPermitted : List ArgTerm → Prop
  | [] => True
  | arg :: args => arg.Permitted ∧ ArgTerm.AllPermitted args

def ConditionTerm.Permitted : ConditionTerm → Prop
  | .general _ args => ArgTerm.AllPermitted args
  | .compare _ _ _ => True
  | .equal _ _ => True
  | .or c => c.Permitted

def ConditionTerm.AllPermitted : List ConditionTerm → Prop
  | [] => True
  | c :: cs => c.Permitted ∧ ConditionTerm.AllPermitted cs

def ColumnTerm.Permitted : ColumnTerm → Prop
  | .name _ => True
  | .raw _ => True
  | .subquery b => columns ∧ b.Permitted

def ShapeTerm.Permitted : ShapeTerm → Prop
  | .value column value => column.Permitted ∧ value.Permitted
  | .operatorValue column _ value => column.Permitted ∧ value.Permitted
  | .operatorValueConnective column _ value _ _ => column.Permitted ∧ value.Permitted
  | .group steps _ => Step.AllPermitted steps
  | .subquery query _ value _ => query.Permitted ∧ value.Permitted
  | .conditions cs _ => ConditionTerm.AllPermitted cs

def Call.Permitted : Call → Prop
  | .whereGroup _ steps => Step.AllPermitted steps
  | .whereQuery query _ _ => query.Permitted
  | .whereSub _ _ steps => Step.AllPermitted steps
  | .whereAll _ cs => ConditionTerm.AllPermitted cs
  | .whereNested _ b further => b.Permitted ∧ (further = [] ∨ bindings)
  | .whereArgs first args => first.Permitted ∧ ArgTerm.AllPermitted args
  | .dispatch shape => shape.Permitted
  | .embed query => query.Permitted
  | .setTable _ | .setColumns _ | .setLimit _ | .reset | .whereEq _ _ | .orWhereEq _ _
  | .whereOp _ _ _ | .orWhere _ _ _ | .whereNull _ _ _ | .refuse _ | .forGroup | .forSubquery
  | .query | .statement _ | .renderQuery _ _ | .renderClauses _ _ => True

def Step.AllPermitted : List Step → Prop
  | [] => True
  | { call, .. } :: steps => call.Permitted ∧ Step.AllPermitted steps

end

end

-- Where both are permitted, every program is.
mutual

theorem BuilderTerm.permitted : ∀ t : BuilderTerm, t.Permitted True True
  | ⟨_, _, _, steps⟩ => Step.allPermitted steps

theorem SubqueryTerm.permitted : ∀ t : SubqueryTerm, t.Permitted True True
  | .raw _ => trivial
  | .callback steps => Step.allPermitted steps
  | .builder t => t.permitted

theorem OperandTerm.permitted : ∀ t : OperandTerm, t.Permitted True True
  | .value _ => trivial
  | .query t => t.permitted

theorem ArgTerm.permitted : ∀ t : ArgTerm, t.Permitted True True
  | .text _ => trivial
  | .raw _ => trivial
  | .value _ => trivial
  | .offset _ => trivial
  | .query t => t.permitted
  | .conditions ts => ConditionTerm.allPermitted ts

theorem ArgTerm.allPermitted : ∀ ts : List ArgTerm, ArgTerm.AllPermitted True True ts
  | [] => trivial
  | t :: ts => ⟨t.permitted, ArgTerm.allPermitted ts⟩

theorem ConditionTerm.permitted : ∀ t : ConditionTerm, t.Permitted True True
  | .general _ ts => ArgTerm.allPermitted ts
  | .compare _ _ _ => trivial
  | .equal _ _ => trivial
  | .or t => t.permitted

theorem ConditionTerm.allPermitted : ∀ ts : List ConditionTerm,
    ConditionTerm.AllPermitted True True ts
  | [] => trivial
  | t :: ts => ⟨t.permitted, ConditionTerm.allPermitted ts⟩

theorem ColumnTerm.permitted : ∀ t : ColumnTerm, t.Permitted True True
  | .name _ => trivial
  | .raw _ => trivial
  | .subquery t => ⟨trivial, t.permitted⟩

theorem ShapeTerm.permitted : ∀ t : ShapeTerm, t.Permitted True True
  | .value column value => ⟨column.permitted, value.permitted⟩
  | .operatorValue column _ value => ⟨column.permitted, value.permitted⟩
  | .operatorValueConnective column _ value _ _ => ⟨column.permitted, value.permitted⟩
  | .group steps _ => Step.allPermitted steps
  | .subquery query _ value _ => ⟨query.permitted, value.permitted⟩
  | .conditions ts _ => ConditionTerm.allPermitted ts

theorem Call.permitted : ∀ c : Call, c.Permitted True True
  | .whereGroup _ steps => Step.allPermitted steps
  | .whereQuery query _ _ => query.permitted
  | .whereSub _ _ steps => Step.allPermitted steps
  | .whereAll _ ts => ConditionTerm.allPermitted ts
  | .whereNested _ t _ => ⟨t.permitted, .inr trivial⟩
  | .whereArgs first args => ⟨first.permitted, ArgTerm.allPermitted args⟩
  | .dispatch shape => shape.permitted
  | .embed query => query.permitted
  | .setTable _ | .setColumns _ | .setLimit _ | .reset | .whereEq _ _ | .orWhereEq _ _
  | .whereOp _ _ _ | .orWhere _ _ _ | .whereNull _ _ _ | .refuse _ | .forGroup | .forSubquery
  | .query | .statement _ | .renderQuery _ _ | .renderClauses _ _ => trivial

theorem Step.allPermitted : ∀ steps : List Step, Step.AllPermitted True True steps
  | [] => trivial
  | ⟨call, _⟩ :: steps => ⟨call.permitted, Step.allPermitted steps⟩

end

theorem Condition.subqueries_or (c : Condition) : c.or.subqueries = c.subqueries := by
  unfold Condition.or
  split
  · next arg h => simp [Condition.subqueries, h, Arg.subqueries]
  · simp [Condition.subqueries, Arg.subqueries]

theorem Arg.subqueries_subset_leading (arg : Arg) : arg.subqueries ⊆ arg.leadingSubqueries := by
  cases arg with
  | conditions cs => exact List.nil_subset _
  | _ => exact List.Subset.refl _

theorem Query.addBindings_nil (q : Query) : q.addBindings [] = q := by
  cases q
  rfl

/-- What programs may hand over is of the kind that reachable builders may be given. -/
structure Supplies (Q N : Query → Prop) (columns bindings : Prop) : Prop where
  column (c : Builder) : columns → c.Reachable Q N → Q c.query
  nested (c : Builder) (further : List (Category × Value)) :
    bindings → c.Reachable Q N → N (c.query.addBindings further)

variable {Q N : Query → Prop} {columns bindings : Prop}

theorem Builder.reachable_start {config table : Option String} {cs : Option (List String)}
    {b : Builder} (h : Builder.start config table cs = .ok b) : b.Reachable Q N := by
  have hc : ∃ b₀ : Builder, b₀.Reachable Q N ∧
      b = (cs.map (((table.map b₀.setTable).getD b₀).setColumns)).getD
        ((table.map b₀.setTable).getD b₀) := by
    cases config with
    | none =>
      cases h
      exact ⟨{}, .fresh none {}, rfl⟩
    | some text =>
      obtain ⟨b₀, h₀, h⟩ := Except.bind_eq_ok_iff.mp h
      obtain ⟨c, -, rfl⟩ := Except.map_eq_ok_iff.mp h₀
      cases h
      exact ⟨.ofConfig c, .fresh none c.options, rfl⟩
  obtain ⟨b₀, hb₀, rfl⟩ := hc
  cases table <;> cases cs
  · exact hb₀
  · exact hb₀.setColumns _
  · exact hb₀.setTable _
  · exact (hb₀.setTable _).setColumns _

mutual

theorem BuilderTerm.reachable_eval (hs : Supplies Q N columns bindings) : ∀ t : BuilderTerm,
    t.Permitted columns bindings → ∀ b, t.eval = .ok b → b.Reachable Q N
  | ⟨table, config, cs, steps⟩, ht, b, h => by
    obtain ⟨b₀, h₀, h⟩ := Except.bind_eq_ok_iff.mp h
    have hrun := Step.stays_runAll hs steps ht b₀ (Builder.reachable_start h₀)
    rcases hr : Step.runAll steps b₀ with ⟨_ | _, b'⟩
    · rw [hr] at h
      cases h
    · rw [hr] at h hrun
      cases h
      exact hrun

theorem SubqueryTerm.made_eval (hs : Supplies Q N columns bindings) : ∀ t : SubqueryTerm,
    t.Permitted columns bindings → ∀ q, t.eval = .ok q → q.Made Q N
  | .raw sql, _, q, h => by
    cases h
    trivial
  | .callback steps, ht, q, h => by
    cases h
    exact Step.stays_runAll hs steps ht
  | .builder t, ht, q, h => by
    obtain ⟨b, hb, h⟩ := Except.bind_eq_ok_iff.mp h
    cases h
    exact BuilderTerm.reachable_eval hs t ht b hb

theorem OperandTerm.made_eval (hs : Supplies Q N columns bindings) : ∀ t : OperandTerm,
    t.Permitted columns bindings → ∀ v, t.eval = .ok v → ∀ sub ∈ v.subqueries, sub.Made Q N
  | .value v, _, _, h => by
    cases h
    simp [Operand.subqueries]
  | .query t, ht, _, h => by
    obtain ⟨q, hq, h⟩ := Except.bind_eq_ok_iff.mp h
    cases h
    simpa [Operand.subqueries] using SubqueryTerm.made_eval hs t ht q hq

theorem ArgTerm.made_eval (hs : Supplies Q N columns bindings) : ∀ t : ArgTerm,
    t.Permitted columns bindings → ∀ arg, t.eval = .ok arg →
      ∀ sub ∈ arg.leadingSubqueries, sub.Made Q N
  | .text s, _, _, h => by
    cases h
    simp [Arg.leadingSubqueries, Arg.subqueries]
  | .raw sql, _, _, h => by
    cases h
    simp [Arg.leadingSubqueries, Arg.subqueries]
  | .value v, _, _, h => by
    cases h
    simp [Arg.leadingSubqueries, Arg.subqueries]
  | .offset n, _, _, h => by
    cases h
    simp [Arg.leadingSubqueries, Arg.subqueries]
  | .query t, ht, _, h => by
    obtain ⟨q, hq, h⟩ := Except.bind_eq_ok_iff.mp h
    cases h
    simpa [Arg.leadingSubqueries, Arg.subqueries] using SubqueryTerm.made_eval hs t ht q hq
  | .conditions ts, ht, _, h => by
    obtain ⟨cs, hcs, h⟩ := Except.bind_eq_ok_iff.mp h
    cases h
    exact ConditionTerm.made_evalList hs ts ht cs hcs

theorem ArgTerm.made_evalList (hs : Supplies Q N columns bindings) : ∀ ts : List ArgTerm,
    ArgTerm.AllPermitted columns bindings ts → ∀ args, ArgTerm.evalList ts = .ok args →
      ∀ sub ∈ args.flatMap Arg.subqueries, sub.Made Q N
  | [], _, _, h => by
    cases h
    simp
  | t :: ts, ht, _, h => by
    obtain ⟨arg, harg, h⟩ := Except.bind_eq_ok_iff.mp h
    obtain ⟨args, hargs, h⟩ := Except.bind_eq_ok_iff.mp h
    cases h
    intro sub hsub
    rw [List.flatMap_cons, List.mem_append] at hsub
    rcases hsub with hsub | hsub
    · exact ArgTerm.made_eval hs t ht.1 arg harg sub (arg.subqueries_subset_leading hsub)
    · exact ArgTerm.made_evalList hs ts ht.2 args hargs sub hsub

theorem ConditionTerm.made_eval (hs : Supplies Q N columns bindings) : ∀ t : ConditionTerm,
    t.Permitted columns bindings → ∀ c, t.eval = .ok c → ∀ sub ∈ c.subqueries, sub.Made Q N
  | .general column ts, ht, _, h => by
    obtain ⟨args, hargs, h⟩ := Except.bind_eq_ok_iff.mp h
    cases h
    exact ArgTerm.made_evalList hs ts ht args hargs
  | .compare column operator v, _, _, h => by
    cases h
    simp [Condition.subqueries, Condition.compare, Arg.subqueries]
  | .equal column v, _, _, h => by
    cases h
    simp [Condition.subqueries, Condition.equal, Arg.subqueries]
  | .or t, ht, _, h => by
    obtain ⟨c, hc, h⟩ := Except.bind_eq_ok_iff.mp h
    cases h
    rw [Condition.subqueries_or]
    exact ConditionTerm.made_eval hs t ht c hc

theorem ConditionTerm.made_evalList (hs : Supplies Q N columns bindings) :
    ∀ ts : List ConditionTerm, ConditionTerm.AllPermitted columns bindings ts →
      ∀ cs, ConditionTerm.evalList ts = .ok cs →
        ∀ sub ∈ cs.flatMap Condition.subqueries, sub.Made Q N
  | [], _, _, h => by
    cases h
    simp
  | t :: ts, ht, _, h => by
    obtain ⟨c, hc, h⟩ := Except.bind_eq_ok_iff.mp h
    obtain ⟨cs, hcs, h⟩ := Except.bind_eq_ok_iff.mp h
    cases h
    intro sub hsub
    rw [List.flatMap_cons, List.mem_append] at hsub
    rcases hsub with hsub | hsub
    · exact ConditionTerm.made_eval hs t ht.1 c hc sub hsub
    · exact ConditionTerm.made_evalList hs ts ht.2 cs hcs sub hsub

theorem ColumnTerm.admitted_eval (hs : Supplies Q N columns bindings) : ∀ t : ColumnTerm,
    t.Permitted columns bindings → ∀ c, t.eval = .ok c → c.Admitted Q
  | .name text, _, _, h => by
    cases h
    trivial
  | .raw sql, _, _, h => by
    cases h
    trivial
  | .subquery t, ht, _, h => by
    obtain ⟨b, hb, h⟩ := Except.bind_eq_ok_iff.mp h
    cases h
    exact hs.column b ht.1 (BuilderTerm.reachable_eval hs t ht.2 b hb)

theorem ShapeTerm.made_eval (hs : Supplies Q N columns bindings) : ∀ t : ShapeTerm,
    t.Permitted columns bindings → ∀ s, t.eval = .ok s →
      s.Admitted Q ∧ ∀ sub ∈ s.subqueries, sub.Made Q N
  | .value tc tv, ht, _, h => by
    obtain ⟨c, hc, h⟩ := Except.bind_eq_ok_iff.mp h
    obtain ⟨v, hv, h⟩ := Except.bind_eq_ok_iff.mp h
    cases h
    exact ⟨ColumnTerm.admitted_eval hs tc ht.1 c hc, OperandTerm.made_eval hs tv ht.2 v hv⟩
  | .operatorValue tc operator tv, ht, _, h => by
    obtain ⟨c, hc, h⟩ := Except.bind_eq_ok_iff.mp h
    obtain ⟨v, hv, h⟩ := Except.bind_eq_ok_iff.mp h
    cases h
    exact ⟨ColumnTerm.admitted_eval hs tc ht.1 c hc, OperandTerm.made_eval hs tv ht.2 v hv⟩
  | .operatorValueConnective tc operator tv connective offset, ht, _, h => by
    obtain ⟨c, hc, h⟩ := Except.bind_eq_ok_iff.mp h
    obtain ⟨v, hv, h⟩ := Except.bind_eq_ok_iff.mp h
    cases h
    exact ⟨ColumnTerm.admitted_eval hs tc ht.1 c hc, OperandTerm.made_eval hs tv ht.2 v hv⟩
  | .group steps connective, ht, _, h => by
    cases h
    exact ⟨trivial, List.forall_mem_singleton.mpr (Step.stays_runAll hs steps ht)⟩
  | .subquery tq operator tv connective, ht, _, h => by
    obtain ⟨q, hq, h⟩ := Except.bind_eq_ok_iff.mp h
    obtain ⟨v, hv, h⟩ := Except.bind_eq_ok_iff.mp h
    cases h
    refine ⟨trivial, List.forall_mem_cons.mpr ⟨?_, OperandTerm.made_eval hs tv ht.2 v hv⟩⟩
    exact SubqueryTerm.made_eval hs tq ht.1 q hq
  | .conditions ts connective, ht, _, h => by
    obtain ⟨cs, hcs, h⟩ := Except.bind_eq_ok_iff.mp h
    cases h
    exact ⟨trivial, ConditionTerm.made_evalList hs ts ht cs hcs⟩

theorem Call.stays_run (hs : Supplies Q N columns bindings) : ∀ c : Call,
    c.Permitted columns bindings → c.run.Stays Q N
  | .setTable table, _ => .done fun _ hb => hb.setTable table
  | .setColumns cs, _ => .done fun _ hb => hb.setColumns cs
  | .setLimit limit, _ => .done fun _ hb => hb.setLimit limit
  | .reset, _ => .done fun b _ => .forGroup b
  | .whereEq column v, _ => .done (.dispatchValue trivial rfl)
  | .orWhereEq column v, _ => .done (.orWhereEq column v)
  | .whereOp column operator v, _ => .done (.dispatchValue trivial rfl)
  | .orWhere column operator v, _ => .done (.orWhere column operator v)
  | .whereGroup connective steps, ht => by
    refine .done (.dispatch trivial ?_)
    exact List.forall_mem_singleton.mpr (Step.stays_runAll hs steps ht)
  | .whereQuery query operator v, ht => by
    refine .ofExcept_bind fun q hq => .done (.whereQuery operator v ?_)
    exact SubqueryTerm.made_eval hs query ht q hq
  | .whereSub column operator steps, ht => by
    refine .done (.dispatch trivial ?_)
    exact List.forall_mem_singleton.mpr (Step.stays_runAll hs steps ht)
  | .whereAll connective ts, ht => by
    refine .ofExcept_bind fun cs hcs => .done (.dispatch trivial ?_)
    exact ConditionTerm.made_evalList hs ts ht cs hcs
  | .whereNested connective t further, ht => by
    refine .ofExcept_bind fun c hc => .done ?_
    have hmade := BuilderTerm.reachable_eval hs t ht.1 c hc
    intro b hb
    rcases ht.2 with rfl | hfurther
    · rw [c.query.addBindings_nil]
      exact hb.nestBuilder connective hmade
    · exact hb.nest connective (hs.nested c further hfurther hmade)
  | .whereNull connective negated cs, _ => .done fun _ hb => hb.nullChecks connective negated cs
  | .whereArgs first args, ht => by
    refine .ofExcept_bind fun arg harg => .ofExcept_bind fun rest hrest => .done (.whereArgs ?_)
    intro sub hsub
    rcases List.mem_append.mp hsub with hsub | hsub
    · exact ArgTerm.made_eval hs first ht.1 arg harg sub hsub
    · exact ArgTerm.made_evalList hs args ht.2 rest hrest sub hsub
  | .dispatch shape, ht => by
    refine .ofExcept_bind fun s h => .done ?_
    obtain ⟨hc, hmade⟩ := ShapeTerm.made_eval hs shape ht s h
    exact .dispatch hc hmade
  | .refuse e, _ => .refuse e
  | .embed query, _ => .ofExcept_bind fun _ _ => .read _
  | .forGroup, _ => .read _
  | .forSubquery, _ => .read _
  | .query, _ => .read _
  | .statement d, _ => .read _
  | .renderQuery d n, _ => .read _
  | .renderClauses d n, _ => .read _

theorem Step.stays_runAll (hs : Supplies Q N columns bindings) : ∀ steps : List Step,
    Step.AllPermitted columns bindings steps → (Step.runAll steps).Stays Q N
  | [], _ => .pure ()
  | ⟨call, ignored⟩ :: steps, ht => by
    have hcall := Call.stays_run hs call ht.1
    have hsteps := Step.stays_runAll hs steps ht.2
    cases ignored with
    | false =>
      simp only [Step.runAll]
      exact hcall.discard.bind fun _ => hsteps
    | true =>
      simp only [Step.runAll]
      exact hcall.ignoring.bind fun _ => hsteps

end

theorem Step.reachable_traceAll (hs : Supplies Q N columns bindings) {steps : List Step}
    (ht : Step.AllPermitted columns bindings steps) {b : Builder} (hb : b.Reachable Q N) :
    (Step.traceAll steps b).2.Reachable Q N := by
  induction steps generalizing b with
  | nil => exact hb
  | cons step steps ih =>
    obtain ⟨call, ignored⟩ := step
    have hcall := Call.stays_run hs call ht.1 b hb
    exact ih ht.2 hcall

/-- Every builder that a program ends with is reachable, whichever of its steps fail. -/
theorem BuilderTerm.reachable_trace (hs : Supplies Q N columns bindings) {p : BuilderTerm}
    (hp : p.Permitted columns bindings) {outcomes : List Outcome} {b : Builder}
    (h : p.trace = .ok (outcomes, b)) : b.Reachable Q N := by
  obtain ⟨table, config, cs, steps⟩ := p
  obtain ⟨b₀, h₀, h⟩ := Except.bind_eq_ok_iff.mp h
  have ht := Step.reachable_traceAll hs hp (Builder.reachable_start h₀)
  rw [Except.ok.inj h] at ht
  exact ht

end SqlCompose
