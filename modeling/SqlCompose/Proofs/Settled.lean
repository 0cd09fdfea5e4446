import SqlCompose.Proofs.Exchange

/-!
# Programs with the settings first

A program settles to one in which every setting comes before the conditions that it
follows, with no other call between them, and so in callbacks and in descriptions of
builders at any depth. Programs that differ in where their settings stand among the
conditions settle to the same one. What a callback fills is written alike before and
after it settles, although the groups in it record different tables.
-/

namespace SqlCompose

namespace Call

/-- The calls for the table, the select list and the limit. -/
def isSetting : Call → Bool
  | .setTable _ | .setColumns _ | .setLimit _ => true
  | _ => false

/-- The calls that add conditions, in any form, whether or not they are refused. -/
def addsConditions : Call → Bool
  | .whereEq _ _ | .orWhereEq _ _ | .whereOp _ _ _ | .orWhere _ _ _ | .whereGroup _ _
  | .whereQuery _ _ _ | .whereSub _ _ _ | .whereAll _ _ | .whereNested _ _ _ | .whereNull _ _ _
  | .whereArgs _ _ | .dispatch _ => true
  | _ => false

end Call

/-- Puts a step before others. A condition is put behind the settings that these begin with. -/
def Step.place (step : Step) : List Step → List Step
  | [] => [step]
  | next :: steps =>
    if step.call.addsConditions && next.call.isSetting then next :: step.place steps
    else step :: next :: steps

/-! ## Settled programs -/

mutual

def BuilderTerm.settled : BuilderTerm → BuilderTerm
  | { table, config, columns, steps } => { table, config, columns, steps := Step.settled steps }

def SubqueryTerm.settled : SubqueryTerm → SubqueryTerm
  | .raw sql => .raw sql
  | .callback steps => .callback (Step.settled steps)
  | .builder b => .builder b.settled

def OperandTerm.settled : OperandTerm → OperandTerm
  | .value v => .value v
  | .query q => .query q.settled

def ArgTerm.settled : ArgTerm → ArgTerm
  | .text s => .text s
  | .raw sql => .raw sql
  | .value v => .value v
  | .offset n => .offset n
  | .query q => .query q.settled
  | .conditions cs => .conditions (ConditionTerm.settledList cs)

def ArgTerm.settledList : List ArgTerm → List ArgTerm
  | [] => []
  | arg :: args => arg.settled :: ArgTerm.settledList args

def ConditionTerm.settled : ConditionTerm → ConditionTerm
  | .general column args => .general column (ArgTerm.settledList args)
  | .compare column operator v => .compare column operator v
  | .equal column v => .equal column v
  | .or c => .or c.settled

def ConditionTerm.settledList : List ConditionTerm → List ConditionTerm
  | [] => []
  | c :: cs => c.settled :: ConditionTerm.settledList cs

def ColumnTerm.settled : ColumnTerm → ColumnTerm
  | .name text => .name text
  | .raw sql => .raw sql
  | .subquery b => .subquery b.settled

def ShapeTerm.settled : ShapeTerm → ShapeTerm
  | .value column value => .value column.settled value.settled
  | .operatorValue column operator value => .operatorValue column.settled operator value.settled
  | .operatorValueConnective column operator value connective offset =>
    .operatorValueConnective column.settled operator value.settled connective offset
  | .group steps connective => .group (Step.settled steps) connective
  | .subquery query operator value connective =>
    .subquery query.settled operator value.settled connective
  | .conditions cs connective => .conditions (ConditionTerm.settledList cs) connective

def Call.settled : Call → Call
  | .whereGroup connective steps => .whereGroup connective (Step.settled steps)
  | .whereQuery query operator v => .whereQuery query.settled operator v
  | .whereSub column operator steps => .whereSub column operator (Step.settled steps)
  | .whereAll connective cs => .whereAll connective (ConditionTerm.settledList cs)
  | .whereNested connective b further => .whereNested connective b.settled further
  | .whereArgs first args => .whereArgs first.settled (ArgTerm.settledList args)
  | .dispatch shape => .dispatch shape.settled
  | .embed query => .embed query.settled
  | call => call

/-- The steps with every setting moved before the conditions that it follows, and so in all
callbacks and descriptions of builders. -/
def Step.settled : List Step → List Step
  | [] => []
  | { call, ignored } :: steps => Step.place ⟨call.settled, ignored⟩ (Step.settled steps)

end

namespace Call

@[simp] theorem isSetting_settled (c : Call) : c.settled.isSetting = c.isSetting := by
  cases c <;> rfl

@[simp] theorem addsConditions_settled (c : Call) :
    c.settled.addsConditions = c.addsConditions := by
  cases c <;> rfl

theorem addsConditions_of_isSetting {c : Call} (h : c.isSetting = true) :
    c.addsConditions = false := by
  cases c <;> first | rfl | cases h

end Call

namespace Step

theorem perm_place (step : Step) (steps : List Step) :
    (step.place steps).Perm (step :: steps) := by
  fun_induction place step steps with
  | case1 => rfl
  | case2 next steps h ih => exact (ih.cons next).trans (.swap step next steps)
  | case3 next steps h => rfl

theorem place_of_isSetting {step : Step} (h : step.call.isSetting = true) (steps : List Step) :
    step.place steps = step :: steps := by
  cases steps with
  | nil => rfl
  | cons next steps => simp [place, Call.addsConditions_of_isSetting h]

theorem place_cons {step next : Step} (hstep : step.call.addsConditions = true)
    (hnext : next.call.isSetting = true) (steps : List Step) :
    step.place (next :: steps) = next :: step.place steps := by
  simp [place, hstep, hnext]

/-- A setting and a condition next to each other settle in the same order. -/
theorem settled_exchange (before after : List Step) {setting condition : Step}
    (hs : setting.call.isSetting = true) (hc : condition.call.addsConditions = true) :
    Step.settled (before ++ setting :: condition :: after) =
      Step.settled (before ++ condition :: setting :: after) := by
  induction before with
  | nil =>
    obtain ⟨cs, is⟩ := setting
    obtain ⟨cc, ic⟩ := condition
    have hs' : (Step.mk cs.settled is).call.isSetting = true := by simpa using hs
    have hc' : (Step.mk cc.settled ic).call.addsConditions = true := by simpa using hc
    simp only [List.nil_append, settled, place_of_isSetting hs', place_cons hc' hs']
  | cons step before ih =>
    obtain ⟨call, ignored⟩ := step
    simp only [List.cons_append, settled, ih]

/-! ## Running steps -/

/-- One step of a callback. -/
def run (step : Step) : Build Unit :=
  if step.ignored then .ignoring step.call.run else discard step.call.run

theorem runAll_cons (step : Step) (steps : List Step) :
    runAll (step :: steps) = step.run >>= fun _ => runAll steps := by
  obtain ⟨call, ignored⟩ := step
  cases ignored <;> rfl

theorem matches_run {step step' : Step} (h : step.call.run.Matches step'.call.run)
    (hi : step.ignored = step'.ignored) : step.run.Matches step'.run := by
  unfold run
  rw [hi]
  split
  · exact h.ignoring
  · exact h.discard

theorem run_of_isSetting {step : Step} (h : step.call.isSetting = true) :
    ∃ f, Builder.IsSetting f ∧ step.run = .modify f := by
  obtain ⟨call, ignored⟩ := step
  cases call with
  | setTable table => exact ⟨_, .setTable table, by cases ignored <;> rfl⟩
  | setColumns columns => exact ⟨_, .setColumns columns, by cases ignored <;> rfl⟩
  | setLimit limit => exact ⟨_, .setLimit limit, by cases ignored <;> rfl⟩
  | _ => cases h

end Step

theorem Call.keepsHead_run {c : Call} (h : c.addsConditions = true) : c.run.KeepsHead := by
  have hwhere : ∀ call : WhereCall, (Build.done call.run).KeepsHead := by
    intro call
    rw [call.run_eq]
    exact .done (.contribute _)
  cases c with
  | whereEq column v => exact hwhere (.eq column v)
  | orWhereEq column v => exact hwhere (.orEq column v)
  | whereOp column operator v => exact hwhere (.op column operator v)
  | orWhere column operator v => exact hwhere (.orOp column operator v)
  | whereGroup connective steps => exact hwhere (.group connective (Step.runAll steps))
  | whereQuery query operator v =>
    exact .bind (.ofExcept _) fun query => hwhere (.compared query operator v)
  | whereSub column operator steps => exact hwhere (.sub column operator (Step.runAll steps))
  | whereAll connective cs => exact .bind (.ofExcept _) fun cs => hwhere (.all connective cs)
  | whereNested connective b further => exact .bind (.ofExcept _) fun b => .done fun _ => rfl
  | whereNull connective negated columns => exact .done fun _ => rfl
  | whereArgs first args =>
    exact .bind (.ofExcept _) fun first => .bind (.ofExcept _) fun args =>
      hwhere (.dynamic first args)
  | dispatch shape => exact .bind (.ofExcept _) fun s => hwhere (.dispatch s)
  | _ => cases h

namespace Step

theorem keepsHead_run {step : Step} (h : step.call.addsConditions = true) :
    step.run.KeepsHead := by
  have hcall := Call.keepsHead_run h
  unfold run
  split
  · exact hcall.ignoring
  · exact hcall.discard

variable {steps : List Step} (hsteps : ∀ s ∈ steps, s.run.Matches s.run)
include hsteps

theorem fillsAlike_runAll : (runAll steps).FillsAlike (runAll steps) := by
  induction steps with
  | nil => exact .pure
  | cons step steps ih =>
    rw [runAll_cons]
    rw [List.forall_mem_cons] at hsteps
    exact hsteps.1.bind_fillsAlike fun _ _ => ih hsteps.2

/-- A condition can be run where it is put. -/
theorem fillsAlike_place {step : Step} (hstep : step.run.Matches step.run) :
    (runAll (step :: steps)).FillsAlike (runAll (step.place steps)) := by
  induction steps with
  | nil => exact fillsAlike_runAll (List.forall_mem_singleton.mpr hstep)
  | cons next steps ih =>
    have hall := hsteps
    rw [List.forall_mem_cons] at hsteps
    unfold place
    split
    · next h =>
      rw [Bool.and_eq_true] at h
      obtain ⟨f, hf, hrun⟩ := run_of_isSetting h.2
      have hexchange := Build.fillsAlike_exchange hf hstep (keepsHead_run h.1)
        (fillsAlike_runAll hsteps.2)
      have hplaced := hf.matches_modify.bind_fillsAlike fun _ _ => ih hsteps.2
      simp only [runAll_cons, hrun] at hplaced ⊢
      exact hexchange.trans hplaced
    · exact fillsAlike_runAll (List.forall_mem_cons.mpr ⟨hstep, hall⟩)

end Step

/-! ## Settled programs run alike -/

mutual

theorem BuilderTerm.agree_settled : ∀ t : BuilderTerm,
    Agree (fun b b' => b.query.Matches True b'.query) t.eval t.settled.eval
  | ⟨table, config, columns, steps⟩ => by
    refine (Agree.refl (R := Eq) (fun _ => rfl) (Builder.start config table columns)).bind ?_
    rintro b _ rfl
    have hsteps := (Step.fillsAlike_settled steps).1 True b b (.refl b)
    unfold Build.fill at hsteps
    rcases hr : Step.runAll steps b with ⟨_ | _, c⟩ <;>
      rcases hr' : Step.runAll (Step.settled steps) b with ⟨_ | _, c'⟩ <;>
      rw [hr, hr'] at hsteps
    · exact .error _ _
    · cases hsteps
    · cases hsteps
    · cases hsteps with
      | ok h => exact .ok h

theorem SubqueryTerm.agree_settled : ∀ t : SubqueryTerm,
    Agree Subquery.Matches t.eval t.settled.eval
  | .raw sql => .ok (.raw sql)
  | .callback steps => .ok (.callback (Step.fillsAlike_settled steps).1)
  | .builder t => (BuilderTerm.agree_settled t).bind fun _ _ hb => .ok (.builder hb)

theorem OperandTerm.agree_settled : ∀ t : OperandTerm,
    Agree (Operand.Related .matching) t.eval t.settled.eval
  | .value _ => .ok (.value rfl)
  | .query t => (SubqueryTerm.agree_settled t).bind fun _ _ hq => .ok (.query hq)

theorem ArgTerm.agree_settled : ∀ t : ArgTerm,
    Agree (Arg.Related .matching) t.eval t.settled.eval
  | .text s => .ok (.text s)
  | .raw sql => .ok (.raw sql)
  | .value _ => .ok (.value rfl)
  | .offset n => .ok (.offset n)
  | .query t => (SubqueryTerm.agree_settled t).bind fun _ _ hq => .ok (.query hq)
  | .conditions ts =>
    (ConditionTerm.agree_settledList ts).bind fun _ _ hcs => .ok (.conditions hcs)

theorem ArgTerm.agree_settledList : ∀ ts : List ArgTerm,
    Agree (List.Forall₂ (Arg.Related .matching)) (ArgTerm.evalList ts)
      (ArgTerm.evalList (ArgTerm.settledList ts))
  | [] => .ok .nil
  | t :: ts =>
    (ArgTerm.agree_settled t).bind fun _ _ harg =>
      (ArgTerm.agree_settledList ts).bind fun _ _ hargs => .ok (.cons harg hargs)

theorem ConditionTerm.agree_settled : ∀ t : ConditionTerm,
    Agree (Condition.Related .matching) t.eval t.settled.eval
  | .general column ts =>
    (ArgTerm.agree_settledList ts).bind fun _ _ hargs => .ok (.mk column hargs)
  | .compare column operator _ =>
    .ok (.mk column (.cons (.text operator) (.cons (.value rfl) .nil)))
  | .equal column _ => .ok (.mk column (.cons (.value rfl) .nil))
  | .or t => (ConditionTerm.agree_settled t).bind fun _ _ hc => .ok hc.or

theorem ConditionTerm.agree_settledList : ∀ ts : List ConditionTerm,
    Agree (List.Forall₂ (Condition.Related .matching)) (ConditionTerm.evalList ts)
      (ConditionTerm.evalList (ConditionTerm.settledList ts))
  | [] => .ok .nil
  | t :: ts =>
    (ConditionTerm.agree_settled t).bind fun _ _ hc =>
      (ConditionTerm.agree_settledList ts).bind fun _ _ hcs => .ok (.cons hc hcs)

theorem ColumnTerm.agree_settled : ∀ t : ColumnTerm,
    Agree (fun c c' => c.skeleton = c'.skeleton) t.eval t.settled.eval
  | .name text => .ok rfl
  | .raw sql => .ok rfl
  | .subquery t => by
    refine (BuilderTerm.agree_settled t).bind fun b b' hb => .ok ?_
    simp only [ColumnRef.skeleton, hb.skeleton]

theorem ShapeTerm.agree_settled : ∀ t : ShapeTerm,
    Agree (Shape.Related .matching) t.eval t.settled.eval
  | .value tc tv =>
    (ColumnTerm.agree_settled tc).bind fun _ _ hc =>
      (OperandTerm.agree_settled tv).bind fun _ _ hv => .ok (.column (.value hc hv))
  | .operatorValue tc _ tv =>
    (ColumnTerm.agree_settled tc).bind fun _ _ hc =>
      (OperandTerm.agree_settled tv).bind fun _ _ hv => .ok (.column (.operatorValue _ hc hv))
  | .operatorValueConnective tc _ tv _ _ =>
    (ColumnTerm.agree_settled tc).bind fun _ _ hc =>
      (OperandTerm.agree_settled tv).bind fun _ _ hv =>
        .ok (.column (.operatorValueConnective _ _ _ hc hv))
  | .group steps connective => .ok (.group connective (.callback (Step.fillsAlike_settled steps).1))
  | .subquery tq _ tv _ =>
    (SubqueryTerm.agree_settled tq).bind fun _ _ hq =>
      (OperandTerm.agree_settled tv).bind fun _ _ hv => .ok (.subquery _ _ hq hv)
  | .conditions ts connective =>
    (ConditionTerm.agree_settledList ts).bind fun _ _ hcs => .ok (.conditions connective hcs)

theorem Call.matches_settled : ∀ c : Call, c.run.Matches c.settled.run
  | .setTable table => .done (Builder.IsSetting.setTable table).matches_modify
  | .setColumns columns => .done (Builder.IsSetting.setColumns columns).matches_modify
  | .setLimit limit => .done (Builder.IsSetting.setLimit limit).matches_modify
  | .reset => .done (.modify fun _ _ _ hb => hb.forGroup)
  | .whereEq column v => .done (WhereCall.Related.eq column rfl).matches_run
  | .orWhereEq column v => .done (WhereCall.Related.orEq column rfl).matches_run
  | .whereOp column operator v => .done (WhereCall.Related.op column operator rfl).matches_run
  | .orWhere column operator v => .done (WhereCall.Related.orOp column operator rfl).matches_run
  | .whereGroup connective steps =>
    have hrun := Subquery.Matches.callback (Step.fillsAlike_settled steps).1
    .done (WhereCall.Related.group connective hrun).matches_run
  | .whereQuery query operator v =>
    .ofExcept_bind (SubqueryTerm.agree_settled query) fun _ _ hq =>
      .done (WhereCall.Related.compared operator hq rfl).matches_run
  | .whereSub column operator steps =>
    have hrun := Subquery.Matches.callback (Step.fillsAlike_settled steps).1
    .done (WhereCall.Related.sub column operator hrun).matches_run
  | .whereAll connective ts =>
    .ofExcept_bind (ConditionTerm.agree_settledList ts) fun _ _ hcs =>
      .done (WhereCall.Related.all connective hcs).matches_run
  | .whereNested connective t further =>
    .ofExcept_bind (BuilderTerm.agree_settled t) fun _ _ hb =>
      .done (.modify fun _ _ _ h => h.add (.group connective (hb.addBindings further)))
  | .whereNull connective negated columns => .done (.modify fun _ _ _ h => h.add (.refl _))
  | .whereArgs first args =>
    .ofExcept_bind (ArgTerm.agree_settled first) fun _ _ hfirst =>
      .ofExcept_bind (ArgTerm.agree_settledList args) fun _ _ hargs =>
        .done (WhereCall.Related.dynamic hfirst hargs).matches_run
  | .dispatch shape =>
    .ofExcept_bind (ShapeTerm.agree_settled shape) fun _ _ hs =>
      .done (WhereCall.Related.dispatch hs).matches_run
  | .refuse e => .refuse e
  | .embed query =>
    .ofExcept_bind (SubqueryTerm.agree_settled query) fun _ _ hq =>
      .read fun _ _ hb => (Builder.matches_embed hb hq).map fun _ _ _ => trivial
  | .forGroup => .read fun _ _ _ => .ok trivial
  | .forSubquery => .read fun _ _ _ => .ok trivial
  | .query => .read fun _ _ _ => .ok trivial
  | .statement d => .read fun b b' hb => by
    have htext : Agree (fun _ _ => True) (b.query.toSql d) (b'.query.toSql d) :=
      (hb.query.agree_render d 0).map fun _ _ _ => trivial
    exact htext.map fun _ _ _ => trivial
  | .renderQuery d count => .read fun _ _ hb =>
    (hb.query.agree_render d count).map fun _ _ _ => trivial
  | .renderClauses d count => .read fun b b' hb => by
    rw [hb.query.renderList_eq d count]
    exact .refl (fun _ => trivial) _

-- That each settled step treats matching builders alike is carried along, as steps before it are
-- moved past it.
theorem Step.fillsAlike_settled : ∀ steps : List Step,
    (Step.runAll steps).FillsAlike (Step.runAll (Step.settled steps)) ∧
      ∀ step ∈ Step.settled steps, step.run.Matches step.run
  | [] => ⟨.pure, by simp [Step.settled]⟩
  | ⟨call, ignored⟩ :: steps => by
    obtain ⟨hsteps, hsettled⟩ := Step.fillsAlike_settled steps
    have hstep : (Step.mk call ignored).run.Matches (Step.mk call.settled ignored).run :=
      Step.matches_run (Call.matches_settled call) rfl
    have hplace := Step.fillsAlike_place hsettled hstep.self
    simp only [Step.runAll_cons] at hplace ⊢
    refine ⟨(hstep.bind_fillsAlike fun _ _ => hsteps).trans hplace, ?_⟩
    intro step hmem
    rcases List.mem_cons.mp ((Step.perm_place _ _).mem_iff.mp hmem) with rfl | hmem
    · exact hstep.self
    · exact hsettled step hmem

end

end SqlCompose
