import SqlCompose.Proofs.Settled
import SqlCompose.Proofs.ValueBlind

/-!
# Settings commute with conditions

A call for the table, the select list or the limit can be moved past a call that adds
conditions. The groups that are filled in between record another table, but the bindings
are the same and so is the statement.
-/

namespace SqlCompose

/-! ## What is seen of a builder -/

/-- What a builder shows: its bindings, and in every dialect its statement or the error. -/
def Builder.shown (b : Builder) : List Scalar × (Dialect → Except Error String) :=
  (b.bindings, fun d => b.query.toSql d)

theorem Builder.shown_of_matches {b b' : Builder} (h : b.query.Matches True b'.query) :
    b.shown = b'.shown := by
  unfold shown bindings Query.toSql
  rw [h.bindings, Prod.mk.injEq]
  refine ⟨rfl, ?_⟩
  funext d
  rw [Query.render_of_skeleton h.skeleton]

namespace Step

/-- The step with its refusal ignored. -/
def forgiven (step : Step) : Step :=
  { step with ignored := true }

@[simp] theorem call_forgiven (step : Step) : step.forgiven.call = step.call := rfl

/-- A program goes on after a refusal, so it is a callback whose refusals are ignored. -/
theorem runAll_forgiven (steps : List Step) (b : Builder) :
    runAll (steps.map forgiven) b = (.ok (), (traceAll steps b).2) := by
  induction steps generalizing b with
  | nil => rfl
  | cons step steps ih =>
    obtain ⟨call, ignored⟩ := step
    rw [List.map_cons, runAll_cons, traceAll_cons]
    exact ih _

theorem place_forgiven (step : Step) (steps : List Step) :
    step.forgiven.place (steps.map forgiven) = (step.place steps).map forgiven := by
  fun_induction place step steps with
  | case1 => rfl
  | case2 next steps h ih =>
    rw [List.map_cons, List.map_cons, place, call_forgiven, call_forgiven, if_pos h, ih]
  | case3 next steps h =>
    rw [List.map_cons, place, call_forgiven, call_forgiven, if_neg h]
    rfl

theorem settled_forgiven (steps : List Step) :
    settled (steps.map forgiven) = (settled steps).map forgiven := by
  induction steps with
  | nil => rfl
  | cons step steps ih =>
    obtain ⟨call, ignored⟩ := step
    simp only [List.map_cons, forgiven, settled]
    rw [← place_forgiven, ← ih]
    rfl

theorem shown_of_settled {steps steps' : List Step} (h : settled steps = settled steps')
    (b : Builder) : (traceAll steps b).2.shown = (traceAll steps' b).2.shown := by
  have hrun := (fillsAlike_settled (steps.map forgiven)).1
  have hrun' := (fillsAlike_settled (steps'.map forgiven)).1
  rw [settled_forgiven, h, ← settled_forgiven] at hrun
  have hfill := hrun.trans hrun'.symm True b b (.refl b)
  simp only [Build.fill, runAll_forgiven] at hfill
  cases hfill with
  | ok hquery => exact Builder.shown_of_matches hquery

end Step

/-! ## Calls with arbitrary callbacks -/

namespace BuilderCall

/-- A call whose callbacks fill matching queries on matching builders, whatever table, select list
and limit these have. -/
def Blind : BuilderCall → Prop
  | .condition call => call.Related .matching call
  | _ => True

theorem run_of_not_addsConditions {call : BuilderCall} (h : ¬call.AddsConditions) :
    ∃ f, Builder.IsSetting f ∧ call.run = .modify f := by
  cases call with
  | setTable table => exact ⟨_, .setTable table, rfl⟩
  | setColumns columns => exact ⟨_, .setColumns columns, rfl⟩
  | setLimit limit => exact ⟨_, .setLimit limit, rfl⟩
  | _ => exact absurd trivial h

theorem keepsHead_run {call : BuilderCall} (h : call.AddsConditions) : call.run.KeepsHead := by
  intro b
  rw [run_eq, prepare_of_addsConditions h]
  rfl

theorem Blind.matches_run {call : BuilderCall} (h : call.Blind) : call.run.Matches call.run := by
  cases call with
  | condition call => exact WhereCall.Related.matches_run h
  | nest connective q => exact .modify fun _ _ _ hb => hb.add (.refl _)
  | nullChecks connective negated columns => exact .modify fun _ _ _ hb => hb.add (.refl _)
  | setTable table => exact (Builder.IsSetting.setTable table).matches_modify
  | setColumns columns => exact (Builder.IsSetting.setColumns columns).matches_modify
  | setLimit limit => exact (Builder.IsSetting.setLimit limit).matches_modify

theorem matches_trace {calls : List BuilderCall} (h : ∀ call ∈ calls, call.Blind) {whole : Prop}
    {b b' : Builder} (hb : b.Matches whole b') :
    (trace calls b).2.Matches whole (trace calls b').2 := by
  induction calls generalizing b b' with
  | nil => exact hb
  | cons call calls ih =>
    rw [List.forall_mem_cons] at h
    rw [trace_cons, trace_cons]
    exact ih h.2 (h.1.matches_run whole b b' hb).2

theorem shown_exchange {setting condition : BuilderCall} (hs : ¬setting.AddsConditions)
    (hc : condition.AddsConditions) {after : List BuilderCall}
    (hblind : ∀ call ∈ condition :: after, call.Blind) (before : List BuilderCall) (b : Builder) :
    (trace (before ++ setting :: condition :: after) b).2.shown =
      (trace (before ++ condition :: setting :: after) b).2.shown := by
  induction before generalizing b with
  | nil =>
    rw [List.forall_mem_cons] at hblind
    obtain ⟨f, hf, hrun⟩ := run_of_not_addsConditions hs
    have hb : b.Matches True b := .refl b
    obtain ⟨-, hexchange⟩ :=
      Build.matches_exchange hf hblind.1.matches_run (keepsHead_run hc) hb
    simp only [List.nil_append, trace_cons, hrun, Build.modify_apply]
    exact (Builder.shown_of_matches (matches_trace hblind.2 hexchange).query).symm
  | cons call before ih =>
    simp only [List.cons_append, trace_cons]
    exact ih _

end BuilderCall

/-- Setting the table, the select list or the limit commutes with adding conditions, on every
builder: both programs end with the same bindings, and in every dialect with the same statement or
error. One setting may move past a neighbouring condition, whatever comes before and after and
whichever calls are refused. Any number of them may move, at any depth of callbacks and of
described builders, as the program still settles to the same one. The same holds of calls that are
given queries by hand, or callbacks that are no programs but do not look at what is set. -/
theorem settings_commute_with_conditions :
    (∀ (b : Builder) (before after : List Step) (setting condition : Step),
      setting.call.isSetting → condition.call.addsConditions →
        (Step.traceAll (before ++ setting :: condition :: after) b).2.shown =
          (Step.traceAll (before ++ condition :: setting :: after) b).2.shown) ∧
    (∀ (b : Builder) (steps steps' : List Step), Step.settled steps = Step.settled steps' →
      (Step.traceAll steps b).2.shown = (Step.traceAll steps' b).2.shown) ∧
    ∀ (b : Builder) (before after : List BuilderCall) (setting condition : BuilderCall),
      ¬setting.AddsConditions → condition.AddsConditions →
        (∀ call ∈ condition :: after, call.Blind) →
          (BuilderCall.trace (before ++ setting :: condition :: after) b).2.shown =
            (BuilderCall.trace (before ++ condition :: setting :: after) b).2.shown := by
  refine ⟨?_, fun b _ _ h => Step.shown_of_settled h b, ?_⟩
  · intro b before after setting condition hs hc
    exact Step.shown_of_settled (Step.settled_exchange before after hs hc) b
  · intro b before after setting condition hs hc hblind
    exact BuilderCall.shown_exchange hs hc hblind before b

/-- A group before and after the table is set, behind a call that is refused: the groups record
different tables. A sub-select that sets its table and its limit late or early, and a group that
is given by hand. -/
theorem settings_commute_with_conditions_orders :
    let b : Builder := .ofTable "users"
    let tables (b : Builder) : List (Option String) :=
      b.query.clauses.filterMap fun c => match c.predicate with
        | .group q => some q.table
        | _ => none
    let refused : Step := { call := .whereEq "tags" (.list []) }
    let scored : Step := { call := .whereOp "score" ">" (.scalar (.int 5)) }
    let orders : Step := { call := .setTable "orders" }
    let five : Step := { call := .setLimit 5 }
    let group : Step := { call := .whereGroup .or [scored] }
    let sub (steps : List Step) : List Step := [{ call := .whereSub "id" "=" steps }]
    let early := (Step.traceAll ([refused] ++ orders :: group :: []) b).2
    let late := (Step.traceAll ([refused] ++ group :: orders :: []) b).2
    let q : Query :=
      { table := some "t", clauses := [⟨.and, .isNull (.name "a")⟩], bindings := {} }
    (tables early = [some "orders"] ∧ tables late = [some "users"] ∧ early.shown = late.shown ∧
      early.bindings = [.int 5] ∧ early.query.toSql .postgresql =
        .ok "SELECT * FROM \x22orders\x22 WHERE (\x22score\x22 > $1)") ∧
    (Step.traceAll (sub [scored, orders, five]) b).2.shown =
      (Step.traceAll (sub [orders, five, scored]) b).2.shown ∧
    (BuilderCall.trace [.setTable "orders", .nest .and q] b).2.shown =
      (BuilderCall.trace [.nest .and q, .setTable "orders"] b).2.shown := by
  intro b tables refused scored orders five group sub early late q
  obtain ⟨hmove, hsettled, hcalls⟩ := settings_commute_with_conditions
  have hshown : early.shown = late.shown := hmove b [refused] [] orders group rfl rfl
  refine ⟨⟨rfl, rfl, hshown, rfl, by decide +kernel⟩, hsettled b _ _ rfl, ?_⟩
  exact hcalls b [] [] (.setTable "orders") (.nest .and q) id trivial (by simp [BuilderCall.Blind])

end SqlCompose
