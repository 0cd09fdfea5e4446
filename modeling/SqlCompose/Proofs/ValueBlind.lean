import SqlCompose.Program.Run
import SqlCompose.Proofs.AlikeCalls

/-!
# Values never reach the text

Two programs that are the same but for the values they bind, and whose values calls
cannot tell apart, run alike: every call succeeds in both or in neither, and the
statements they end with are the same text in every dialect.
-/

namespace SqlCompose

/-! ## Programs that differ in values only -/

mutual

/-- Programs that are the same but for the values that their calls bind, at any depth. -/
inductive BuilderTerm.Alike : BuilderTerm → BuilderTerm → Prop
  | mk (table config : Option String) (columns : Option (List String)) {steps steps' : List Step} :
      List.Forall₂ Step.Alike steps steps' →
        BuilderTerm.Alike ⟨table, config, columns, steps⟩ ⟨table, config, columns, steps'⟩

inductive SubqueryTerm.Alike : SubqueryTerm → SubqueryTerm → Prop
  | raw (sql : String) : SubqueryTerm.Alike (.raw sql) (.raw sql)
  | callback {steps steps' : List Step} : List.Forall₂ Step.Alike steps steps' →
      SubqueryTerm.Alike (.callback steps) (.callback steps')
  | builder {b b' : BuilderTerm} :
      BuilderTerm.Alike b b' → SubqueryTerm.Alike (.builder b) (.builder b')

inductive OperandTerm.Alike : OperandTerm → OperandTerm → Prop
  | value {v v' : Value} : v.SameClass v' → OperandTerm.Alike (.value v) (.value v')
  | query {q q' : SubqueryTerm} :
      SubqueryTerm.Alike q q' → OperandTerm.Alike (.query q) (.query q')

inductive ArgTerm.Alike : ArgTerm → ArgTerm → Prop
  | text (s : String) : ArgTerm.Alike (.text s) (.text s)
  | raw (sql : String) : ArgTerm.Alike (.raw sql) (.raw sql)
  | value {v v' : Value} : v.SameClass v' → ArgTerm.Alike (.value v) (.value v')
  | offset (n : Nat) : ArgTerm.Alike (.offset n) (.offset n)
  | query {q q' : SubqueryTerm} : SubqueryTerm.Alike q q' → ArgTerm.Alike (.query q) (.query q')
  | conditions {cs cs' : List ConditionTerm} :
      List.Forall₂ ConditionTerm.Alike cs cs' → ArgTerm.Alike (.conditions cs) (.conditions cs')

inductive ConditionTerm.Alike : ConditionTerm → ConditionTerm → Prop
  | general (column : String) {args args' : List ArgTerm} : List.Forall₂ ArgTerm.Alike args args' →
      ConditionTerm.Alike (.general column args) (.general column args')
  | compare (column operator : String) {v v' : Value} : v.SameClass v' →
      ConditionTerm.Alike (.compare column operator v) (.compare column operator v')
  | equal (column : String) {v v' : Value} : v.SameClass v' →
      ConditionTerm.Alike (.equal column v) (.equal column v')
  | or {c c' : ConditionTerm} : ConditionTerm.Alike c c' → ConditionTerm.Alike (.or c) (.or c')

inductive ColumnTerm.Alike : ColumnTerm → ColumnTerm → Prop
  | name (text : String) : ColumnTerm.Alike (.name text) (.name text)
  | raw (sql : String) : ColumnTerm.Alike (.raw sql) (.raw sql)
  | subquery {b b' : BuilderTerm} :
      BuilderTerm.Alike b b' → ColumnTerm.Alike (.subquery b) (.subquery b')

inductive ShapeTerm.Alike : ShapeTerm → ShapeTerm → Prop
  | value {c c' : ColumnTerm} {v v' : OperandTerm} : ColumnTerm.Alike c c' →
      OperandTerm.Alike v v' → ShapeTerm.Alike (.value c v) (.value c' v')
  | operatorValue (operator : String) {c c' : ColumnTerm} {v v' : OperandTerm} :
      ColumnTerm.Alike c c' → OperandTerm.Alike v v' →
        ShapeTerm.Alike (.operatorValue c operator v) (.operatorValue c' operator v')
  | operatorValueConnective (operator : String) (connective : Connective) (offset : Nat)
      {c c' : ColumnTerm} {v v' : OperandTerm} : ColumnTerm.Alike c c' → OperandTerm.Alike v v' →
        ShapeTerm.Alike (.operatorValueConnective c operator v connective offset)
          (.operatorValueConnective c' operator v' connective offset)
  | group (connective : Connective) {steps steps' : List Step} :
      List.Forall₂ Step.Alike steps steps' →
        ShapeTerm.Alike (.group steps connective) (.group steps' connective)
  | subquery (operator : String) (connective : Connective) {q q' : SubqueryTerm}
      {v v' : OperandTerm} : SubqueryTerm.Alike q q' → OperandTerm.Alike v v' →
        ShapeTerm.Alike (.subquery q operator v connective) (.subquery q' operator v' connective)
  | conditions (connective : Connective) {cs cs' : List ConditionTerm} :
      List.Forall₂ ConditionTerm.Alike cs cs' →
        ShapeTerm.Alike (.conditions cs connective) (.conditions cs' connective)

inductive Call.Alike : Call → Call → Prop
  | setTable (table : String) : Call.Alike (.setTable table) (.setTable table)
  | setColumns (columns : List String) : Call.Alike (.setColumns columns) (.setColumns columns)
  | setLimit (limit : Nat) : Call.Alike (.setLimit limit) (.setLimit limit)
  | reset : Call.Alike .reset .reset
  | whereEq (column : String) {v v' : Value} :
      v.SameClass v' → Call.Alike (.whereEq column v) (.whereEq column v')
  | orWhereEq (column : String) {v v' : Value} :
      v.SameClass v' → Call.Alike (.orWhereEq column v) (.orWhereEq column v')
  | whereOp (column operator : String) {v v' : Value} :
      v.SameClass v' → Call.Alike (.whereOp column operator v) (.whereOp column operator v')
  | orWhere (column operator : String) {v v' : Value} :
      v.SameClass v' → Call.Alike (.orWhere column operator v) (.orWhere column operator v')
  | whereGroup (connective : Connective) {steps steps' : List Step} :
      List.Forall₂ Step.Alike steps steps' →
        Call.Alike (.whereGroup connective steps) (.whereGroup connective steps')
  | whereQuery (operator : String) {q q' : SubqueryTerm} {v v' : Value} :
      SubqueryTerm.Alike q q' → v.SameClass v' →
        Call.Alike (.whereQuery q operator v) (.whereQuery q' operator v')
  | whereSub (column operator : String) {steps steps' : List Step} :
      List.Forall₂ Step.Alike steps steps' →
        Call.Alike (.whereSub column operator steps) (.whereSub column operator steps')
  | whereAll (connective : Connective) {cs cs' : List ConditionTerm} :
      List.Forall₂ ConditionTerm.Alike cs cs' →
        Call.Alike (.whereAll connective cs) (.whereAll connective cs')
  | whereNested (connective : Connective) (further : List (Category × Value))
      {b b' : BuilderTerm} : BuilderTerm.Alike b b' →
        Call.Alike (.whereNested connective b further) (.whereNested connective b' further)
  | whereNull (connective : Connective) (negated : Bool) (columns : List String) :
      Call.Alike (.whereNull connective negated columns) (.whereNull connective negated columns)
  | whereArgs {first first' : ArgTerm} {args args' : List ArgTerm} : ArgTerm.Alike first first' →
      List.Forall₂ ArgTerm.Alike args args' →
        Call.Alike (.whereArgs first args) (.whereArgs first' args')
  | dispatch {s s' : ShapeTerm} : ShapeTerm.Alike s s' → Call.Alike (.dispatch s) (.dispatch s')
  | refuse (e : Error) : Call.Alike (.refuse e) (.refuse e)
  | embed {q q' : SubqueryTerm} : SubqueryTerm.Alike q q' → Call.Alike (.embed q) (.embed q')
  | forGroup : Call.Alike .forGroup .forGroup
  | forSubquery : Call.Alike .forSubquery .forSubquery
  | query : Call.Alike .query .query
  | statement (d : Dialect) : Call.Alike (.statement d) (.statement d)
  | renderQuery (d : Dialect) (count : Nat) :
      Call.Alike (.renderQuery d count) (.renderQuery d count)
  | renderClauses (d : Dialect) (count : Nat) :
      Call.Alike (.renderClauses d count) (.renderClauses d count)

inductive Step.Alike : Step → Step → Prop
  | mk (ignored : Bool) {call call' : Call} :
      Call.Alike call call' → Step.Alike ⟨call, ignored⟩ ⟨call', ignored⟩

end

theorem Build.Alike.done {run run' : Build Unit} (h : run.Alike run') :
    (Build.done run).Alike (Build.done run') :=
  h.bind fun _ _ => pure _ _

theorem Query.Alike.addBindings {q q' : Query} (h : q.Alike q')
    (further : List (Category × Value)) : (q.addBindings further).Alike (q'.addBindings further) := by
  obtain ⟨hc, ht, hcs, hl⟩ := Query.unbound_eq_iff.mp h.unbound
  refine ⟨Query.unbound_eq_iff.mpr ⟨hc, ht, hcs, hl⟩, ?_⟩
  have hsize : ∀ b b' : Bindings, b.size = b'.size →
      (further.foldl (fun b entry => b.add entry.1 entry.2) b).size =
        (further.foldl (fun b entry => b.add entry.1 entry.2) b').size := by
    induction further with
    | nil => exact fun b b' hb => hb
    | cons entry further ih =>
      intro b b' hb
      apply ih
      simp only [Bindings.add, Bindings.size_append, hb]
  exact hsize _ _ h.size

/-! ## Evaluation -/

-- The recursion is on the first term; the relation takes the second one apart along with it.
mutual

theorem BuilderTerm.agree_eval : ∀ t t' : BuilderTerm, t.Alike t' →
    Agree Builder.Alike t.eval t'.eval
  | ⟨table, config, columns, steps⟩, _, .mk _ _ _ hsteps => by
    refine (Agree.refl Builder.Alike.refl (Builder.start config table columns)).bind ?_
    intro b b' hb
    obtain ⟨hresult, hlast⟩ := Step.alike_runAll steps _ hsteps b b' hb
    rcases hr : Step.runAll steps b with ⟨x, c⟩
    rcases hr' : Step.runAll _ b' with ⟨x', c'⟩
    rw [hr, hr'] at hresult hlast
    cases hresult with
    | ok _ => exact .ok hlast
    | error e e' => exact .error e e'

theorem SubqueryTerm.agree_eval : ∀ t t' : SubqueryTerm, t.Alike t' →
    Agree Subquery.Alike t.eval t'.eval
  | .raw sql, _, .raw _ => .ok (.raw sql)
  | .callback steps, _, .callback hsteps => .ok (.callback (Step.alike_runAll steps _ hsteps))
  | .builder t, _, .builder ht =>
    (BuilderTerm.agree_eval t _ ht).bind fun _ _ hb => .ok (.builder hb.query)

theorem OperandTerm.agree_eval : ∀ t t' : OperandTerm, t.Alike t' →
    Agree Operand.Alike t.eval t'.eval
  | .value v, _, .value hv => .ok (.value hv)
  | .query t, _, .query ht =>
    (SubqueryTerm.agree_eval t _ ht).bind fun _ _ hq => .ok (.query hq)

theorem ArgTerm.agree_eval : ∀ t t' : ArgTerm, t.Alike t' → Agree Arg.Alike t.eval t'.eval
  | .text s, _, .text _ => .ok (.text s)
  | .raw sql, _, .raw _ => .ok (.raw sql)
  | .value v, _, .value hv => .ok (.value hv)
  | .offset n, _, .offset _ => .ok (.offset n)
  | .query t, _, .query ht =>
    (SubqueryTerm.agree_eval t _ ht).bind fun _ _ hq => .ok (.query hq)
  | .conditions ts, _, .conditions hts =>
    (ConditionTerm.agree_evalList ts _ hts).bind fun _ _ hcs => .ok (.conditions hcs)

theorem ArgTerm.agree_evalList : ∀ ts ts' : List ArgTerm, List.Forall₂ ArgTerm.Alike ts ts' →
    Agree (List.Forall₂ Arg.Alike) (ArgTerm.evalList ts) (ArgTerm.evalList ts')
  | [], _, .nil => .ok .nil
  | t :: ts, _, .cons ht hts =>
    (ArgTerm.agree_eval t _ ht).bind fun _ _ harg =>
      (ArgTerm.agree_evalList ts _ hts).bind fun _ _ hargs => .ok (.cons harg hargs)

theorem ConditionTerm.agree_eval : ∀ t t' : ConditionTerm, t.Alike t' →
    Agree Condition.Alike t.eval t'.eval
  | .general column ts, _, .general _ hts =>
    (ArgTerm.agree_evalList ts _ hts).bind fun _ _ hargs => .ok (.mk column hargs)
  | .compare column operator v, _, .compare _ _ hv =>
    .ok (.mk column (.cons (.text operator) (.cons (.value hv) .nil)))
  | .equal column v, _, .equal _ hv => .ok (.mk column (.cons (.value hv) .nil))
  | .or t, _, .or ht => (ConditionTerm.agree_eval t _ ht).bind fun _ _ hc => .ok hc.or

theorem ConditionTerm.agree_evalList : ∀ ts ts' : List ConditionTerm,
    List.Forall₂ ConditionTerm.Alike ts ts' →
      Agree (List.Forall₂ Condition.Alike) (ConditionTerm.evalList ts) (ConditionTerm.evalList ts')
  | [], _, .nil => .ok .nil
  | t :: ts, _, .cons ht hts =>
    (ConditionTerm.agree_eval t _ ht).bind fun _ _ hc =>
      (ConditionTerm.agree_evalList ts _ hts).bind fun _ _ hcs => .ok (.cons hc hcs)

theorem ColumnTerm.agree_eval : ∀ t t' : ColumnTerm, t.Alike t' →
    Agree (fun c c' => c.unbound = c'.unbound) t.eval t'.eval
  | .name text, _, .name _ => .ok rfl
  | .raw sql, _, .raw _ => .ok rfl
  | .subquery t, _, .subquery ht => by
    refine (BuilderTerm.agree_eval t _ ht).bind fun b b' hb => .ok ?_
    simp only [ColumnRef.unbound, hb.query.unbound]

theorem ShapeTerm.agree_eval : ∀ t t' : ShapeTerm, t.Alike t' →
    Agree Shape.Alike t.eval t'.eval
  | .value tc tv, _, .value hc hv =>
    (ColumnTerm.agree_eval tc _ hc).bind fun _ _ hc =>
      (OperandTerm.agree_eval tv _ hv).bind fun _ _ hv => .ok (.column (.value hc hv))
  | .operatorValue tc operator tv, _, .operatorValue _ hc hv =>
    (ColumnTerm.agree_eval tc _ hc).bind fun _ _ hc =>
      (OperandTerm.agree_eval tv _ hv).bind fun _ _ hv => .ok (.column (.operatorValue _ hc hv))
  | .operatorValueConnective tc operator tv connective offset, _,
      .operatorValueConnective _ _ _ hc hv =>
    (ColumnTerm.agree_eval tc _ hc).bind fun _ _ hc =>
      (OperandTerm.agree_eval tv _ hv).bind fun _ _ hv =>
        .ok (.column (.operatorValueConnective _ _ _ hc hv))
  | .group steps connective, _, .group _ hsteps =>
    .ok (.group connective (Step.alike_runAll steps _ hsteps))
  | .subquery tq operator tv connective, _, .subquery _ _ hq hv =>
    (SubqueryTerm.agree_eval tq _ hq).bind fun _ _ hq =>
      (OperandTerm.agree_eval tv _ hv).bind fun _ _ hv => .ok (.subquery _ _ hq hv)
  | .conditions ts connective, _, .conditions _ hts =>
    (ConditionTerm.agree_evalList ts _ hts).bind fun _ _ hcs => .ok (.conditions connective hcs)

theorem Call.alike_run : ∀ c c' : Call, c.Alike c' → c.run.Alike c'.run
  | .setTable table, _, .setTable _ => .done (.modify fun _ _ hb => hb.setTable table)
  | .setColumns columns, _, .setColumns _ => .done (.modify fun _ _ hb => hb.setColumns columns)
  | .setLimit limit, _, .setLimit _ => .done (.modify fun _ _ hb => hb.setLimit limit)
  | .reset, _, .reset => .done (.modify fun _ _ hb => hb.forGroup)
  | .whereEq column v, _, .whereEq _ hv => .done (WhereCall.Alike.eq column hv).run
  | .orWhereEq column v, _, .orWhereEq _ hv => .done (WhereCall.Alike.orEq column hv).run
  | .whereOp column operator v, _, .whereOp _ _ hv =>
    .done (WhereCall.Alike.op column operator hv).run
  | .orWhere column operator v, _, .orWhere _ _ hv =>
    .done (WhereCall.Alike.orOp column operator hv).run
  | .whereGroup connective steps, _, .whereGroup _ hsteps =>
    .done (WhereCall.Alike.group connective (Step.alike_runAll steps _ hsteps)).run
  | .whereQuery query operator v, _, .whereQuery _ hq hv =>
    .ofExcept_bind (SubqueryTerm.agree_eval query _ hq) fun _ _ hq =>
      .done (WhereCall.Alike.compared operator hq hv).run
  | .whereSub column operator steps, _, .whereSub _ _ hsteps =>
    .done (WhereCall.Alike.sub column operator (Step.alike_runAll steps _ hsteps)).run
  | .whereAll connective ts, _, .whereAll _ hts =>
    .ofExcept_bind (ConditionTerm.agree_evalList ts _ hts) fun _ _ hcs =>
      .done (WhereCall.Alike.all connective hcs).run
  | .whereNested connective t further, _, .whereNested _ _ ht =>
    .ofExcept_bind (BuilderTerm.agree_eval t _ ht) fun _ _ hb =>
      .done (BuilderCall.Alike.nest connective (hb.query.addBindings further)).run
  | .whereNull connective negated columns, _, .whereNull _ _ _ =>
    .done (BuilderCall.Alike.nullChecks connective negated columns).run
  | .whereArgs first args, _, .whereArgs hfirst hargs =>
    .ofExcept_bind (ArgTerm.agree_eval first _ hfirst) fun _ _ hfirst =>
      .ofExcept_bind (ArgTerm.agree_evalList args _ hargs) fun _ _ hargs =>
        .done (WhereCall.Alike.dynamic hfirst hargs).run
  | .dispatch shape, _, .dispatch hs =>
    .ofExcept_bind (ShapeTerm.agree_eval shape _ hs) fun _ _ hs =>
      .done (WhereCall.Alike.dispatch hs).run
  | .refuse e, _, .refuse _ => .refuse e e
  | .embed query, _, .embed hq =>
    .ofExcept_bind (SubqueryTerm.agree_eval query _ hq) fun _ _ hq =>
      .read fun _ _ hb => (Builder.alike_embed hb hq).map fun _ _ _ => trivial
  | .forGroup, _, .forGroup => .read fun _ _ _ => .ok trivial
  | .forSubquery, _, .forSubquery => .read fun _ _ _ => .ok trivial
  | .query, _, .query => .read fun _ _ _ => .ok trivial
  | .statement d, _, .statement _ => by
    refine .read fun b b' hb => ?_
    have hsql : Agree Eq (b.query.toSql d) (b'.query.toSql d) := by
      rw [hb.query.toSql d]
      exact .refl (fun _ => rfl) _
    exact hsql.map fun _ _ _ => trivial
  | .renderQuery d count, _, .renderQuery _ _ => by
    refine .read fun b b' hb => ?_
    rw [Query.render_of_unbound hb.query.unbound]
    exact .refl (fun _ => trivial) _
  | .renderClauses d count, _, .renderClauses _ _ => by
    refine .read fun b b' hb => ?_
    rw [Clause.renderList_of_unbound hb.unboundList_clauses]
    exact .refl (fun _ => trivial) _

theorem Step.alike_runAll : ∀ steps steps' : List Step, List.Forall₂ Step.Alike steps steps' →
    (Step.runAll steps).Alike (Step.runAll steps')
  | [], _, .nil => .pure () ()
  | ⟨call, ignored⟩ :: steps, _, .cons (.mk _ hcall) hsteps => by
    have hcall := Call.alike_run call _ hcall
    have hsteps := Step.alike_runAll steps _ hsteps
    cases ignored with
    | false =>
      simp only [Step.runAll]
      exact hcall.discard.bind fun _ _ => hsteps
    | true =>
      simp only [Step.runAll]
      exact hcall.ignoring.bind fun _ _ => hsteps

end

/-! ## What is seen of a program -/

/-- What is seen of a call but for values: whether it succeeded, and how many clauses and bindings
there are after it. -/
def Outcome.visible (o : Outcome) : Bool × Nat × Nat :=
  (o.result.isOk, o.clauses, o.bindings)

/-- What is seen of a builder but for values: how many it binds, and its statement in every
dialect. -/
def Builder.visible (b : Builder) : Nat × (Dialect → Except Error String) :=
  (b.bindings.length, fun d => b.query.toSql d)

/-- What is seen of a program but for values: what is seen of its calls and of the builder it
ends with. -/
def BuilderTerm.visible (p : BuilderTerm) :
    Except Error (List (Bool × Nat × Nat) × Nat × (Dialect → Except Error String)) :=
  p.trace.map fun (outcomes, b) => (outcomes.map Outcome.visible, b.visible)

theorem Builder.Alike.visible {b b' : Builder} (h : b.Alike b') : b.visible = b'.visible := by
  unfold Builder.visible
  rw [h.length_bindings]
  congr
  funext d
  exact h.query.toSql d

theorem Step.traceAll_cons (call : Call) (ignored : Bool) (steps : List Step) (b : Builder) :
    Step.traceAll (⟨call, ignored⟩ :: steps) b =
      (⟨(call.run b).1, (call.run b).2.query.clauses.drop b.query.clauses.length,
          (call.run b).2.query.clauses.length, (call.run b).2.query.bindings.size⟩ ::
        (Step.traceAll steps (call.run b).2).1, (Step.traceAll steps (call.run b).2).2) :=
  rfl

theorem Step.alike_traceAll {steps steps' : List Step} (h : List.Forall₂ Step.Alike steps steps')
    {b b' : Builder} (hb : b.Alike b') :
    (Step.traceAll steps b).1.map Outcome.visible =
        (Step.traceAll steps' b').1.map Outcome.visible ∧
      (Step.traceAll steps b).2.Alike (Step.traceAll steps' b').2 := by
  induction h generalizing b b' with
  | nil => exact ⟨rfl, hb⟩
  | cons hstep _ ih =>
    obtain ⟨ignored, hcall⟩ := hstep
    obtain ⟨hresult, hnext⟩ := Call.alike_run _ _ hcall b b' hb
    obtain ⟨hvisible, hlast⟩ := ih hnext
    rw [traceAll_cons, traceAll_cons]
    refine ⟨?_, hlast⟩
    rw [List.map_cons, List.map_cons, hvisible]
    simp only [Outcome.visible, hresult.isOk_eq, hnext.length_clauses, hnext.query.size]

theorem BuilderTerm.Alike.visible {p p' : BuilderTerm} (h : p.Alike p') :
    p.visible = p'.visible := by
  obtain ⟨table, config, columns, hsteps⟩ := h
  unfold BuilderTerm.visible BuilderTerm.trace
  cases hstart : Builder.start config table columns with
  | error e => rfl
  | ok b =>
    obtain ⟨hvisible, hlast⟩ := Step.alike_traceAll hsteps (Builder.Alike.refl b)
    refine congrArg Except.ok ?_
    rw [Prod.mk.injEq]
    exact ⟨hvisible, hlast.visible⟩

/-- Bound values never reach the text. Programs that differ only in values that calls cannot tell
apart show the same: the same calls succeed, equally many values are bound and the statement is
the same in every dialect. So do calls and callbacks at any depth, and also calls that are given
queries by hand. Rendering reads no value, no recorded offset and no bindings of any query: text,
error and counter are the same, also where it is refused. -/
theorem values_never_reach_text :
    (∀ p p' : BuilderTerm, p.Alike p' → p.visible = p'.visible) ∧
    (∀ call call' : Call, call.Alike call' → call.run.Alike call'.run) ∧
    (∀ calls calls' : List BuilderCall, List.Forall₂ BuilderCall.Alike calls calls' →
      ∀ b b' : Builder, b.Alike b' →
        (BuilderCall.trace calls b).1.map (·.result.isOk) =
            (BuilderCall.trace calls' b').1.map (·.result.isOk) ∧
          (BuilderCall.trace calls b).2.Alike (BuilderCall.trace calls' b').2) ∧
    (∀ b b' : Builder, b.Alike b' → b.visible = b'.visible ∧ b.reset.Alike b'.reset) ∧
    ∀ q q' : Query, q.unbound = q'.unbound →
      ∀ d n, q.write d n = q'.write d n ∧ q.render d n = q'.render d n := by
  refine ⟨fun p p' h => h.visible, Call.alike_run, ?_, ?_, ?_⟩
  · intro calls calls' h b b' hb
    exact BuilderCall.Alike.trace h hb
  · intro b b' hb
    exact ⟨hb.visible, hb.forGroup⟩
  · intro q q' h d n
    exact ⟨congrFun (Query.write_of_unbound h d) n, Query.render_of_unbound h d n⟩

/-- Calls that bind a text or a number, that compare with null, that are refused for a list, and
that compare a sub-query; and a group that is given by hand. -/
theorem values_never_reach_text_scores :
    let program (name score limit tags : Value) : BuilderTerm :=
      { table := some "users"
        steps := [
          ⟨.whereEq "name" name, false⟩,
          ⟨.whereEq "tags" tags, true⟩,
          ⟨.whereOp "removed" "!=" (.scalar .null), false⟩,
          ⟨.whereQuery (.callback [⟨.whereOp "score" ">" score, false⟩]) "<" limit, false⟩] }
    let p := program (.scalar (.text "'; --")) (.scalar (.int 5)) (.scalar (.int 50)) (.list [])
    let p' := program (.scalar (.int 7)) (.list [.scalar (.int 6)]) (.scalar (.bool true))
      (.list [.scalar .null, .scalar .null])
    let query (s : Scalar) (offset : Nat) : Query :=
      { clauses := [⟨.and, .compare (.name "a") "=" (.scalar s) offset⟩]
        bindings := { filter := [s] } }
    let nest (q : Query) : Builder := (BuilderCall.trace [.nest .or q] (.ofTable "t")).2
    (p.Alike p' ∧ p.visible = p'.visible ∧
      p.trace.map (·.2.bindings) = .ok [.text "'; --", .int 5, .int 50] ∧
      p'.trace.map (·.2.bindings) = .ok [.int 7, .int 6, .bool true]) ∧
    (nest (query (.int 1) 1)).visible = (nest (query (.text "x") 9)).visible ∧
    (query (.int 1) 1).render .sqlite 2 = (query (.text "x") 9).render .sqlite 2 := by
  intro program p p' query nest
  have hname : (Value.scalar (.text "'; --")).SameClass (.scalar (.int 7)) :=
    .single rfl rfl rfl rfl
  have hscore : (Value.scalar (.int 5)).SameClass (.list [.scalar (.int 6)]) :=
    .single rfl rfl rfl rfl
  have hlimit : (Value.scalar (.int 50)).SameClass (.scalar (.bool true)) :=
    .single rfl rfl rfl rfl
  have htags : (Value.list []).SameClass (.list [.scalar .null, .scalar .null]) :=
    .other (by decide) (by decide)
  have hscores : SubqueryTerm.Alike (.callback [⟨.whereOp "score" ">" (.scalar (.int 5)), false⟩])
      (.callback [⟨.whereOp "score" ">" (.list [.scalar (.int 6)]), false⟩]) :=
    .callback (.cons (.mk false (.whereOp "score" ">" hscore)) .nil)
  have hp : p.Alike p' := by
    refine .mk _ _ _ (.cons ?_ (.cons ?_ (.cons ?_ (.cons ?_ .nil))))
    · exact .mk false (.whereEq "name" hname)
    · exact .mk true (.whereEq "tags" htags)
    · exact .mk false (.whereOp "removed" "!=" (.null rfl rfl))
    · exact .mk false (.whereQuery "<" hscores hlimit)
  have hquery : (query (.int 1) 1).Alike (query (.text "x") 9) := ⟨rfl, rfl⟩
  obtain ⟨hprograms, -, hcalls, hbuilders, hqueries⟩ := values_never_reach_text
  have hnest : (nest (query (.int 1) 1)).Alike (nest (query (.text "x") 9)) :=
    (hcalls _ _ (.cons (.nest .or hquery) .nil) _ _ (.refl _)).2
  refine ⟨⟨hp, hprograms p p' hp, rfl, rfl⟩, (hbuilders _ _ hnest).1, ?_⟩
  exact (hqueries _ _ hquery.unbound .sqlite 2).2

end SqlCompose
