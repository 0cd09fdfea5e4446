import SqlCompose.Proofs.InPlace
import SqlCompose.Proofs.Refusals

/-!
# Refused calls leave no trace

A call that is refused leaves the builder it was made on as it was, however late
the refusal comes: also when bindings of a sub-query were merged already, and
when it comes from the depth of nested callbacks.
-/

namespace SqlCompose

/-- The calls that add conditions and can be refused. -/
inductive WhereCall where
  | dynamic (first : Arg) (args : List Arg)
  | dispatch (s : Shape)
  | eq (column : String) (v : Value)
  | orEq (column : String) (v : Value)
  | op (column operator : String) (v : Value)
  | orOp (column operator : String) (v : Value)
  | group (connective : Connective) (run : Build Unit)
  | compared (query : Subquery) (operator : String) (v : Value)
  | sub (column operator : String) (run : Build Unit)
  | all (connective : Connective) (cs : List Condition)

namespace WhereCall

def run : WhereCall → Build Unit
  | .dynamic first args => .whereArgs first args
  | .dispatch s => .dispatch s
  | .eq column v => .whereEq column v
  | .orEq column v => .orWhereEq column v
  | .op column operator v => .whereOp column operator v
  | .orOp column operator v => .orWhere column operator v
  | .group connective run => .whereGroup connective run
  | .compared query operator v => .whereQuery query operator v
  | .sub column operator run => .whereSub column operator run
  | .all connective cs => .whereAll connective cs

/-- The shape that a call has on a builder. -/
def shape (b : Builder) : WhereCall → Except Error Shape
  | .dynamic first args => Shape.ofArgs b.options first args
  | .dispatch s => .ok s
  | .eq column v => .ok (.column (.value (.name column) (.value v)))
  | .orEq column v => .ok (.column
      (.operatorValueConnective (.name column) b.options.operator (.value v) .or b.options.offset))
  | .op column operator v => .ok (.column (.operatorValue (.name column) operator (.value v)))
  | .orOp column operator v => .ok (.column
      (.operatorValueConnective (.name column) operator (.value v) .or b.options.offset))
  | .group connective run => .ok (.group run connective)
  | .compared query operator v => .ok (.subquery query operator (.value v) b.options.connective)
  | .sub column operator run =>
    .ok (.column (.operatorValue (.name column) operator (.query (.callback run))))
  | .all connective cs => .ok (.conditions cs connective)

/-- A call that is carried out on the builder itself. -/
def runInPlace (call : WhereCall) : Build Unit := do
  let s ← .read call.shape
  Build.dispatchInPlace s

/-- A callback that the call runs returned an error. -/
def Returned (call : WhereCall) (b : Builder) (e : Error) : Prop :=
  ∃ s run child, call.shape b = .ok s ∧ s.Runs b run child ∧ (run child).1 = .error e

theorem run_eq (call : WhereCall) :
    call.run = .contribute fun b => call.shape b >>= b.addition := by
  cases call <;> rfl

theorem runInPlace_eq (call : WhereCall) : call.runInPlace = call.run := by
  funext b
  simp only [run_eq, runInPlace, Build.bind_apply, Build.read_apply, Build.contribute,
    Build.dispatchInPlace_eq]
  cases call.shape b with
  | error e => rfl
  | ok s => rfl

theorem run_eq_error {call : WhereCall} {b : Builder} {e : Error}
    (h : (call.run b).1 = .error e) : (call.shape b >>= b.addition) = .error e := by
  rw [run_eq, Build.contribute] at h
  split at h
  · cases h
  · next hc =>
    cases h
    exact hc

theorem Returned.run {call : WhereCall} {b : Builder} {e : Error} (h : call.Returned b e) :
    call.run b = (.error e, b) := by
  obtain ⟨s, run, child, hs, hr, he⟩ := h
  have ha : (call.shape b >>= b.addition) = .error e := by
    rw [hs]
    exact Builder.addition_of_refused hr he
  rw [run_eq, Build.contribute, ha]

theorem kind_or_returned {call : WhereCall} {b : Builder} {e : Error}
    (h : (call.run b).1 = .error e) : e.kind = .classification ∨ call.Returned b e := by
  rcases Except.bind_eq_error_iff.mp (run_eq_error h) with hs | ⟨s, hs, ha⟩
  · cases call with
    | dynamic first args => exact .inl (Shape.onlyClassifies_ofArgs _ _ _ e hs)
    | _ => cases hs
  · rcases Builder.addition_eq_error ha with hk | ⟨run, child, hr, he⟩
    · exact .inl hk
    · exact .inr ⟨s, run, child, hs, hr, he⟩

end WhereCall

/-- A refused call leaves the builder as it was, also when it is carried out on the builder
itself. The refusal is for malformed arguments or is the error that a callback returned, and
whatever error a callback returns is the error of the call. -/
theorem refused_call_leaves_builder (call : WhereCall) (b : Builder) :
    call.runInPlace b = call.run b ∧
    (∀ e, (call.run b).1 = .error e →
      (call.run b).2 = b ∧ (e.kind = .classification ∨ call.Returned b e)) ∧
    ∀ e, call.Returned b e → call.run b = (.error e, b) := by
  refine ⟨by rw [call.runInPlace_eq], ?_, fun e he => he.run⟩
  intro e he
  refine ⟨?_, WhereCall.kind_or_returned he⟩
  rw [WhereCall.run_eq] at he ⊢
  exact Build.contribute_eq_error he

/-- A group whose second call is refused when the bindings of its sub-query are merged already,
and a sub-query whose value is a callback that gives up. -/
theorem refused_call_leaves_builder_nested :
    let scores : Subquery := .callback (.whereOp "score" ">" (.scalar (.int 5)))
    let b : Builder := (Build.whereEq "id" (.scalar (.int 7)) (.ofTable "users")).2
    let stop : Error := .reported .config "stop"
    let group : WhereCall := .group .or do
      .whereEq "a" (.scalar (.int 1))
      .whereQuery scores "<" (.scalar .null)
    let giveUp : WhereCall := .dispatch (.subquery scores "<"
      (.query (.callback do
        .whereEq "a" (.scalar (.int 1))
        .refuse stop)) .and)
    b.bindings = [.int 7] ∧
    (group.Returned b (.nullComparison "<") ∧ group.run b = (.error (.nullComparison "<"), b)) ∧
    (giveUp.run b).1 = .error stop ∧ (giveUp.run b).2 = b ∧ giveUp.Returned b stop := by
  intro scores b stop group giveUp
  have hgroup : group.Returned b (.nullComparison "<") := ⟨_, _, _, rfl, .group _ _, rfl⟩
  have hstop : (giveUp.run b).1 = .error stop := rfl
  obtain ⟨hsame, hkind | hcallback⟩ := (refused_call_leaves_builder giveUp b).2.1 stop hstop
  · cases hkind
  · have hrun := (refused_call_leaves_builder group b).2.2 _ hgroup
    exact ⟨rfl, ⟨hgroup, hrun⟩, hstop, hsame, hcallback⟩

end SqlCompose
