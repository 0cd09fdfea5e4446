import SqlCompose.Proofs.Alignment
import SqlCompose.Proofs.Calls

/-!
# What a builder already holds

A call reads the options of its builder, its table, and the number of bindings
before it. The last of these goes into one place only, the offset that the
comparison of a sub-query records. So a program appends the same clauses and
bindings to every builder with the same table and options, up to these offsets.
-/

namespace SqlCompose

/-! ## Recorded offsets -/

/-- The clause with the offset of its comparison moved. -/
def Clause.shift (n : Nat) : Clause → Clause
  | ⟨connective, .compare column operator v offset⟩ =>
    ⟨connective, .compare column operator v (n + offset)⟩
  | c => c

/-- A contribution with the offsets of its comparisons moved. -/
def Addition.shift (n : Nat) (a : Addition) : Addition :=
  { a with clauses := a.clauses.map (Clause.shift n) }

/-- A sub-query that is placed after `n` more bindings. -/
def Embedded.shift (n : Nat) (e : Embedded) : Embedded :=
  { e with offset := n + e.offset, valueOffset := n + e.valueOffset }

/-- Whether a call of a shape compares a sub-query. -/
def Shape.comparesSubquery : Shape → Bool
  | .subquery _ _ _ _ => true
  | _ => false

/-- Whether a call compares a sub-query, as its arguments are read on a builder. -/
def BuilderCall.comparesSubquery (b : Builder) : BuilderCall → Bool
  | .condition call =>
    match call.shape b with
    | .ok s => s.comparesSubquery
    | .error _ => false
  | _ => false

/-- Moves the offsets of a contribution if the call compares a sub-query. -/
def BuilderCall.shiftOwn (b : Builder) (n : Nat) (call : BuilderCall) (cs : List Clause) :
    List Clause :=
  if call.comparesSubquery b then cs.map (Clause.shift n) else cs

/-! ## A builder beside another one that holds less -/

/-- The builders have the same table and options, and `b` holds `n` bindings more. -/
structure Builder.Beside (n : Nat) (b alone : Builder) : Prop where
  table : b.query.table = alone.query.table
  options : b.options = alone.options
  size : b.query.bindings.size = n + alone.query.bindings.size

namespace Builder.Beside

variable {n : Nat} {b alone : Builder} (h : b.Beside n alone)
include h

theorem forGroup_eq : b.forGroup = alone.forGroup := by
  simp [forGroup, h.table, h.options]

theorem forSubquery_eq : b.forSubquery = alone.forSubquery := by
  simp [forSubquery, h.options]

theorem compare_eq (column : ColumnRef) (operator : String) (value : Operand)
    (connective : Connective) (offset : Nat) :
    b.compare column operator value connective offset =
      alone.compare column operator value connective offset := by
  cases value with
  | value v => rfl
  | query sub =>
    cases sub with
    | raw sql => rfl
    | callback run => simp only [compare, subselect, h.forSubquery_eq]
    | builder child => rfl

theorem compareColumn_eq (call : ColumnCall) : b.compareColumn call = alone.compareColumn call := by
  cases call <;> simp only [compareColumn, h.options, h.compare_eq]

theorem group_eq (run : Build Unit) (connective : Connective) :
    b.group run connective = alone.group run connective := by
  simp only [group, h.forGroup_eq]

theorem conditions_eq (cs : List Condition) (connective : Connective) :
    b.conditions cs connective = alone.conditions cs connective := by
  simp only [conditions, h.group_eq]

theorem embed_eq (query : Subquery) : b.embed query = (alone.embed query).map (·.shift n) := by
  cases query with
  | raw sql =>
    simp only [embed]
    split
    · rfl
    · simp [Except.map, Embedded.shift, h.size]
  | callback run =>
    simp only [embed, h.forSubquery_eq]
    cases run.fill alone.forSubquery with
    | error e => rfl
    | ok q => simp [Except.map, embedQuery, Embedded.shift, h.size, Nat.add_assoc]
  | builder child => simp [embed, Except.map, embedQuery, Embedded.shift, h.size, Nat.add_assoc]

end Builder.Beside

theorem Builder.compareValue_shift (column : ColumnRef) (operator : String) (v : Value)
    (connective : Connective) (offset n : Nat) :
    compareValue column operator v connective (n + offset) =
      (compareValue column operator v connective offset).map (·.shift n) := by
  unfold compareValue
  split_ifs
  · rfl
  · simp only [Except.map, Addition.shift, Addition.nullChecks, List.map_cons, List.map_nil]
    split <;> rfl
  · cases v.single? <;> rfl

/-- The offset that a comparison is given goes into nothing but its own clause. -/
theorem Builder.compare_shift (b : Builder) (column : ColumnRef) (operator : String)
    (value : Operand) (connective : Connective) (offset n : Nat) :
    b.compare column operator value connective (n + offset) =
      (b.compare column operator value connective offset).map (·.shift n) := by
  cases value with
  | value v => exact compareValue_shift column operator v connective offset n
  | query sub =>
    simp only [compare]
    cases b.subselect sub <;> rfl

namespace Builder.Beside

variable {n : Nat} {b alone : Builder} (h : b.Beside n alone)
include h

theorem compareSubquery_eq (query : Subquery) (operator : String) (value : Operand)
    (connective : Connective) :
    b.compareSubquery query operator value connective =
      (alone.compareSubquery query operator value connective).map (·.shift n) := by
  simp only [compareSubquery, h.embed_eq]
  cases alone.embed query with
  | error e => rfl
  | ok sub =>
    have hc : b.compare sub.column operator value connective (n + sub.valueOffset) =
        (alone.compare sub.column operator value connective sub.valueOffset).map (·.shift n) := by
      rw [h.compare_eq, compare_shift]
    simp only [Bind.bind, Except.bind, Except.map, Embedded.shift] at hc ⊢
    rw [hc]
    cases alone.compare sub.column operator value connective sub.valueOffset <;> rfl

/-- Of the shapes of a call only the comparison of a sub-query depends on what is held. -/
theorem addition_eq (s : Shape) :
    b.addition s =
      if s.comparesSubquery then (alone.addition s).map (·.shift n) else alone.addition s := by
  cases s with
  | column call => simp [addition, Shape.comparesSubquery, h.compareColumn_eq]
  | group run connective => simp [addition, Shape.comparesSubquery, h.group_eq]
  | subquery query operator value connective =>
    simp [addition, Shape.comparesSubquery, h.compareSubquery_eq]
  | conditions cs connective => simp [addition, Shape.comparesSubquery, h.conditions_eq]

end Builder.Beside

theorem WhereCall.shape_congr {b b' : Builder} (h : b.options = b'.options) (call : WhereCall) :
    call.shape b = call.shape b' := by
  cases call <;> simp only [shape, h]

theorem BuilderCall.comparesSubquery_congr {b b' : Builder} (h : b.options = b'.options)
    (call : BuilderCall) : call.comparesSubquery b = call.comparesSubquery b' := by
  cases call with
  | condition call => simp only [comparesSubquery, call.shape_congr h]
  | _ => rfl

/-! ## Calls on both builders -/

namespace BuilderCall

variable {n : Nat} {b alone : Builder} (h : b.Beside n alone)
include h

theorem contribution_eq (call : BuilderCall) :
    call.contribution b =
      if call.comparesSubquery b then (call.contribution alone).map (·.shift n)
      else call.contribution alone := by
  cases call with
  | condition call =>
    simp only [contribution, comparesSubquery, call.shape_congr h.options]
    cases call.shape alone with
    | error e => rfl
    | ok s => exact h.addition_eq s
  | _ => rfl

theorem result_run_eq (call : BuilderCall) : (call.run b).1 = (call.run alone).1 := by
  simp only [run_eq, contribution_eq h]
  split
  · cases call.contribution alone <;> rfl
  · rfl

theorem addition_eq (call : BuilderCall) :
    call.addition b =
      if call.comparesSubquery b then (call.addition alone).shift n else call.addition alone := by
  rw [addition, addition, contribution_eq h]
  by_cases hc : call.comparesSubquery b = true
  · simp only [hc, if_true]
    cases call.contribution alone <;> rfl
  · simp only [hc, if_false, Bool.false_eq_true]

theorem clauses_addition_eq (call : BuilderCall) :
    (call.addition b).clauses = call.shiftOwn b n (call.addition alone).clauses := by
  rw [addition_eq h, shiftOwn]
  split <;> rfl

theorem scalars_addition_eq (call : BuilderCall) :
    (call.addition b).scalars = (call.addition alone).scalars := by
  rw [addition_eq h]
  split <;> rfl

theorem beside_run (call : BuilderCall) : (call.run b).2.Beside n (call.run alone).2 where
  table := by
    have ht := h.table
    rw [run_eq, run_eq]
    cases call <;> simp [prepare, Builder.add, Builder.setTable, Builder.setColumns,
      Builder.setLimit, ht]
  options := by rw [options_run, options_run, h.options]
  size := by
    have hs := h.size
    rw [bindings_run, bindings_run, Bindings.size_append, Bindings.size_append,
      scalars_addition_eq h]
    omega

end BuilderCall

/-! ## Programs on both builders -/

namespace BuilderCall

/-- Beside an emptier builder every call has the same result, binds the same scalars and appends
the same clauses, but for the offsets that it records itself. -/
theorem trace_beside {n : Nat} (calls : List BuilderCall) {b alone : Builder}
    (h : b.Beside n alone) :
    (trace calls b).1.map (·.result) = (trace calls alone).1.map (·.result) ∧
    (trace calls b).1.flatMap (·.added) =
      (calls.zip (trace calls alone).1).flatMap (fun (call, outcome) =>
        call.shiftOwn b n outcome.added) ∧
    (trace calls b).1.flatMap (·.bound) = (trace calls alone).1.flatMap (·.bound) := by
  induction calls generalizing b alone with
  | nil => exact ⟨rfl, rfl, rfl⟩
  | cons call calls ih =>
    obtain ⟨hresults, hadded, hbound⟩ := ih (beside_run h call)
    -- the options are those of the first builder throughout, so arguments are read alike
    have hshift : shiftOwn (call.run b).2 n = shiftOwn b n := by
      funext call' cs
      simp only [shiftOwn, comparesSubquery_congr (options_run call b)]
    rw [hshift] at hadded
    refine ⟨?_, ?_, ?_⟩
    · simp [result_run_eq h, hresults]
    · simp [hadded, clauses_addition_eq h]
    · simp [hbound, scalars_addition_eq h]

end BuilderCall

/-! ## Builders that calls can reach -/

theorem Builder.beside_forGroup (b : Builder) : b.Beside b.bindings.length b.forGroup where
  table := rfl
  options := rfl
  size := by
    have hs : b.bindings.length = b.query.bindings.size := b.query.bindings.length_toList
    rw [hs]
    rfl

/-- A program acts on every reachable builder as it does on an empty one with the same table and
options: each call has the same result, and the clauses and bindings of the program come after
those already held. Only the comparisons of sub-queries that the program makes itself record
offsets that are larger by the number of bindings held. Calls that add conditions leave the
rest of the builder alone. -/
theorem program_acts_independently (b : Builder)
    (hb : b.Reachable (fun _ => True) (fun _ => True)) (calls : List BuilderCall) :
    let alone := BuilderCall.trace calls b.forGroup
    let here := BuilderCall.trace calls b
    here.1.map (·.result) = alone.1.map (·.result) ∧
    alone.2.query.clauses = alone.1.flatMap (·.added) ∧
    here.2.query.clauses = b.query.clauses ++
      (calls.zip alone.1).flatMap (fun (call, outcome) =>
        call.shiftOwn b b.bindings.length outcome.added) ∧
    here.2.bindings = b.bindings ++ alone.2.bindings ∧
    here.2.options = b.options ∧
    ∀ call : BuilderCall, call.AddsConditions → ∀ c : Builder,
      (call.run c).2.query.table = c.query.table ∧
      (call.run c).2.query.columns = c.query.columns ∧
      (call.run c).2.query.limit = c.query.limit := by
  intro alone here
  obtain ⟨hresults, hadded, hbound⟩ := BuilderCall.trace_beside calls b.beside_forGroup
  have halone : alone.2.bindings = alone.1.flatMap (·.bound) := by
    have hnil : ∀ c, c ≠ .filter → b.forGroup.query.bindings.get c = [] :=
      fun c _ => by cases c <;> rfl
    rw [Builder.bindings, BuilderCall.bindings_trace, Bindings.toList_append_filter hnil]
    rfl
  refine ⟨hresults, ?_, ?_, ?_, BuilderCall.options_trace calls b, ?_⟩
  · exact BuilderCall.clauses_trace calls b.forGroup
  · rw [BuilderCall.clauses_trace, hadded]
  · rw [halone, Builder.bindings, BuilderCall.bindings_trace, hbound,
      Bindings.toList_append_filter hb.get_eq_nil]
    rfl
  · intro call hcall c
    rw [call.run_eq, BuilderCall.prepare_of_addsConditions hcall]
    exact ⟨rfl, rfl, rfl⟩

/-- A builder that holds one binding, and a program that compares a sub-query, is refused when
it compares one with null, and compares one inside a group. -/
theorem program_acts_independently_after_group :
    let q : Query := {
      clauses := [⟨.and, .compare (.name "a") "=" (.scalar (.int 1)) 1⟩]
      bindings := { filter := [.int 1] } }
    let b := ({} : Builder).add (.group .and q)
    let scores : Subquery := .callback (.whereOp "score" ">" (.scalar (.int 5)))
    let column : ColumnRef := .subquery {
      clauses := [⟨.and, .compare (.name "score") ">" (.scalar (.int 5)) 1⟩]
      bindings := { filter := [.int 5] } }
    let calls : List BuilderCall := [
      .condition (.compared scores "<" (.scalar (.int 50))),
      .condition (.compared scores "<" (.scalar .null)),
      .condition (.group .or (.whereQuery scores "<" (.scalar (.int 60))))]
    let alone := BuilderCall.trace calls b.forGroup
    let here := BuilderCall.trace calls b
    b.Reachable (fun _ => True) (fun _ => True) ∧
    alone.1.map (·.result) = [.ok (), .error (.nullComparison "<"), .ok ()] ∧
    here.1.map (·.result) = alone.1.map (·.result) ∧
    alone.2.query.clauses[0]? = some ⟨.and, .compare column "<" (.scalar (.int 50)) 1⟩ ∧
    here.2.query.clauses[1]? = some ⟨.and, .compare column "<" (.scalar (.int 50)) 2⟩ ∧
    here.2.query.clauses[2]? = alone.2.query.clauses[1]? ∧
    here.2.bindings = [.int 1, .int 5, .int 50, .int 5, .int 60] := by
  intro q b scores column calls alone here
  have hb : b.Reachable (fun _ => True) (fun _ => True) := .nest .and (.fresh none {}) trivial
  obtain ⟨hresults, -, hclauses, hbindings, -, -⟩ := program_acts_independently b hb calls
  refine ⟨hb, rfl, hresults, rfl, ?_, ?_, ?_⟩
  · rw [hclauses]
    rfl
  · rw [hclauses]
    rfl
  · rw [hbindings]
    rfl

end SqlCompose
