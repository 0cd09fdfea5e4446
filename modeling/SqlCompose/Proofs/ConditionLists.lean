import SqlCompose.Proofs.Independence
import SqlCompose.Proofs.PositionalCalls

/-!
# Lists of conditions

A list of conditions is a group of positional calls, one for each condition, on its
column by name. Whether every condition has an argument is settled first, before any
call is made. Then each condition is read with the options of the builder that the
list is given to, and contributes what its call would contribute there. The group
holds these contributions one after the other, unless one of the calls is refused,
which refuses the list.
-/

namespace Except

variable {ε α β : Type} {f : α → Except ε β} {a : α} {as : List α}

theorem mapM_cons_eq_ok_iff {bs : List β} :
    (a :: as).mapM f = .ok bs ↔
      ∃ b bs', f a = .ok b ∧ as.mapM f = .ok bs' ∧ bs = b :: bs' := by
  simp only [List.mapM_cons, bind_eq_ok_iff]
  constructor
  · rintro ⟨b, hb, bs', hbs', h⟩
    cases h
    exact ⟨b, bs', hb, hbs', rfl⟩
  · rintro ⟨b, bs', hb, hbs', rfl⟩
    exact ⟨b, hb, bs', hbs', rfl⟩

theorem mapM_cons_eq_error_iff {e : ε} :
    (a :: as).mapM f = .error e ↔ f a = .error e ∨ ∃ b, f a = .ok b ∧ as.mapM f = .error e := by
  simp only [List.mapM_cons, bind_eq_error_iff]
  constructor
  · rintro (h | ⟨b, hb, h | ⟨bs, -, h⟩⟩)
    · exact .inl h
    · exact .inr ⟨b, hb, h⟩
    · cases h
  · rintro (h | ⟨b, hb, h⟩)
    · exact .inl h
    · exact .inr ⟨b, hb, .inl h⟩

end Except

namespace SqlCompose

namespace Condition

/-- A condition as a positional call. -/
def positional (c : Condition) : WhereCall :=
  .dynamic (.text c.column) c.args

/-- What a condition contributes as a call of its own. -/
def contribution (b : Builder) (c : Condition) : Except Error Addition :=
  c.positional.shape b >>= b.addition

theorem contribution_eq (b : Builder) (c : Condition) :
    c.contribution b = ColumnCall.ofArgs b.options (.name c.column) c.args >>= b.compareColumn := by
  simp only [contribution, positional, WhereCall.shape, Shape.ofArgs]
  cases ColumnCall.ofArgs b.options (.name c.column) c.args with
  | error e => rfl
  | ok call => rfl

theorem call_eq (c : Condition) : c.call = c.positional.run := by
  rw [WhereCall.run_eq]
  apply congrArg Build.contribute
  funext b
  exact (c.contribution_eq b).symm

/-- The conditions of a list are carried out as positional calls. -/
theorem calls_eq_forM (cs : List Condition) : calls cs = cs.forM fun c => c.positional.run := by
  induction cs with
  | nil => rfl
  | cons c cs ih =>
    rw [calls, call_eq, ih]
    rfl

/-- A condition reads nothing of a builder but its options. -/
theorem contribution_of_beside {n : Nat} {b alone : Builder} (h : b.Beside n alone)
    (c : Condition) : c.contribution b = c.contribution alone := by
  simp only [contribution_eq, h.options]
  cases ColumnCall.ofArgs alone.options (.name c.column) c.args with
  | error e => rfl
  | ok call => exact h.compareColumn_eq call

end Condition

/-- The contributions of several calls as one. -/
def Addition.concat (as : List Addition) : Addition :=
  ⟨as.flatMap (·.clauses), as.flatMap (·.scalars)⟩

namespace Builder

theorem beside_add (b : Builder) (a : Addition) : (b.add a).Beside a.scalars.length b where
  table := rfl
  options := rfl
  size := by
    rw [bindings_add, Bindings.size_append]
    omega

theorem add_concat_cons (b : Builder) (a : Addition) (as : List Addition) :
    b.add (.concat (a :: as)) = (b.add a).add (.concat as) := by
  simp [add, Addition.concat, Bindings.append_append]

end Builder

namespace Condition

variable {b : Builder} {cs : List Condition}

/-- The part of a condition that is looked at before any call is made: its column, and whether it
has no argument. No callback is seen in it. -/
def outline (c : Condition) : String × Bool :=
  (c.column, c.args.isEmpty)

theorem find?_eq_none_iff : cs.find? (·.args.isEmpty) = none ↔ ∀ c ∈ cs, c.args ≠ [] := by
  simp

/-- The first condition without an argument is found from the outlines. -/
theorem find?_map_column (cs : List Condition) :
    (cs.find? (·.args.isEmpty)).map (·.column) = ((cs.map outline).find? (·.2)).map (·.1) := by
  rw [List.find?_map, Option.map_map]
  rfl

/-- What the calls before have added does not change what a condition contributes. -/
theorem contribution_add (b : Builder) (a : Addition) :
    contribution (b.add a) = contribution b := by
  funext c
  exact contribution_of_beside (b.beside_add a) c

theorem contribution_forGroup (b : Builder) : contribution b.forGroup = contribution b := by
  funext c
  exact (contribution_of_beside b.beside_forGroup c).symm

/-- Calls contribute what each of them contributes to the builder as it was. -/
theorem calls_of_contributions {as : List Addition} (h : cs.mapM (contribution b) = .ok as) :
    calls cs b = (.ok (), b.add (.concat as)) := by
  induction cs generalizing b as with
  | nil =>
    cases h
    have hnone : b.add (.concat []) = b := b.add_empty
    exact Prod.ext rfl hnone.symm
  | cons c cs ih =>
    obtain ⟨a, as', ha, has, rfl⟩ := Except.mapM_cons_eq_ok_iff.mp h
    rw [← contribution_add b a] at has
    rw [calls, Build.bind_apply, call_apply, ← contribution_eq, ha, b.add_concat_cons]
    exact ih has

/-- Calls are refused as the first of them is that contributes nothing. -/
theorem calls_of_refused {e : Error} (h : cs.mapM (contribution b) = .error e) :
    (calls cs b).1 = .error e := by
  induction cs generalizing b with
  | nil => cases h
  | cons c cs ih =>
    rw [calls, Build.bind_apply, call_apply, ← contribution_eq]
    rcases Except.mapM_cons_eq_error_iff.mp h with hc | ⟨a, ha, hcs⟩
    · rw [hc]
    · rw [← contribution_add b a] at hcs
      rw [ha]
      exact ih hcs

/-- A condition contributes exactly one clause. -/
theorem exists_clause_of_contribution {c : Condition} {a : Addition}
    (h : c.contribution b = .ok a) : ∃ clause, a.clauses = [clause] := by
  rw [contribution_eq] at h
  obtain ⟨call, -, hcall⟩ := Except.bind_eq_ok_iff.mp h
  have hany : ∀ sub ∈ call.operand.subqueries, sub.Yields (fun _ => True) b := by
    intro sub _
    cases sub <;> simp [Subquery.Yields]
  cases Builder.compared_of_compareColumn hcall hany with
  | null connective negated => exact ⟨_, rfl⟩
  | value connective operator offset hn hs => exact ⟨_, rfl⟩
  | subselect connective operator hq => exact ⟨_, rfl⟩

/-- Conditions that contribute no clause are no conditions at all. -/
theorem eq_nil_of_no_clause {as : List Addition} (h : cs.mapM (contribution b) = .ok as)
    (hnone : as.flatMap (·.clauses) = []) : as = [] := by
  cases cs with
  | nil =>
    cases h
    rfl
  | cons c cs =>
    obtain ⟨a, as', ha, -, rfl⟩ := Except.mapM_cons_eq_ok_iff.mp h
    obtain ⟨clause, hclause⟩ := exists_clause_of_contribution ha
    rw [List.flatMap_cons, hclause] at hnone
    cases hnone

end Condition

namespace Builder

variable {b : Builder} {cs : List Condition}

/-- The first condition without an argument is named, whatever arguments the others have. -/
theorem conditions_without_arguments {before after : List Condition} {c : Condition}
    (hbefore : ∀ c' ∈ before, c'.args ≠ []) (hc : c.args = [])
    (h : cs.map Condition.outline = (before ++ c :: after).map Condition.outline)
    (connective : Connective) :
    b.conditions cs connective = .error (.conditionWithoutArguments c.column) := by
  have hnone := Condition.find?_eq_none_iff.mpr hbefore
  have hfind : (before ++ c :: after).find? (·.args.isEmpty) = some c := by
    simp [hnone, hc]
  have hcolumn : (cs.find? (·.args.isEmpty)).map (·.column) = some c.column := by
    rw [Condition.find?_map_column, h, ← Condition.find?_map_column, hfind]
    rfl
  obtain ⟨c', hfirst, hsame⟩ := Option.map_eq_some_iff.mp hcolumn
  rw [conditions, hfirst, ← hsame]

theorem conditions_eq_calls (hargs : ∀ c ∈ cs, c.args ≠ []) (connective : Connective) :
    b.conditions cs connective = b.group (Condition.calls cs) connective := by
  rw [conditions, Condition.find?_eq_none_iff.mpr hargs]

theorem conditions_eq_group (hargs : ∀ c ∈ cs, c.args ≠ []) (connective : Connective) :
    b.conditions cs connective = b.group (cs.forM fun c => c.positional.run) connective := by
  rw [conditions_eq_calls hargs, Condition.calls_eq_forM]

theorem conditions_of_contributions {as : List Addition} (hargs : ∀ c ∈ cs, c.args ≠ [])
    (h : cs.mapM (Condition.contribution b) = .ok as) (connective : Connective) :
    b.conditions cs connective =
      .ok (.group connective (b.forGroup.add (.concat as)).query) := by
  rw [← Condition.contribution_forGroup] at h
  have hfill := Build.fill_eq_ok_iff.mpr ⟨_, Condition.calls_of_contributions h, rfl⟩
  rw [conditions_eq_calls hargs, group]
  exact Except.map_eq_ok_iff.mpr ⟨_, hfill, rfl⟩

theorem conditions_of_refused_contribution {e : Error} (hargs : ∀ c ∈ cs, c.args ≠ [])
    (h : cs.mapM (Condition.contribution b) = .error e) (connective : Connective) :
    b.conditions cs connective = .error e := by
  rw [← Condition.contribution_forGroup] at h
  have hfill := Build.fill_eq_error_iff.mpr (Condition.calls_of_refused h)
  rw [conditions_eq_calls hargs, group]
  exact Except.map_eq_error_iff.mpr hfill

/-- The bindings of the conditions come after those held, in the order of the list. -/
theorem bindings_add_conditions {as : List Addition}
    (h : cs.mapM (Condition.contribution b) = .ok as) (connective : Connective) :
    (b.add (.group connective (b.forGroup.add (.concat as)).query)).query.bindings =
      b.query.bindings.append .filter (as.flatMap (·.scalars)) := by
  by_cases hnone : as.flatMap (·.clauses) = []
  · have hempty : (b.forGroup.add (.concat as)).query.clauses = [] := hnone
    rw [Addition.group_of_clauses_eq_nil hempty, Condition.eq_nil_of_no_clause h hnone]
    rfl
  · have hhas : (b.forGroup.add (.concat as)).query.hasClauses = true :=
      Query.hasClauses_eq_true_iff.mpr hnone
    have hfresh : ∀ c, c ≠ .filter → b.forGroup.query.bindings.get c = [] :=
      fun c _ => by cases c <;> rfl
    have hbound : (b.forGroup.add (.concat as)).query.bindings.toList =
        as.flatMap (·.scalars) := Bindings.toList_append_filter hfresh _
    rw [Addition.group, if_pos hhas, bindings_add, Addition.single, hbound]

end Builder

theorem Build.contribute_of_error {f : Builder → Except Error Addition} {b : Builder} {e : Error}
    (h : f b = .error e) : contribute f b = (.error e, b) := by
  simp [contribute, h]

theorem WhereCall.run_all (connective : Connective) (cs : List Condition) :
    (all connective cs).run = .contribute (·.conditions cs connective) := rfl

theorem WhereCall.run_all_without_arguments {before after : List Condition} {c : Condition}
    (hbefore : ∀ c' ∈ before, c'.args ≠ []) (hc : c.args = []) (connective : Connective)
    (b : Builder) (cs : List Condition)
    (h : cs.map Condition.outline = (before ++ c :: after).map Condition.outline) :
    (all connective cs).run b = (.error (.conditionWithoutArguments c.column), b) := by
  rw [run_all]
  exact Build.contribute_of_error (Builder.conditions_without_arguments hbefore hc h connective)

/-- A list of conditions one of which has no argument is refused for the first such condition. No
callback is run before that: all lists on the same columns with arguments in the same places are
refused alike, whatever these arguments are. Otherwise it is the group of the positional calls on
the columns of the conditions, up to the first that is refused: as one clause it adds what the
conditions contribute on the builder itself, in their order, or nothing if there is none. -/
theorem condition_list_is_group_of_calls (connective : Connective) (b : Builder)
    (cs : List Condition) :
    (∀ before c after, cs = before ++ c :: after → (∀ c' ∈ before, c'.args ≠ []) → c.args = [] →
      let e : Error := .conditionWithoutArguments c.column
      e.kind = .classification ∧
      (WhereCall.all connective cs).run b = (.error e, b) ∧
      ∀ (b' : Builder) (cs' : List Condition),
        cs'.map Condition.outline = cs.map Condition.outline →
        (WhereCall.all connective cs').run b' = (.error e, b')) ∧
    ((∀ c ∈ cs, c.args ≠ []) →
      (WhereCall.all connective cs).run b =
        (WhereCall.group connective (cs.forM fun c =>
          (WhereCall.dynamic (.text c.column) c.args).run)).run b ∧
      (∀ as, cs.mapM (Condition.contribution b) = .ok as →
        let filled := b.add (.group connective (b.forGroup.add (.concat as)).query)
        (WhereCall.all connective cs).run b = (.ok (), filled) ∧
        filled.query.bindings = b.query.bindings.append .filter (as.flatMap (·.scalars)) ∧
        (as.flatMap (·.clauses) = [] → filled = b)) ∧
      ∀ e, cs.mapM (Condition.contribution b) = .error e →
        (WhereCall.all connective cs).run b = (.error e, b)) ∧
    (WhereCall.all connective []).run b = (.ok (), b) := by
  refine ⟨?_, ?_, ?_⟩
  · rintro before c after rfl hbefore hc
    refine ⟨rfl, WhereCall.run_all_without_arguments hbefore hc connective b _ rfl, ?_⟩
    intro b' cs' h
    exact WhereCall.run_all_without_arguments hbefore hc connective b' cs' h
  · intro hargs
    refine ⟨?_, ?_, ?_⟩
    · exact WhereCall.run_congr (Builder.conditions_eq_group hargs connective)
    · intro as has filled
      have hrun := Builder.conditions_of_contributions hargs has connective
      refine ⟨?_, Builder.bindings_add_conditions has connective, ?_⟩
      · rw [WhereCall.run_all]
        exact Build.contribute_of_ok hrun
      · intro hnone
        have hempty : (b.forGroup.add (.concat as)).query.clauses = [] := hnone
        simp only [filled, Addition.group_of_clauses_eq_nil hempty, Builder.add_empty]
    · intro e he
      rw [WhereCall.run_all]
      exact Build.contribute_of_error
        (Builder.conditions_of_refused_contribution hargs he connective)
  · have hnothing : b.conditions [] connective = .ok {} := rfl
    rw [WhereCall.run_all, Build.contribute_of_ok hnothing, b.add_empty]

/-- On a builder with options of its own: a list with a sub-select, one with a callback that would
give up before two conditions without arguments, and one that such a callback stops. With another
callback the second is refused alike, also on a fresh builder. -/
theorem condition_list_is_group_of_calls_with_options :
    let b : Builder := {
      query := { table := some "t", bindings := { filter := [.int 1] } }
      options := ⟨"like", .or, 7⟩ }
    let large : Subquery := .callback (.whereOp "total" ">" (.scalar (.int 5)))
    let stop : Error := .reported .config "stop"
    let start : Condition := ⟨"name", [.value (.scalar (.text "x"))]⟩
    let giveUp : Condition := ⟨"id", [.text "in", .query (.callback (.refuse stop))]⟩
    let goOn : Condition := ⟨"id", [.text "in", .query large]⟩
    let cs : List Condition := [start, ⟨"id", [.text "in", .query large, .text "and"]⟩]
    let filled := ((WhereCall.all .and cs).run b).2
    (WhereCall.all .and [giveUp, ⟨"a", []⟩, ⟨"b", []⟩]).run b =
      (.error (.conditionWithoutArguments "a"), b) ∧
    (WhereCall.all .and [goOn, ⟨"a", []⟩, ⟨"b", []⟩]).run {} =
      (.error (.conditionWithoutArguments "a"), {}) ∧
    (WhereCall.all .and cs).run b =
      (WhereCall.group .and (cs.forM fun c =>
        (WhereCall.dynamic (.text c.column) c.args).run)).run b ∧
    (filled.query.clauses.map fun clause => clause.connective) = [.and] ∧
    filled.bindings = [.int 1, .text "x", .int 5] ∧
    (WhereCall.all .and [start, giveUp, ⟨"c", [.offset 1]⟩]).run b = (.error stop, b) := by
  intro b large stop start giveUp goOn cs filled
  have hmissing := (condition_list_is_group_of_calls .and b [giveUp, ⟨"a", []⟩, ⟨"b", []⟩]).1
  obtain ⟨-, hrefused, halike⟩ :=
    hmissing [giveUp] ⟨"a", []⟩ [⟨"b", []⟩] rfl (by simp [giveUp]) rfl
  have hstopped := (condition_list_is_group_of_calls .and b
    [start, giveUp, ⟨"c", [.offset 1]⟩]).2.1
  obtain ⟨-, hcs, -⟩ := condition_list_is_group_of_calls .and b cs
  obtain ⟨hgroup, hfilled, -⟩ := hcs (by simp [cs, start])
  obtain ⟨hrun, hbound, -⟩ := hfilled _ rfl
  refine ⟨hrefused, halike {} _ rfl, hgroup, ?_, ?_, ?_⟩
  · simp only [filled, hrun]
    rfl
  · simp only [filled, hrun, Builder.bindings, hbound]
    rfl
  · exact (hstopped (by simp [start, giveUp])).2.2 stop rfl

end SqlCompose
