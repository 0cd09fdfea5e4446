import SqlCompose.Proofs.Contribution

/-!
# Why a call is refused

A call is refused for its arguments, and then the refusal is of the kind for
malformed conditions, or because a callback that it ran was refused, and then
with the very error of the callback.
-/

namespace SqlCompose

/-- A result that is refused for wrong arguments, if at all. -/
def OnlyClassifies {α : Type} (result : Except Error α) : Prop :=
  ∀ e, result = .error e → e.kind = .classification

namespace OnlyClassifies

variable {α β : Type}

theorem ok (a : α) : OnlyClassifies (.ok a) := by
  intro e h
  cases h

theorem error {e : Error} (h : e.kind = .classification) :
    OnlyClassifies (.error e : Except Error α) := by
  intro e' he
  cases he
  exact h

theorem bind {x : Except Error α} {f : α → Except Error β} (hx : OnlyClassifies x)
    (hf : ∀ a, OnlyClassifies (f a)) : OnlyClassifies (x >>= f) := by
  intro e h
  rcases Except.bind_eq_error_iff.mp h with h | ⟨a, -, h⟩
  · exact hx e h
  · exact hf a e h

theorem map {x : Except Error α} (f : α → β) (hx : OnlyClassifies x) :
    OnlyClassifies (x.map f) := by
  intro e h
  exact hx e (Except.map_eq_error_iff.mp h)

end OnlyClassifies

/-! ## Reading arguments -/

theorem Connective.onlyClassifies_parse (word : String) :
    OnlyClassifies (Connective.parse word) := by
  unfold Connective.parse
  split
  · exact .ok _
  · exact .error rfl

theorem Arg.onlyClassifies_toOperand (arg : Arg) : OnlyClassifies arg.toOperand := by
  cases arg <;> first | exact .ok _ | exact .error rfl

namespace Prepared

theorem onlyClassifies_close (p : Prepared) (args : List Arg) : OnlyClassifies (p.close args) := by
  cases args with
  | nil => exact .ok p
  | cons arg args => exact .error rfl

theorem onlyClassifies_withOffset (p : Prepared) (args : List Arg) :
    OnlyClassifies (p.withOffset args) := by
  unfold withOffset
  split <;> exact onlyClassifies_close _ _

theorem onlyClassifies_withTail (p : Prepared) (args : List Arg) :
    OnlyClassifies (p.withTail args) := by
  unfold withTail
  split
  · exact (Connective.onlyClassifies_parse _).bind fun c => onlyClassifies_withOffset _ _
  · exact onlyClassifies_withOffset _ _

theorem onlyClassifies_ofArgs (defaults : Options) (args : List Arg) :
    OnlyClassifies (ofArgs defaults args) := by
  unfold ofArgs
  split
  · exact .ok _
  · exact (Arg.onlyClassifies_toOperand _).bind fun v => .ok _
  · exact (Arg.onlyClassifies_toOperand _).bind fun v => onlyClassifies_withTail _ _
  · exact (Arg.onlyClassifies_toOperand _).bind fun v => onlyClassifies_withTail _ _

end Prepared

theorem ColumnCall.onlyClassifies_ofArgs (defaults : Options) (column : ColumnRef)
    (args : List Arg) : OnlyClassifies (ofArgs defaults column args) :=
  (Prepared.onlyClassifies_ofArgs defaults args).bind fun _ => .ok _

namespace Shape

theorem onlyClassifies_connectiveOnly (fallback : Connective) (args : List Arg) :
    OnlyClassifies (connectiveOnly fallback args) := by
  unfold connectiveOnly
  split
  · exact .ok _
  · refine (Connective.onlyClassifies_parse _).bind fun c => ?_
    split
    · exact .ok c
    · exact .error rfl
  · exact .error rfl

theorem onlyClassifies_comparison (defaults : Options) (q : Subquery) (args : List Arg) :
    OnlyClassifies (comparison defaults q args) := by
  unfold comparison
  split
  · exact .error rfl
  · exact (Prepared.onlyClassifies_ofArgs defaults args).bind fun p => .ok _

theorem onlyClassifies_ofArgs (defaults : Options) (first : Arg) (args : List Arg) :
    OnlyClassifies (ofArgs defaults first args) := by
  unfold ofArgs
  split
  · exact (onlyClassifies_connectiveOnly _ _).map _
  · split
    · exact (onlyClassifies_connectiveOnly _ _).map _
    · exact onlyClassifies_comparison _ _ _
  · exact onlyClassifies_comparison _ _ _
  · exact (ColumnCall.onlyClassifies_ofArgs _ _ _).map _
  · exact (ColumnCall.onlyClassifies_ofArgs _ _ _).map _
  · exact .error rfl
  · exact .error rfl

end Shape

/-! ## The callbacks that a call runs -/

/-- The callbacks that a call of a shape runs, each with the child it is run on. A callback in a
list of conditions is run only after the conditions before it. -/
inductive Shape.Runs (b : Builder) : Shape → Build Unit → Builder → Prop
  | operand {call : ColumnCall} {run : Build Unit} : call.operand = .query (.callback run) →
      Runs b (.column call) run b.forSubquery
  | group (run : Build Unit) (connective : Connective) :
      Runs b (.group run connective) run b.forGroup
  | subquery (run : Build Unit) (operator : String) (value : Operand) (connective : Connective) :
      Runs b (.subquery (.callback run) operator value connective) run b.forSubquery
  | comparedWith {query : Subquery} {sub : Embedded} (run : Build Unit) (operator : String)
      (connective : Connective) : b.embed query = .ok sub →
      Runs b (.subquery query operator (.query (.callback run)) connective) run b.forSubquery
  | condition {before after : List Condition} {c : Condition} {child : Builder}
      {call : ColumnCall} {run : Build Unit} (connective : Connective) :
      (∀ c' ∈ before ++ c :: after, c'.args ≠ []) →
      Condition.calls before b.forGroup = (.ok (), child) →
      ColumnCall.ofArgs child.options (.name c.column) c.args = .ok call →
      call.operand = .query (.callback run) →
      Runs b (.conditions (before ++ c :: after) connective) run child.forSubquery

theorem Build.fill_eq_error_iff {run : Build Unit} {b : Builder} {e : Error} :
    run.fill b = .error e ↔ (run b).1 = .error e := by
  unfold fill
  rcases run b with ⟨e' | u, c⟩
  · simp
  · simp

namespace Builder

variable {b : Builder} {e : Error}

theorem onlyClassifies_compareValue (column : ColumnRef) (operator : String) (v : Value)
    (connective : Connective) (offset : Nat) :
    OnlyClassifies (compareValue column operator v connective offset) := by
  unfold compareValue
  split
  · exact .error rfl
  · split
    · exact .ok _
    · split
      · exact .ok _
      · exact .error rfl

theorem compare_of_refused {column : ColumnRef} {operator : String} {run : Build Unit}
    {connective : Connective} {offset : Nat} (h : (run b.forSubquery).1 = .error e) :
    b.compare column operator (.query (.callback run)) connective offset = .error e :=
  Except.bind_eq_error_iff.mpr (.inl (Build.fill_eq_error_iff.mpr h))

theorem compare_eq_error {column : ColumnRef} {operator : String} {value : Operand}
    {connective : Connective} {offset : Nat}
    (h : b.compare column operator value connective offset = .error e) :
    e.kind = .classification ∨
      ∃ run, value = .query (.callback run) ∧ (run b.forSubquery).1 = .error e := by
  cases value with
  | value v => exact .inl (onlyClassifies_compareValue column operator v connective offset e h)
  | query sub =>
    rcases Except.bind_eq_error_iff.mp h with h | ⟨q, -, h⟩
    · cases sub with
      | raw sql =>
        cases h
        exact .inl rfl
      | callback run => exact .inr ⟨run, rfl, Build.fill_eq_error_iff.mp h⟩
      | builder child => cases h
    · cases h

theorem compareColumn_of_refused {call : ColumnCall} {run : Build Unit}
    (hc : call.operand = .query (.callback run)) (h : (run b.forSubquery).1 = .error e) :
    b.compareColumn call = .error e := by
  cases call <;> cases hc <;> rw [compareColumn, compare_of_refused h]

theorem compareColumn_eq_error {call : ColumnCall} (h : b.compareColumn call = .error e) :
    e.kind = .classification ∨
      ∃ run, call.operand = .query (.callback run) ∧ (run b.forSubquery).1 = .error e := by
  cases call <;> exact compare_eq_error h

theorem embed_eq_error {query : Subquery} (h : b.embed query = .error e) :
    e.kind = .classification ∨ ∃ run, query = .callback run ∧ (run b.forSubquery).1 = .error e := by
  cases query with
  | raw sql =>
    simp only [embed] at h
    split_ifs at h
    cases h
    exact .inl rfl
  | callback run =>
    have hrun := Build.fill_eq_error_iff.mp (Except.map_eq_error_iff.mp h)
    exact .inr ⟨run, rfl, hrun⟩
  | builder child => cases h

theorem compareSubquery_eq_error {query : Subquery} {operator : String} {value : Operand}
    {connective : Connective} (h : b.compareSubquery query operator value connective = .error e) :
    e.kind = .classification ∨ ∃ run child,
      (Shape.subquery query operator value connective).Runs b run child ∧
        (run child).1 = .error e := by
  rcases Except.bind_eq_error_iff.mp h with h | ⟨sub, hsub, h⟩
  · rcases embed_eq_error h with h | ⟨run, rfl, hrun⟩
    · exact .inl h
    · exact .inr ⟨run, _, .subquery run operator value connective, hrun⟩
  · rcases Except.bind_eq_error_iff.mp h with h | ⟨a, -, h⟩
    · rcases compare_eq_error h with h | ⟨run, rfl, hrun⟩
      · exact .inl h
      · exact .inr ⟨run, _, .comparedWith run operator connective hsub, hrun⟩
    · cases h

end Builder

namespace Condition

theorem call_apply (c : Condition) (b : Builder) :
    c.call b =
      match ColumnCall.ofArgs b.options (.name c.column) c.args >>= b.compareColumn with
      | .ok a => (.ok (), b.add a)
      | .error e => (.error e, b) := rfl

theorem calls_append_cons {before after : List Condition} {c : Condition} {b child : Builder}
    (h : calls before b = (.ok (), child)) :
    calls (before ++ c :: after) b = calls (c :: after) child := by
  induction before generalizing b with
  | nil =>
    cases h
    rfl
  | cons c' before ih =>
    rcases hc : c'.call b with ⟨e | u, b'⟩
    · simp only [calls, Build.bind_apply, hc] at h
      cases h
    · simp only [calls, Build.bind_apply, hc] at h
      simpa only [List.cons_append, calls, Build.bind_apply, hc] using ih h

/-- The first condition that is refused decides. -/
theorem calls_eq_error {cs : List Condition} {b b' : Builder} {e : Error}
    (h : calls cs b = (.error e, b')) :
    ∃ before c after child, cs = before ++ c :: after ∧ calls before b = (.ok (), child) ∧
      (ColumnCall.ofArgs child.options (.name c.column) c.args >>= child.compareColumn) =
        .error e := by
  induction cs generalizing b with
  | nil => cases h
  | cons c cs ih =>
    cases hc : (ColumnCall.ofArgs b.options (.name c.column) c.args >>= b.compareColumn) with
    | error e' =>
      simp only [calls, Build.bind_apply, call_apply, hc] at h
      cases h
      exact ⟨[], c, cs, _, rfl, rfl, hc⟩
    | ok a =>
      have hrun : calls cs (b.add a) = (.error e, b') := by
        simpa only [calls, Build.bind_apply, call_apply, hc] using h
      obtain ⟨before, c', after, child, rfl, hbefore, hrefused⟩ := ih hrun
      refine ⟨c :: before, c', after, child, rfl, ?_, hrefused⟩
      simpa only [calls, Build.bind_apply, call_apply, hc] using hbefore

end Condition

namespace Builder

variable {b : Builder} {e : Error}

theorem conditions_of_refused {before after : List Condition} {c : Condition} {child : Builder}
    {call : ColumnCall} {run : Build Unit} (connective : Connective)
    (hargs : ∀ c' ∈ before ++ c :: after, c'.args ≠ [])
    (hbefore : Condition.calls before b.forGroup = (.ok (), child))
    (hcall : ColumnCall.ofArgs child.options (.name c.column) c.args = .ok call)
    (hrun : call.operand = .query (.callback run)) (h : (run child.forSubquery).1 = .error e) :
    b.conditions (before ++ c :: after) connective = .error e := by
  have hfind : (before ++ c :: after).find? (·.args.isEmpty) = none := by
    rw [List.find?_eq_none]
    intro c' hc'
    simpa using hargs c' hc'
  have hc : (ColumnCall.ofArgs child.options (.name c.column) c.args >>= child.compareColumn) =
      .error e := by
    rw [hcall]
    exact compareColumn_of_refused hrun h
  have hcalls : (Condition.calls (before ++ c :: after) b.forGroup).1 = .error e := by
    rw [Condition.calls_append_cons hbefore, Condition.calls, Build.bind_apply,
      Condition.call_apply, hc]
  rw [conditions, hfind]
  exact Except.map_eq_error_iff.mpr (Build.fill_eq_error_iff.mpr hcalls)

theorem conditions_eq_error {cs : List Condition} {connective : Connective}
    (h : b.conditions cs connective = .error e) :
    e.kind = .classification ∨ ∃ run child,
      (Shape.conditions cs connective).Runs b run child ∧ (run child).1 = .error e := by
  unfold conditions at h
  cases hfind : cs.find? (·.args.isEmpty) with
  | some c =>
    rw [hfind] at h
    cases h
    exact .inl rfl
  | none =>
    rw [hfind] at h
    have hargs : ∀ c ∈ cs, c.args ≠ [] := by
      intro c hc
      simpa using List.find?_eq_none.mp hfind c hc
    have hcalls := Build.fill_eq_error_iff.mp (Except.map_eq_error_iff.mp h)
    obtain ⟨before, c, after, child, rfl, hbefore, hc⟩ :=
      Condition.calls_eq_error (Prod.ext hcalls rfl)
    rcases Except.bind_eq_error_iff.mp hc with hc | ⟨call, hcall, hc⟩
    · exact .inl (ColumnCall.onlyClassifies_ofArgs _ _ _ e hc)
    · rcases compareColumn_eq_error hc with hc | ⟨run, hrun, hc⟩
      · exact .inl hc
      · exact .inr ⟨run, _, .condition connective hargs hbefore hcall hrun, hc⟩

/-- The error of a callback is the error of the call. -/
theorem addition_of_refused {s : Shape} {run : Build Unit} {child : Builder}
    (hr : s.Runs b run child) (h : (run child).1 = .error e) : b.addition s = .error e := by
  cases hr with
  | operand hc => exact compareColumn_of_refused hc h
  | group connective =>
    exact Except.map_eq_error_iff.mpr (Build.fill_eq_error_iff.mpr h)
  | subquery operator value connective =>
    have he : b.embed (.callback run) = .error e :=
      Except.map_eq_error_iff.mpr (Build.fill_eq_error_iff.mpr h)
    exact Except.bind_eq_error_iff.mpr (.inl he)
  | @comparedWith query sub _ operator connective hsub =>
    have hc : b.compare sub.column operator (.query (.callback run)) connective sub.valueOffset =
        .error e := compare_of_refused h
    exact Except.bind_eq_error_iff.mpr (.inr ⟨sub, hsub, Except.bind_eq_error_iff.mpr (.inl hc)⟩)
  | condition connective hargs hbefore hcall hrun =>
    exact conditions_of_refused connective hargs hbefore hcall hrun h

/-- A call is refused for its arguments, or with the error of a callback. -/
theorem addition_eq_error {s : Shape} (h : b.addition s = .error e) :
    e.kind = .classification ∨ ∃ run child, s.Runs b run child ∧ (run child).1 = .error e := by
  cases s with
  | column call =>
    rcases compareColumn_eq_error h with h | ⟨run, hc, h⟩
    · exact .inl h
    · exact .inr ⟨run, _, .operand hc, h⟩
  | group run connective =>
    have hrun := Build.fill_eq_error_iff.mp (Except.map_eq_error_iff.mp h)
    exact .inr ⟨run, _, .group run connective, hrun⟩
  | subquery query operator value connective => exact compareSubquery_eq_error h
  | conditions cs connective => exact conditions_eq_error h

end Builder

end SqlCompose
