import SqlCompose.Proofs.Contents
import SqlCompose.Proofs.Reachable

/-!
# Comparisons with null

Null is looked for in a value as it is given, and a comparison binds the one
scalar that is left when lists are taken apart. The two agree on null itself, which
becomes a null check or is refused, and they disagree on a list whose only scalar
is null: it passes for a value and null is bound. There is no other way for a null
to be bound.
-/

namespace SqlCompose

namespace Bindings

theorem mem_toList {b : Bindings} {s : Scalar} : s ∈ b.toList ↔ ∃ c, s ∈ b.get c := by
  simp only [toList, List.mem_flatMap]
  constructor
  · rintro ⟨c, -, h⟩
    exact ⟨c, h⟩
  · rintro ⟨c, h⟩
    exact ⟨c, c.mem_all, h⟩

theorem toList_append_subset (b : Bindings) (c : Category) (scalars : List Scalar) :
    (b.append c scalars).toList ⊆ b.toList ++ scalars := by
  intro s hs
  obtain ⟨c', h⟩ := mem_toList.mp hs
  rw [get_append] at h
  rw [List.mem_append]
  split_ifs at h
  · rcases List.mem_append.mp h with h | h
    · exact .inl (mem_toList.mpr ⟨c, h⟩)
    · exact .inr h
  · exact .inl (mem_toList.mpr ⟨c', h⟩)

end Bindings

/-- No value is null itself, and null is bound only as the one scalar of some value. -/
structure BoundBy (scalars : List Scalar) (values : List Value) : Prop where
  notNull : ∀ v ∈ values, v.isNull = false
  bound : .null ∈ scalars → ∃ v ∈ values, v.scalars = [.null]

namespace BoundBy

variable {scalars scalars' : List Scalar} {values values' : List Value}

/-- Values without the scalars that they bind. -/
theorem of_notNull (h : ∀ v ∈ values, v.isNull = false) : BoundBy [] values :=
  ⟨h, by simp⟩

theorem of_subset (h : BoundBy scalars values) (hs : scalars' ⊆ scalars) :
    BoundBy scalars' values :=
  ⟨h.notNull, fun hmem => h.bound (hs hmem)⟩

theorem append (h : BoundBy scalars values) (h' : BoundBy scalars' values') :
    BoundBy (scalars ++ scalars') (values ++ values') where
  notNull v hv := by
    rcases List.mem_append.mp hv with hv | hv
    · exact h.notNull v hv
    · exact h'.notNull v hv
  bound hs := by
    rcases List.mem_append.mp hs with hs | hs
    · obtain ⟨v, hv, heq⟩ := h.bound hs
      exact ⟨v, List.mem_append_left _ hv, heq⟩
    · obtain ⟨v, hv, heq⟩ := h'.bound hs
      exact ⟨v, List.mem_append_right _ hv, heq⟩

theorem singleton {v : Value} {s : Scalar} (hn : v.isNull = false) (hs : v.scalars = [s]) :
    BoundBy [s] [v] where
  notNull := by simpa using hn
  bound hmem := by
    rw [List.mem_singleton] at hmem
    exact ⟨v, List.mem_singleton.mpr rfl, by rw [hs, hmem]⟩

/-- A value with null as its one scalar is a list. -/
theorem list_of_null (h : BoundBy scalars values) {v : Value} (hv : v ∈ values)
    (hs : v.scalars = [.null]) : ∃ items, v = .list items := by
  have hnull := h.notNull v hv
  cases v with
  | scalar s =>
    rw [Value.scalars_scalar, List.singleton_inj] at hs
    subst hs
    cases hnull
  | list items => exact ⟨items, rfl⟩

end BoundBy

/-- Null is not bound, neither by the query nor by a comparison at any depth of it. -/
def Query.BindsNoNull (q : Query) : Prop :=
  .null ∉ q.bindings.toList ∧ ∀ v ∈ q.values, v.single? ≠ some .null

/-- No comparison of a query is given null itself, and where null is bound a comparison binds it. -/
def Query.ComparesNoNull (q : Query) : Prop :=
  BoundBy q.bindings.toList q.values

open Query (ComparesNoNull)

theorem Query.BindsNoNull.comparesNoNull {q : Query} (h : q.BindsNoNull) : q.ComparesNoNull where
  notNull v hv := by
    by_contra hn
    rw [Bool.not_eq_false] at hn
    exact h.2 v hv (Value.single?_eq_some_iff.mpr (Value.scalars_of_isNull hn))
  bound hmem := (h.1 hmem).elim

/-- What stands between the two is a list with null as its one scalar. -/
theorem Query.ComparesNoNull.bindsNoNull_iff {q : Query} (h : q.ComparesNoNull) :
    q.BindsNoNull ↔ ∀ items, .list items ∈ q.values → (Value.list items).single? ≠ some .null := by
  have hbound : BoundBy q.bindings.toList q.values := h
  constructor
  · intro hq items hitems
    exact hq.2 _ hitems
  · intro hlists
    have hvalues : ∀ v ∈ q.values, v.single? ≠ some .null := by
      intro v hv hs
      obtain ⟨items, rfl⟩ := hbound.list_of_null hv (Value.single?_eq_some_iff.mp hs)
      exact hlists items hv hs
    refine ⟨?_, hvalues⟩
    intro hmem
    obtain ⟨v, hv, hs⟩ := hbound.bound hmem
    exact hvalues v hv (Value.single?_eq_some_iff.mpr hs)

/-- What a call contributes, with the values of its clauses. -/
def Addition.ComparesNoNull (a : Addition) : Prop :=
  BoundBy a.scalars (Clause.valuesList a.clauses)

theorem Addition.comparesNoNull_nullChecks {connective : Connective} {negated : Bool}
    {columns : List ColumnRef} (h : ∀ c ∈ columns, ∀ v ∈ c.values, v.isNull = false) :
    (nullChecks connective negated columns).ComparesNoNull := by
  apply BoundBy.of_notNull
  induction columns with
  | nil => simp [nullChecks, Clause.valuesList]
  | cons column columns ih =>
    have hcolumn := h column (List.mem_cons_self ..)
    have hcolumns := ih fun c hc => h c (List.mem_cons_of_mem _ hc)
    intro v hv
    have hmem : v ∈ column.values ∨
        v ∈ Clause.valuesList (nullChecks connective negated columns).clauses := by
      cases negated <;>
        simpa [nullChecks, Clause.valuesList, Predicate.values] using hv
    rcases hmem with hmem | hmem
    · exact hcolumn v hmem
    · exact hcolumns v hmem

/-- A comparison binds the scalar of its own value, beside whatever its column holds. -/
theorem Compared.comparesNoNull {column : ColumnRef} {a : Addition} {scalars : List Scalar}
    (h : Compared ComparesNoNull column a) (hc : BoundBy scalars column.values) :
    BoundBy (scalars ++ a.scalars) (Clause.valuesList a.clauses) := by
  cases h with
  | null connective negated =>
    cases negated <;>
      simpa [Addition.nullChecks, Clause.valuesList, Predicate.values] using hc
  | value connective operator offset hn hv =>
    have h := hc.append (.singleton hn (Value.single?_eq_some_iff.mp hv))
    simpa [Addition.single, Clause.valuesList, Predicate.values] using h
  | subselect connective operator hq =>
    have h := hc.append hq
    simpa [Addition.single, Clause.valuesList, Predicate.values] using h

theorem Contributed.comparesNoNull {a : Addition}
    (h : Contributed ComparesNoNull ComparesNoNull a) : a.ComparesNoNull := by
  cases h with
  | @column c a hc h =>
    have hvalues : ∀ v ∈ c.values, v.isNull = false := by
      cases c with
      | name text => simp [ColumnRef.values]
      | raw sql => simp [ColumnRef.values]
      | subquery q =>
        have hq : q.ComparesNoNull := hc
        exact hq.notNull
    exact h.comparesNoNull (.of_notNull hvalues)
  | subquery hq h => exact h.comparesNoNull hq
  | @group q connective hq =>
    unfold Addition.group
    split
    · have hq' : BoundBy q.bindings.toList q.values := hq
      simpa [Addition.ComparesNoNull, Addition.single, Clause.valuesList,
        Predicate.values_group] using hq'
    · exact .of_notNull (by simp [Clause.valuesList])
  | nullChecks connective negated columns =>
    apply Addition.comparesNoNull_nullChecks
    intro c hc
    obtain ⟨name, -, rfl⟩ := List.mem_map.mp hc
    simp [ColumnRef.values]

theorem Query.ComparesNoNull.invariant : Invariant ComparesNoNull ComparesNoNull where
  empty := .of_notNull (by simp [Query.values, Clause.valuesList])
  congr := by
    intro q q' h hc hb
    rwa [ComparesNoNull, q'.values_eq, hc, ← q.values_eq, hb]
  add := by
    intro b a hb ha
    have hsum := BoundBy.append hb ha.comparesNoNull
    rw [ComparesNoNull, Query.values_eq, Builder.clauses_add, Clause.valuesList_append,
      ← Query.values_eq]
    exact hsum.of_subset (Bindings.toList_append_subset _ _ _)

/-- A comparison with null itself becomes a null check, or is refused where the operator has none. -/
theorem Builder.compare_null (b : Builder) {v : Value} (h : v.isNull = true) (column : ColumnRef)
    (operator : String) (connective : Connective) (offset : Nat) :
    b.compare column operator (.value v) connective offset =
      if ["=", "!=", "<>"].contains operator then
        .ok (.nullChecks connective (operator != "=") [column])
      else .error (.nullComparison operator) := by
  have hillegal : isIllegalNull operator v = !(["=", "!=", "<>"].contains operator) := by
    rw [isIllegalNull, h, Bool.true_and]
  rw [compare, compareValue, hillegal, h]
  cases ["=", "!=", "<>"].contains operator <;> rfl

/-- An accepted comparison with a value binds null for a list with null as its one scalar only. -/
theorem Builder.compare_binds_null_iff (b : Builder) {column : ColumnRef} {operator : String}
    {v : Value} {connective : Connective} {offset : Nat} {a : Addition}
    (h : b.compare column operator (.value v) connective offset = .ok a) :
    .null ∈ a.scalars ↔ v.isNull = false ∧ v.single? = some .null := by
  cases hn : v.isNull with
  | true =>
    rw [b.compare_null hn] at h
    split at h
    · cases h
      simp [Addition.nullChecks]
    · cases h
  | false =>
    simp only [compare, compareValue, isIllegalNull, hn, Bool.false_and, Bool.false_eq_true,
      if_false] at h
    cases hs : v.single? with
    | none =>
      rw [hs] at h
      cases h
    | some s =>
      rw [hs] at h
      cases h
      simp [Addition.single, eq_comm]

/-- In every builder that calls can reach, no comparison at any depth is given null itself, and
null is bound exactly if the value of some comparison is a list with null as its one scalar. The
queries given by hand may be any that bind no null, and more. A comparison with null becomes a
null check or is refused; one with another value that is accepted binds null for such a list only. -/
theorem null_is_bound_only_through_lists (b : Builder)
    (hb : b.Reachable ComparesNoNull ComparesNoNull) :
    (∀ v ∈ b.query.values, v.isNull = false) ∧
    (b.query.BindsNoNull ↔
      ∀ items, .list items ∈ b.query.values → (Value.list items).single? ≠ some .null) ∧
    (∀ q : Query, q.BindsNoNull → q.ComparesNoNull) ∧
    ∀ (column : ColumnRef) (operator : String) (v : Value) (connective : Connective) (offset : Nat),
      (v.isNull = true → b.compare column operator (.value v) connective offset =
        if ["=", "!=", "<>"].contains operator then
          .ok (.nullChecks connective (operator != "=") [column])
        else .error (.nullComparison operator)) ∧
      ∀ a, b.compare column operator (.value v) connective offset = .ok a →
        (.null ∈ a.scalars ↔ v.isNull = false ∧ v.single? = some .null) := by
  have hq : b.query.ComparesNoNull := hb.invariant ComparesNoNull.invariant fun _ hq => hq
  refine ⟨hq.notNull, hq.bindsNoNull_iff, fun _ h => h.comparesNoNull, ?_⟩
  intro column operator v connective offset
  exact ⟨fun h => b.compare_null h column operator connective offset,
    fun a ha => b.compare_binds_null_iff ha⟩

/-- A comparison with null, one inside a group with a list of one number, and a group given by
hand with a binding that no clause of it needs. -/
theorem null_is_bound_only_through_lists_in_group :
    let run : Build Unit := do
      .whereEq "a" (.scalar .null)
      .whereGroup .or (.whereOp "b" ">" (.list [.scalar (.int 5)]))
    let q : Query := {
      clauses := [⟨.and, .isNull (.name "c")⟩]
      bindings := { filter := [.int 6] } }
    let b : Builder := (run (.ofTable "t")).2.add (.group .or q)
    b.Reachable ComparesNoNull ComparesNoNull ∧
    b.bindings = [.int 5, .int 6] ∧
    b.query.BindsNoNull ∧
    b.compare (.name "a") "<" (.value (.scalar .null)) .and 1 = .error (.nullComparison "<") := by
  intro run q b
  have hnull : (Build.whereEq "a" (.scalar .null)).Stays ComparesNoNull ComparesNoNull :=
    .dispatchValue trivial rfl
  have hfive : (Build.whereOp "b" ">" (.list [.scalar (.int 5)])).Stays
      ComparesNoNull ComparesNoNull := .dispatchValue trivial rfl
  have hrun : run.Stays ComparesNoNull ComparesNoNull :=
    hnull.bind fun _ => .dispatch trivial (List.forall_mem_singleton.mpr hfive)
  have hq : q.BindsNoNull := ⟨by decide, by simp [q, Query.values, Clause.valuesList,
    Predicate.values, ColumnRef.values]⟩
  have hb : b.Reachable ComparesNoNull ComparesNoNull :=
    (hrun (.ofTable "t") (.fresh (some "t") {})).nest .or hq.comparesNoNull
  obtain ⟨-, hbinds, -, hcompare⟩ := null_is_bound_only_through_lists b hb
  have hvalues : b.query.values = [.list [.scalar (.int 5)]] := rfl
  have hlists : ∀ items, .list items ∈ b.query.values →
      (Value.list items).single? ≠ some .null := by
    intro items hmem
    rw [hvalues, List.mem_singleton] at hmem
    rw [hmem]
    decide
  refine ⟨hb, rfl, hbinds.mpr hlists, ?_⟩
  exact (hcompare (.name "a") "<" (.scalar .null) .and 1).1 rfl

/-- A list of null is compared by a placeholder, although a list of one other scalar is compared
like that scalar, and null itself is not compared so. -/
theorem list_of_null_is_bound :
    let run : Build Unit := .whereEq "a" (.list [.scalar .null])
    let b : Builder := (run (.ofTable "t")).2
    (run (.ofTable "t")).1 = .ok () ∧
    b.Reachable (fun _ => False) (fun _ => False) ∧
    b.query.clauses = [⟨.and, .compare (.name "a") "=" (.list [.scalar .null]) 1⟩] ∧
    b.bindings = [.null] ∧ ¬ b.query.BindsNoNull := by
  intro run b
  have hrun : run.Stays (fun _ => False) (fun _ => False) := .dispatchValue trivial rfl
  have hb : b.Reachable (fun _ => False) (fun _ => False) :=
    hrun (.ofTable "t") (.fresh (some "t") {})
  have hbindings : b.bindings = [.null] := rfl
  refine ⟨rfl, hb, rfl, hbindings, ?_⟩
  intro h
  exact h.1 (List.mem_singleton.mpr rfl)

end SqlCompose
