import SqlCompose.Builder.Where
import Mathlib.Tactic

/-!
# What a call contributes

A call contributes the comparison of a column, the comparison of a sub-query
together with the bindings of that sub-query, a group, or null checks. Nothing
else is ever appended to a builder, so a property of queries that survives these
few contributions holds of whatever the calls can build.
-/

namespace Except

variable {ε α β : Type}

theorem bind_eq_ok_iff {x : Except ε α} {f : α → Except ε β} {b : β} :
    (x >>= f) = .ok b ↔ ∃ a, x = .ok a ∧ f a = .ok b := by
  cases x with
  | error e => simp [bind, Except.bind]
  | ok a => simp [bind, Except.bind]

theorem bind_eq_error_iff {x : Except ε α} {f : α → Except ε β} {e : ε} :
    (x >>= f) = .error e ↔ x = .error e ∨ ∃ a, x = .ok a ∧ f a = .error e := by
  cases x with
  | error e => simp [bind, Except.bind]
  | ok a => simp [bind, Except.bind]

theorem map_eq_ok_iff {x : Except ε α} {f : α → β} {b : β} :
    x.map f = .ok b ↔ ∃ a, x = .ok a ∧ f a = b := by
  cases x with
  | error e => simp [Except.map]
  | ok a => simp [Except.map]

theorem map_eq_error_iff {x : Except ε α} {f : α → β} {e : ε} :
    x.map f = .error e ↔ x = .error e := by
  cases x with
  | error e => simp [Except.map]
  | ok a => simp [Except.map]

end Except

namespace SqlCompose

/-! ## The sub-queries in the arguments of a call -/

def Operand.subqueries : Operand → List Subquery
  | .value _ => []
  | .query q => [q]

def Arg.subqueries : Arg → List Subquery
  | .query q => [q]
  | _ => []

def Condition.subqueries (c : Condition) : List Subquery :=
  c.args.flatMap Arg.subqueries

/-- The sub-queries of an argument in the first place of a call. -/
def Arg.leadingSubqueries : Arg → List Subquery
  | .conditions cs => cs.flatMap Condition.subqueries
  | arg => arg.subqueries

namespace ColumnCall

def column : ColumnCall → ColumnRef
  | .value c _ => c
  | .operatorValue c _ _ => c
  | .operatorValueConnective c _ _ _ _ => c

def operand : ColumnCall → Operand
  | .value _ v => v
  | .operatorValue _ _ v => v
  | .operatorValueConnective _ _ v _ _ => v

end ColumnCall

def Shape.subqueries : Shape → List Subquery
  | .column call => call.operand.subqueries
  | .group run _ => [.callback run]
  | .subquery query _ value _ => query :: value.subqueries
  | .conditions cs _ => cs.flatMap Condition.subqueries

/-- A column that is a sub-query only if the sub-query is one of a kind. -/
def ColumnRef.Admitted (Q : Query → Prop) : ColumnRef → Prop
  | .name _ | .raw _ => True
  | .subquery q => Q q

/-- A shape with an admitted column, if it has one. -/
def Shape.Admitted (Q : Query → Prop) : Shape → Prop
  | .column call => call.column.Admitted Q
  | _ => True

/-! ## Reading arguments adds no sub-query -/

theorem Arg.subqueries_toOperand {arg : Arg} {value : Operand} (h : arg.toOperand = .ok value) :
    value.subqueries = arg.subqueries := by
  cases arg <;> cases h <;> rfl

namespace Prepared

theorem close_eq_ok {p p' : Prepared} {args : List Arg} (h : p.close args = .ok p') : p' = p := by
  cases args <;> cases h
  rfl

theorem value_withOffset {p p' : Prepared} {args : List Arg} (h : p.withOffset args = .ok p') :
    p'.value = p.value := by
  unfold withOffset at h
  split at h <;> rw [close_eq_ok h]

theorem value_withTail {p p' : Prepared} {args : List Arg} (h : p.withTail args = .ok p') :
    p'.value = p.value := by
  unfold withTail at h
  split at h
  · obtain ⟨c, -, h⟩ := Except.bind_eq_ok_iff.mp h
    have hv := value_withOffset h
    exact hv
  · exact value_withOffset h

theorem subqueries_ofArgs {defaults : Options} {args : List Arg} {p : Prepared} {value : Operand}
    (h : ofArgs defaults args = .ok p) (hv : p.value = some value) :
    value.subqueries ⊆ args.flatMap Arg.subqueries := by
  unfold ofArgs at h
  split at h
  · cases h
    cases hv
  · obtain ⟨v, ha, h⟩ := Except.bind_eq_ok_iff.mp h
    cases h
    cases hv
    simp [Arg.subqueries_toOperand ha]
  · obtain ⟨v, ha, h⟩ := Except.bind_eq_ok_iff.mp h
    rw [value_withTail h] at hv
    cases hv
    simp [Arg.subqueries_toOperand ha]
  · obtain ⟨v, ha, h⟩ := Except.bind_eq_ok_iff.mp h
    rw [value_withTail h] at hv
    cases hv
    simp [Arg.subqueries_toOperand ha]

/-- A value that is left out is null, and null holds no sub-query. -/
theorem subqueries_getD {defaults : Options} {args : List Arg} {p : Prepared}
    (h : ofArgs defaults args = .ok p) :
    (p.value.getD (.value (.scalar .null))).subqueries ⊆ args.flatMap Arg.subqueries := by
  cases hv : p.value with
  | none => simp [Operand.subqueries]
  | some value => exact subqueries_ofArgs h hv

end Prepared

theorem ColumnCall.of_ofArgs {defaults : Options} {column : ColumnRef} {args : List Arg}
    {call : ColumnCall} (h : ofArgs defaults column args = .ok call) :
    call.column = column ∧ call.operand.subqueries ⊆ args.flatMap Arg.subqueries := by
  obtain ⟨p, hp, h⟩ := Except.bind_eq_ok_iff.mp h
  have hs := Prepared.subqueries_getD hp
  cases h
  split_ifs <;> exact ⟨rfl, hs⟩

namespace Shape

theorem of_comparison {defaults : Options} {q : Subquery} {args : List Arg} {s : Shape}
    (Q : Query → Prop) (h : comparison defaults q args = .ok s) :
    s.Admitted Q ∧ s.subqueries ⊆ q :: args.flatMap Arg.subqueries := by
  unfold comparison at h
  split_ifs at h
  · cases h
  · obtain ⟨p, hp, h⟩ := Except.bind_eq_ok_iff.mp h
    cases h
    exact ⟨trivial, List.cons_subset_cons q (Prepared.subqueries_getD hp)⟩

theorem of_columnOfArgs {defaults : Options} {column : ColumnRef} {args : List Arg} {s : Shape}
    {Q : Query → Prop} (hc : column.Admitted Q)
    (h : (ColumnCall.ofArgs defaults column args).map .column = .ok s) :
    s.Admitted Q ∧ s.subqueries ⊆ args.flatMap Arg.subqueries := by
  obtain ⟨call, hcall, rfl⟩ := Except.map_eq_ok_iff.mp h
  obtain ⟨rfl, hs⟩ := ColumnCall.of_ofArgs hcall
  exact ⟨hc, hs⟩

/-- The shape of a dynamic call has no column that is a sub-query, and the sub-queries of the
call are those of its arguments. -/
theorem of_ofArgs {defaults : Options} {first : Arg} {args : List Arg} {s : Shape}
    (Q : Query → Prop) (h : ofArgs defaults first args = .ok s) :
    s.Admitted Q ∧ s.subqueries ⊆ first.leadingSubqueries ++ args.flatMap Arg.subqueries := by
  unfold ofArgs at h
  split at h
  · obtain ⟨c, -, rfl⟩ := Except.map_eq_ok_iff.mp h
    exact ⟨trivial, List.subset_append_left _ _⟩
  · split_ifs at h
    · obtain ⟨c, -, rfl⟩ := Except.map_eq_ok_iff.mp h
      exact ⟨trivial, List.subset_append_left _ _⟩
    · exact of_comparison Q h
  · exact of_comparison Q h
  · next name =>
    have hc : (ColumnRef.name name).Admitted Q := trivial
    exact of_columnOfArgs hc h
  · next sql =>
    have hc : (ColumnRef.raw sql).Admitted Q := trivial
    exact of_columnOfArgs hc h
  · cases h
  · cases h

end Shape

/-! ## Comparisons, groups and null checks -/

/-- What the comparison of a column contributes; a sub-select on its right has `P`. -/
inductive Compared (P : Query → Prop) (column : ColumnRef) : Addition → Prop
  | null (connective : Connective) (negated : Bool) :
      Compared P column (.nullChecks connective negated [column])
  | value {v : Value} {s : Scalar} (connective : Connective) (operator : String) (offset : Nat) :
      v.isNull = false → v.single? = some s →
      Compared P column (.single connective (.compare column operator v offset) [s])
  | subselect {q : Query} (connective : Connective) (operator : String) : P q →
      Compared P column
        (.single connective (.compareSubquery column operator q) q.bindings.toList)

/-- What a call contributes: `P` holds of every query that the call fills or embeds, and `Q` of a
query that is given to it as a column. -/
inductive Contributed (Q P : Query → Prop) : Addition → Prop
  | column {c : ColumnRef} {a : Addition} : c.Admitted Q → Compared P c a → Contributed Q P a
  | subquery {q : Query} {a : Addition} : P q → Compared P (.subquery q) a →
      Contributed Q P { a with scalars := q.bindings.toList ++ a.scalars }
  | group {q : Query} (connective : Connective) : P q → Contributed Q P (.group connective q)
  | nullChecks (connective : Connective) (negated : Bool) (columns : List String) :
      Contributed Q P (.nullChecks connective negated (columns.map .name))

/-- Whatever a sub-query is filled to on a child of a builder has `P`. -/
def Subquery.Yields (P : Query → Prop) (b : Builder) : Subquery → Prop
  | .raw _ => True
  | .callback run => ∀ child, child = b.forGroup ∨ child = b.forSubquery →
      ∀ q, run.fill child = .ok q → P q
  | .builder child => P child.query

/-- A property of queries that depends on clauses and bindings only, holds of the empty query and
survives whatever a call contributes. -/
structure Invariant (Q P : Query → Prop) : Prop where
  empty : P {}
  congr {q q' : Query} : P q → q'.clauses = q.clauses → q'.bindings = q.bindings → P q'
  add {b : Builder} {a : Addition} : P b.query → Contributed Q P a → P (b.add a).query

namespace Builder

variable {Q P : Query → Prop} {b : Builder} {a : Addition}

theorem of_subselect {sub : Subquery} {q : Query} (h : b.subselect sub = .ok q)
    (hs : sub.Yields P b) : P q := by
  cases sub with
  | raw sql => cases h
  | callback run => exact hs _ (.inr rfl) q h
  | builder child =>
    cases h
    exact hs

theorem compared_of_compareValue {column : ColumnRef} {operator : String} {v : Value}
    {connective : Connective} {offset : Nat}
    (h : compareValue column operator v connective offset = .ok a) : Compared P column a := by
  unfold compareValue at h
  split_ifs at h with hi hn
  · cases h
    exact .null connective _
  · split at h
    · next s hs =>
      cases h
      exact .value connective operator offset (by simpa using hn) hs
    · cases h

theorem compared_of_compare {column : ColumnRef} {operator : String} {value : Operand}
    {connective : Connective} {offset : Nat}
    (h : b.compare column operator value connective offset = .ok a)
    (hs : ∀ sub ∈ value.subqueries, sub.Yields P b) : Compared P column a := by
  cases value with
  | value v => exact compared_of_compareValue h
  | query sub =>
    obtain ⟨q, hq, h⟩ := Except.bind_eq_ok_iff.mp h
    cases h
    exact .subselect connective operator (of_subselect hq (hs sub (by simp [Operand.subqueries])))

theorem compared_of_compareColumn {call : ColumnCall} (h : b.compareColumn call = .ok a)
    (hs : ∀ sub ∈ call.operand.subqueries, sub.Yields P b) : Compared P call.column a := by
  cases call <;> exact compared_of_compare h hs

theorem contributed_of_compareSubquery {query : Subquery} {operator : String} {value : Operand}
    {connective : Connective} (h : b.compareSubquery query operator value connective = .ok a)
    (hs : ∀ sub ∈ query :: value.subqueries, sub.Yields P b) : Contributed Q P a := by
  obtain ⟨e, he, h⟩ := Except.bind_eq_ok_iff.mp h
  obtain ⟨a', ha, h⟩ := Except.bind_eq_ok_iff.mp h
  have hq : query.Yields P b := hs query (by simp)
  have hc := compared_of_compare (P := P) ha fun sub hsub => hs sub (by simp [hsub])
  cases h
  cases query with
  | raw sql =>
    simp only [embed] at he
    split_ifs at he
    cases he
    have hraw : (ColumnRef.raw ("(" ++ sql ++ ")")).Admitted Q := trivial
    exact .column hraw hc
  | callback run =>
    obtain ⟨q, hfill, rfl⟩ := Except.map_eq_ok_iff.mp he
    exact .subquery (hq _ (.inr rfl) q hfill) hc
  | builder child =>
    cases he
    exact .subquery hq hc

end Builder

/-! ## Whatever calls build keeps an invariant -/

/-- A contribution does not change the builders that callbacks are run on. -/
theorem Subquery.yields_add {P : Query → Prop} {b : Builder} (a : Addition) {sub : Subquery} :
    sub.Yields P (b.add a) ↔ sub.Yields P b := by
  cases sub <;> exact Iff.rfl

theorem Subquery.yields_forGroup {P : Query → Prop} {b : Builder} {sub : Subquery} :
    sub.Yields P b.forGroup ↔ sub.Yields P b := by
  cases sub <;> exact Iff.rfl

namespace Invariant

variable {Q P : Query → Prop} (hP : Invariant Q P) {b : Builder} {a : Addition}
include hP

theorem forGroup (b : Builder) : P b.forGroup.query :=
  hP.congr hP.empty rfl rfl

theorem conditions {cs : List Condition} {b' : Builder}
    (hs : ∀ c ∈ cs, ∀ sub ∈ c.subqueries, sub.Yields P b) (hb : P b.query)
    (h : Condition.calls cs b = (.ok (), b')) : P b'.query := by
  induction cs generalizing b with
  | nil =>
    cases h
    exact hb
  | cons c cs ih =>
    cases hc : (ColumnCall.ofArgs b.options (.name c.column) c.args >>= b.compareColumn) with
    | error e =>
      simp [Condition.calls, Condition.call, Build.bind_apply, Build.contribute, hc] at h
    | ok a =>
      have hrun : Condition.calls cs (b.add a) = (.ok (), b') := by
        simpa [Condition.calls, Condition.call, Build.bind_apply, Build.contribute, hc] using h
      obtain ⟨call, hcall, ha⟩ := Except.bind_eq_ok_iff.mp hc
      obtain ⟨hcol, hsub⟩ := ColumnCall.of_ofArgs hcall
      have hcmp : Compared P call.column a :=
        Builder.compared_of_compareColumn ha fun sub hmem => hs c (by simp) sub (hsub hmem)
      have hadm : call.column.Admitted Q := by rw [hcol]; trivial
      refine ih (fun c' hc' sub hmem => ?_) (hP.add hb (.column hadm hcmp)) hrun
      exact (Subquery.yields_add a).mpr (hs c' (by simp [hc']) sub hmem)

/-- What a call of any shape contributes. -/
theorem contributed {s : Shape} (h : b.addition s = .ok a) (hc : s.Admitted Q)
    (hs : ∀ sub ∈ s.subqueries, sub.Yields P b) : Contributed Q P a := by
  cases s with
  | column call => exact .column hc (Builder.compared_of_compareColumn h hs)
  | group run connective =>
    obtain ⟨q, hq, rfl⟩ := Except.map_eq_ok_iff.mp h
    exact .group connective (hs (.callback run) (by simp [Shape.subqueries]) _ (.inl rfl) q hq)
  | subquery query operator value connective => exact Builder.contributed_of_compareSubquery h hs
  | conditions cs connective =>
    simp only [Builder.addition, Builder.conditions] at h
    split at h
    · cases h
    · obtain ⟨q, hq, rfl⟩ := Except.map_eq_ok_iff.mp h
      obtain ⟨b', hrun, rfl⟩ := Build.fill_eq_ok_iff.mp hq
      refine .group connective (hP.conditions (fun c hmem sub hsub => ?_) (hP.forGroup b) hrun)
      exact Subquery.yields_forGroup.mpr (hs sub (List.mem_flatMap.mpr ⟨c, hmem, hsub⟩))

/-- A call leaves an invariant in place, whether or not it is refused. -/
theorem dispatch {s : Shape} (hb : P b.query) (hc : s.Admitted Q)
    (hs : ∀ sub ∈ s.subqueries, sub.Yields P b) : P (Build.dispatch s b).2.query := by
  cases h : b.addition s with
  | error e => simpa [Build.dispatch, Build.contribute, h] using hb
  | ok a => simpa [Build.dispatch, Build.contribute, h] using hP.add hb (hP.contributed h hc hs)

end Invariant

end SqlCompose
