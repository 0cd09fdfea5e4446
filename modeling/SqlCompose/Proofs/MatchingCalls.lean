import SqlCompose.Proofs.Matching
import SqlCompose.Proofs.RelatedArguments

/-!
# Calls on builders whose conditions are written alike

Calls that are the same but for their callbacks contribute conditions that are written
alike, if their callbacks fill such queries. None of them looks at the table, the
select list or the limit of the builder it is made on: a callback for a group is run on
a child with the same table, but of what it leaves only the conditions are written.
-/

namespace SqlCompose

/-- Sub-queries that are written alike and bind the same values. -/
inductive Subquery.Matches : Subquery → Subquery → Prop
  | raw (sql : String) : Matches (.raw sql) (.raw sql)
  | callback {run run' : Build Unit} :
      run.FillsAlike run' → Matches (.callback run) (.callback run')
  | builder {c c' : Builder} : c.query.Matches True c'.query → Matches (.builder c) (.builder c')

/-- Arguments that are the same but for sub-queries that are written alike. -/
def Likeness.matching : Likeness where
  value := Eq
  query := Subquery.Matches
  column c c' := c.skeleton = c'.skeleton
  value_refl _ := rfl
  column_refl _ := rfl
  isCallback h := by cases h <;> rfl

/-- Sub-queries in a clause that are written alike and bind the same values. -/
structure Embedded.Matches (sub sub' : Embedded) : Prop where
  column : sub.column.skeleton = sub'.column.skeleton
  scalars : sub.scalars = sub'.scalars

namespace Builder

open Likeness (matching)

variable {b b' : Builder} (hb : b.Matches False b')
include hb

theorem matches_embed {q q' : Subquery} (hq : q.Matches q') :
    Agree Embedded.Matches (b.embed q) (b'.embed q') := by
  have hquery : ∀ q q' : Query, q.Matches True q' →
      (b.embedQuery q).Matches (b'.embedQuery q') := by
    intro q q' hq
    exact ⟨by simp only [embedQuery, ColumnRef.skeleton, hq.skeleton],
      by simp only [embedQuery, hq.bindings]⟩
  cases hq with
  | raw sql =>
    simp only [embed]
    split
    · exact .error _ _
    · exact .ok ⟨rfl, rfl⟩
  | callback hrun => exact (hrun True _ _ hb.forSubquery).map hquery
  | builder hc => exact .ok (hquery _ _ hc)

theorem matches_subselect {q q' : Subquery} (hq : q.Matches q') :
    Agree (Query.Matches True) (b.subselect q) (b'.subselect q') := by
  cases hq with
  | raw sql => exact .error _ _
  | callback hrun => exact hrun True _ _ hb.forSubquery
  | builder hc => exact .ok hc

omit hb in
theorem matches_compareValue {c c' : ColumnRef} (hc : c.skeleton = c'.skeleton) (operator : String)
    (v : Value) (connective : Connective) (offset offset' : Nat) :
    Agree Addition.Matches (compareValue c operator v connective offset)
      (compareValue c' operator v connective offset') := by
  unfold compareValue
  split
  · exact .error _ _
  · split
    · exact .ok (.nullCheck connective _ hc)
    · cases v.single? with
      | none => exact .error _ _
      | some s => exact .ok (.single connective (by simp only [Predicate.skeleton, hc]) [s])

theorem matches_compare {c c' : ColumnRef} (hc : c.skeleton = c'.skeleton) {v v' : Operand}
    (hv : v.Related matching v') (operator : String) (connective : Connective)
    (offset offset' : Nat) :
    Agree Addition.Matches (b.compare c operator v connective offset)
      (b'.compare c' operator v' connective offset') := by
  cases hv with
  | value hv =>
    cases hv
    exact matches_compareValue hc operator _ connective offset offset'
  | query hq =>
    refine (matches_subselect hb hq).bind fun q q' hq => .ok ?_
    rw [hq.bindings]
    exact .single connective (by simp only [Predicate.skeleton, hc, hq.skeleton]) _

theorem matches_compareColumn {call call' : ColumnCall} (h : call.Related matching call') :
    Agree Addition.Matches (b.compareColumn call) (b'.compareColumn call') :=
  agree_compareColumn hb.options (fun _ _ _ hc hv => matches_compare hb hc hv _ _ _ _) h

theorem matches_compareSubquery {q q' : Subquery} (hq : q.Matches q') {v v' : Operand}
    (hv : v.Related matching v') (operator : String) (connective : Connective) :
    Agree Addition.Matches (b.compareSubquery q operator v connective)
      (b'.compareSubquery q' operator v' connective) := by
  refine (matches_embed hb hq).bind fun sub sub' hsub => ?_
  refine (matches_compare hb hsub.column hv _ _ _ _).bind fun a a' ha => .ok ⟨ha.clauses, ?_⟩
  rw [hsub.scalars, ha.scalars]

theorem matches_group {run run' : Build Unit} (h : run.FillsAlike run')
    (connective : Connective) :
    Agree Addition.Matches (b.group run connective) (b'.group run' connective) :=
  (h False _ _ hb.forGroup).map fun _ _ hq => .group connective hq

end Builder

namespace Condition

open Likeness (matching)

theorem matches_call {c c' : Condition} (h : c.Related matching c') : c.call.Matches c'.call := by
  obtain ⟨column, hargs⟩ := h
  refine .contribute fun b b' hb => ?_
  rw [hb.options]
  refine (ColumnCall.related_ofArgs hargs b'.options _).bind fun call call' hcall => ?_
  exact Builder.matches_compareColumn hb hcall

theorem fillsAlike_calls {cs cs' : List Condition}
    (h : List.Forall₂ (Condition.Related matching) cs cs') : (calls cs).FillsAlike (calls cs') := by
  induction h with
  | nil => exact .pure
  | cons hc _ ih => exact (matches_call hc).bind_fillsAlike fun _ _ => ih

end Condition

namespace Builder

open Likeness (matching)

variable {b b' : Builder} (hb : b.Matches False b')
include hb

theorem matches_conditions {cs cs' : List Condition}
    (h : List.Forall₂ (Condition.Related matching) cs cs') (connective : Connective) :
    Agree Addition.Matches (b.conditions cs connective) (b'.conditions cs' connective) :=
  agree_conditions h (matches_group hb (Condition.fillsAlike_calls h) connective)

theorem matches_addition {s s' : Shape} (h : s.Related matching s') :
    Agree Addition.Matches (b.addition s) (b'.addition s') := by
  cases h with
  | column hcall => exact matches_compareColumn hb hcall
  | group connective hrun =>
    cases hrun with
    | callback hrun => exact matches_group hb hrun connective
  | subquery operator connective hq hv =>
    exact matches_compareSubquery hb hq hv operator connective
  | conditions connective hcs => exact matches_conditions hb hcs connective

end Builder

/-! ## Calls -/

namespace WhereCall

theorem Related.matches_run {call call' : WhereCall} (h : call.Related Likeness.matching call') :
    call.run.Matches call'.run := by
  rw [run_eq, run_eq]
  refine .contribute fun b b' hb => ?_
  exact (h.shape hb.options).bind fun s s' hs => Builder.matches_addition hb hs

end WhereCall

end SqlCompose
