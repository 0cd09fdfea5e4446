import SqlCompose.Program.Run
import SqlCompose.Proofs.Contribution

/-!
# Builders that calls can reach

A builder is reachable when public calls alone lead to it. A callback may do what
it likes with the child it is run on, as long as the child it leaves is reachable
again: calls that fail, ignored errors, calls that look at the builder first and
builders made elsewhere are all covered. Two parameters say which queries may be
given by hand: `Q` for those in the place of a column, `N` for those that are
nested as a group.
-/

namespace SqlCompose

inductive Builder.Reachable (Q N : Query → Prop) : Builder → Prop
  | fresh (table : Option String) (options : Options) :
      Reachable Q N { query := { table }, options }
  | setTable {b : Builder} (table : String) : Reachable Q N b → Reachable Q N (b.setTable table)
  | setColumns {b : Builder} (columns : List String) :
      Reachable Q N b → Reachable Q N (b.setColumns columns)
  | setLimit {b : Builder} (limit : Nat) : Reachable Q N b → Reachable Q N (b.setLimit limit)
  | dispatch {b : Builder} {s : Shape} : Reachable Q N b → s.Admitted Q →
      (∀ run, .callback run ∈ s.subqueries →
        ∀ child, child = b.forGroup ∨ child = b.forSubquery →
          ∀ c, run child = (.ok (), c) → Reachable Q N c) →
      (∀ c, .builder c ∈ s.subqueries → Reachable Q N c) →
      Reachable Q N (Build.dispatch s b).2
  | nest {b : Builder} {q : Query} (connective : Connective) :
      Reachable Q N b → N q → Reachable Q N (b.add (.group connective q))
  | nestBuilder {b c : Builder} (connective : Connective) :
      Reachable Q N b → Reachable Q N c → Reachable Q N (b.add (.group connective c.query))
  | nullChecks {b : Builder} (connective : Connective) (negated : Bool) (columns : List String) :
      Reachable Q N b →
      Reachable Q N (b.add (.nullChecks connective negated (columns.map .name)))

namespace Builder.Reachable

variable {Q N P : Query → Prop} {b : Builder}

/-- An invariant holds of every reachable builder, if it holds of the queries given by hand. -/
theorem invariant (hP : Invariant Q P) (hN : ∀ q, N q → P q) (h : b.Reachable Q N) :
    P b.query := by
  induction h with
  | fresh table options =>
    exact hP.forGroup { query := { table }, options }
  | setTable table _ ih => exact hP.congr ih rfl rfl
  | setColumns columns _ ih => exact hP.congr ih rfl rfl
  | setLimit limit _ ih => exact hP.congr ih rfl rfl
  | @dispatch b s _ hc _ _ ih hruns hmade =>
    apply hP.dispatch ih hc
    intro sub hsub
    cases sub with
    | raw sql => trivial
    | callback run =>
      intro child hchild q hq
      obtain ⟨c, hrun, rfl⟩ := Build.fill_eq_ok_iff.mp hq
      exact hruns run hsub child hchild c hrun
    | builder c => exact hmade c hsub
  | nest connective _ hq ih => exact hP.add ih (.group connective (hN _ hq))
  | nestBuilder connective _ _ ih ihc => exact hP.add ih (.group connective ihc)
  | nullChecks connective negated columns _ ih =>
    exact hP.add ih (.nullChecks connective negated columns)

/-- Calls bind scalars for the conditions only, also those of queries given by hand. -/
theorem get_eq_nil (h : b.Reachable Q N) :
    ∀ c, c ≠ .filter → b.query.bindings.get c = [] := by
  have hadd : ∀ (b : Builder) (a : Addition), (∀ c, c ≠ .filter → b.query.bindings.get c = []) →
      ∀ c, c ≠ .filter → (b.add a).query.bindings.get c = [] := by
    intro b a hb c hc
    simp [hc, hb c hc]
  induction h with
  | fresh table options =>
    intro c _
    cases c <;> rfl
  | setTable table _ ih => exact ih
  | setColumns columns _ ih => exact ih
  | setLimit limit _ ih => exact ih
  | @dispatch b s _ _ _ _ ih _ _ =>
    unfold Build.dispatch Build.contribute
    split
    · exact hadd b _ ih
    · exact ih
  | nest connective _ _ ih => exact hadd _ _ ih
  | nestBuilder connective _ _ ih _ => exact hadd _ _ ih
  | nullChecks connective negated columns _ ih => exact hadd _ _ ih

theorem forGroup (b : Builder) : b.forGroup.Reachable Q N :=
  .fresh b.query.table b.options

theorem forSubquery (b : Builder) : b.forSubquery.Reachable Q N :=
  .fresh none b.options

end Builder.Reachable

/-! ## Runs that stay among the reachable builders -/

/-- A run that leads from reachable builders to reachable builders only. -/
def Build.Stays {α : Type} (Q N : Query → Prop) (run : Build α) : Prop :=
  ∀ b : Builder, b.Reachable Q N → (run b).2.Reachable Q N

/-- A sub-query whose callback or builder comes about by calls. -/
def Subquery.Made (Q N : Query → Prop) : Subquery → Prop
  | .raw _ => True
  | .callback run => run.Stays Q N
  | .builder c => c.Reachable Q N

namespace Build.Stays

variable {Q N : Query → Prop} {α β : Type}

theorem pure (a : α) : (Pure.pure a : Build α).Stays Q N := by
  intro b hb
  exact hb

theorem bind {run : Build α} {next : α → Build β} (hr : run.Stays Q N)
    (hn : ∀ a, (next a).Stays Q N) : (run >>= next).Stays Q N := by
  intro b hb
  have hc := hr b hb
  rw [Build.bind_apply]
  rcases h : run b with ⟨e | a, c⟩
  · rwa [h] at hc
  · rw [h] at hc
    exact hn a c hc

theorem ignoring {run : Build α} (hr : run.Stays Q N) : (Build.ignoring run).Stays Q N := hr

theorem refuse (e : Error) : (Build.refuse e : Build α).Stays Q N := by
  intro b hb
  exact hb

theorem ofExcept_bind {result : Except Error α} {next : α → Build β}
    (hn : ∀ a, result = .ok a → (next a).Stays Q N) :
    (Build.ofExcept result >>= next).Stays Q N := by
  intro b hb
  rw [Build.bind_apply]
  cases result with
  | error e => exact hb
  | ok a => exact hn a rfl b hb

theorem read (f : Builder → Except Error α) : (Build.read f).Stays Q N := by
  intro b hb
  exact hb

theorem done {run : Build Unit} (hr : run.Stays Q N) : (Build.done run).Stays Q N :=
  hr.bind fun _ => pure _

theorem discard {run : Build α} (hr : run.Stays Q N) : (Functor.discard run).Stays Q N :=
  hr.bind fun _ => pure ()

theorem dispatch {s : Shape} (hc : s.Admitted Q) (hs : ∀ sub ∈ s.subqueries, sub.Made Q N) :
    (Build.dispatch s).Stays Q N := by
  intro b hb
  refine .dispatch hb hc ?_ fun c hmem => hs _ hmem
  intro run hmem child hchild c hrun
  have hr : run.Stays Q N := hs _ hmem
  have hstart : child.Reachable Q N := by
    rcases hchild with rfl | rfl
    · exact .forGroup b
    · exact .forSubquery b
  simpa [hrun] using hr child hstart

/-- A comparison with a value runs no callback. -/
theorem dispatchValue {call : ColumnCall} {v : Value} (hc : call.column.Admitted Q)
    (hv : call.operand = .value v) : (Build.dispatch (.column call)).Stays Q N := by
  have hs : (Shape.column call).Admitted Q := hc
  apply dispatch hs
  simp [Shape.subqueries, hv, Operand.subqueries]

theorem orWhere (column operator : String) (v : Value) :
    (Build.orWhere column operator v).Stays Q N := by
  intro b hb
  let call := ColumnCall.operatorValueConnective (.name column) operator (.value v) .or
    b.options.offset
  have hc : call.column.Admitted Q := trivial
  exact dispatchValue hc rfl b hb

theorem orWhereEq (column : String) (v : Value) : (Build.orWhereEq column v).Stays Q N := by
  intro b hb
  exact orWhere column b.options.operator v b hb

theorem whereQuery {query : Subquery} (operator : String) (v : Value)
    (hq : query.Made Q N) : (Build.whereQuery query operator v).Stays Q N := by
  intro b hb
  let s := Shape.subquery query operator (.value v) b.options.connective
  have hc : s.Admitted Q := trivial
  exact dispatch hc (List.forall_mem_singleton.mpr hq) b hb

theorem whereArgs {first : Arg} {args : List Arg}
    (hs : ∀ sub ∈ first.leadingSubqueries ++ args.flatMap Arg.subqueries, sub.Made Q N) :
    (Build.whereArgs first args).Stays Q N := by
  intro b hb
  cases h : Shape.ofArgs b.options first args with
  | error e => simpa [Build.whereArgs, Build.contribute, h, Bind.bind, Except.bind] using hb
  | ok s =>
    obtain ⟨hc, hsub⟩ := Shape.of_ofArgs Q h
    have hd := dispatch (N := N) hc (fun sub hmem => hs sub (hsub hmem)) b hb
    simpa [Build.whereArgs, Build.dispatch, Build.contribute, h, Bind.bind, Except.bind] using hd

end Build.Stays

end SqlCompose
