import SqlCompose.Builder.Run
import SqlCompose.Proofs.Unbound

/-!
# Builders that differ in values only

A call looks at a value in two ways: whether it is null, and whether it holds one
scalar. Two values that agree on both are accepted or refused together. So builders
that differ in values, offsets and bindings only, and bind equally many scalars,
stay such builders under calls that differ in such values only.
-/

namespace SqlCompose

/-! ## Values and results -/

/-- Values that calls cannot tell apart: both null, both one scalar, or both none or several. -/
inductive Value.SameClass (v v' : Value) : Prop
  | null : v.isNull = true → v'.isNull = true → SameClass v v'
  | single : v.isNull = false → v'.isNull = false →
      v.scalars.length = 1 → v'.scalars.length = 1 → SameClass v v'
  | other : v.scalars.length ≠ 1 → v'.scalars.length ≠ 1 → SameClass v v'

namespace Value

theorem isNull_of_length_ne {v : Value} (h : v.scalars.length ≠ 1) : v.isNull = false := by
  by_contra hn
  rw [Bool.not_eq_false] at hn
  simp [scalars_of_isNull hn] at h

theorem SameClass.refl (v : Value) : v.SameClass v := by
  by_cases hl : v.scalars.length = 1
  · cases hn : v.isNull with
    | true => exact .null hn hn
    | false => exact .single hn hn hl hl
  · exact .other hl hl

theorem SameClass.isNull_eq {v v' : Value} (h : v.SameClass v') : v.isNull = v'.isNull := by
  cases h with
  | null hn hn' => rw [hn, hn']
  | single hn hn' _ _ => rw [hn, hn']
  | other hl hl' => rw [isNull_of_length_ne hl, isNull_of_length_ne hl']

theorem single?_eq_none_iff {v : Value} : v.single? = none ↔ v.scalars.length ≠ 1 := by
  unfold single?
  split
  · next s h => simp [h]
  · next h =>
    simp only [true_iff, ne_eq, List.length_eq_one_iff, not_exists]
    exact h

/-- Values of one class hold one scalar together. -/
theorem SameClass.single? {v v' : Value} (h : v.SameClass v') :
    (∃ s s', v.single? = some s ∧ v'.single? = some s') ∨
      v.single? = none ∧ v'.single? = none := by
  have hone : ∀ v : Value, v.scalars.length = 1 → ∃ s, v.single? = some s := by
    intro v hl
    obtain ⟨s, hs⟩ := List.length_eq_one_iff.mp hl
    exact ⟨s, single?_eq_some_iff.mpr hs⟩
  cases h with
  | null hn hn' =>
    obtain ⟨s, hs⟩ := hone v (by rw [scalars_of_isNull hn]; rfl)
    obtain ⟨s', hs'⟩ := hone v' (by rw [scalars_of_isNull hn']; rfl)
    exact .inl ⟨s, s', hs, hs'⟩
  | single _ _ hl hl' =>
    obtain ⟨s, hs⟩ := hone v hl
    obtain ⟨s', hs'⟩ := hone v' hl'
    exact .inl ⟨s, s', hs, hs'⟩
  | other hl hl' =>
    exact .inr ⟨single?_eq_none_iff.mpr hl, single?_eq_none_iff.mpr hl'⟩

end Value

/-- Results that are both given, and then related, or both refused. -/
inductive Agree {α β : Type} (R : α → β → Prop) : Except Error α → Except Error β → Prop
  | ok {a : α} {b : β} : R a b → Agree R (.ok a) (.ok b)
  | error (e e' : Error) : Agree R (.error e) (.error e')

namespace Agree

variable {α β α' β' : Type} {R : α → β → Prop} {S : α' → β' → Prop}
  {x : Except Error α} {y : Except Error β}

theorem bind {f : α → Except Error α'} {g : β → Except Error β'} (h : Agree R x y)
    (hf : ∀ a b, R a b → Agree S (f a) (g b)) : Agree S (x >>= f) (y >>= g) := by
  cases h with
  | ok hab => exact hf _ _ hab
  | error e e' => exact .error e e'

theorem map {f : α → α'} {g : β → β'} (h : Agree R x y) (hf : ∀ a b, R a b → S (f a) (g b)) :
    Agree S (x.map f) (y.map g) := by
  cases h with
  | ok hab => exact .ok (hf _ _ hab)
  | error e e' => exact .error e e'

theorem refl {R : α → α → Prop} (hR : ∀ a, R a a) (x : Except Error α) : Agree R x x := by
  cases x with
  | error e => exact .error e e
  | ok a => exact .ok (hR a)

theorem mono {S : α → β → Prop} (h : Agree R x y) (hS : ∀ a b, R a b → S a b) : Agree S x y := by
  cases h with
  | ok hab => exact .ok (hS _ _ hab)
  | error e e' => exact .error e e'

theorem symm (h : Agree R x y) : Agree (fun b a => R a b) y x := by
  cases h with
  | ok hab => exact .ok hab
  | error e e' => exact .error e' e

theorem trans {γ : Type} {S : β → γ → Prop} {T : α → γ → Prop} {z : Except Error γ}
    (h : Agree R x y) (h' : Agree S y z) (hT : ∀ a b c, R a b → S b c → T a c) : Agree T x z := by
  cases h with
  | ok hab =>
    cases h' with
    | ok hbc => exact .ok (hT _ _ _ hab hbc)
  | error e e' =>
    cases h' with
    | error _ e'' => exact .error e e''

theorem isOk_eq (h : Agree R x y) : x.isOk = y.isOk := by
  cases h <;> rfl

end Agree

/-! ## Two runs at once -/

/-- Runs that are refused together on related builders, and leave related builders. -/
def Build.Keeps {α β : Type} (B : Builder → Builder → Prop) (run : Build α) (run' : Build β) :
    Prop :=
  ∀ b b' : Builder, B b b' →
    Agree (fun _ _ => True) (run b).1 (run' b').1 ∧ B (run b).2 (run' b').2

namespace Build.Keeps

variable {α β α' β' : Type} {B : Builder → Builder → Prop}

theorem pure (a : α) (a' : β) : (Pure.pure a : Build α).Keeps B (Pure.pure a' : Build β) := by
  intro b b' hb
  exact ⟨.ok trivial, hb⟩

theorem bind {run : Build α} {run' : Build β} {next : α → Build α'} {next' : β → Build β'}
    (hr : run.Keeps B run') (hn : ∀ a a', (next a).Keeps B (next' a')) :
    (run >>= next).Keeps B (run' >>= next') := by
  intro b b' hb
  obtain ⟨hresult, hlast⟩ := hr b b' hb
  rw [bind_apply, bind_apply]
  rcases h : run b with ⟨x, c⟩
  rcases h' : run' b' with ⟨x', c'⟩
  rw [h, h'] at hresult hlast
  cases hresult with
  | @ok a a' _ => exact hn a a' c c' hlast
  | error e e' => exact ⟨.error e e', hlast⟩

theorem ignoring {run : Build α} {run' : Build β} (h : run.Keeps B run') :
    (Build.ignoring run).Keeps B (Build.ignoring run') := by
  intro b b' hb
  exact ⟨.ok trivial, (h b b' hb).2⟩

theorem refuse (e e' : Error) :
    (Build.refuse e : Build α).Keeps B (Build.refuse e' : Build β) := by
  intro b b' hb
  exact ⟨.error e e', hb⟩

theorem modify {f f' : Builder → Builder} (h : ∀ b b', B b b' → B (f b) (f' b')) :
    (Build.modify f).Keeps B (Build.modify f') := by
  intro b b' hb
  exact ⟨.ok trivial, h b b' hb⟩

theorem read {f : Builder → Except Error α} {f' : Builder → Except Error β}
    (h : ∀ b b', B b b' → Agree (fun _ _ => True) (f b) (f' b')) :
    (Build.read f).Keeps B (Build.read f') := by
  intro b b' hb
  exact ⟨h b b' hb, hb⟩

theorem ofExcept_bind {R : α → β → Prop} {x : Except Error α} {x' : Except Error β}
    {next : α → Build α'} {next' : β → Build β'} (hx : Agree R x x')
    (hn : ∀ a a', R a a' → (next a).Keeps B (next' a')) :
    (Build.ofExcept x >>= next).Keeps B (Build.ofExcept x' >>= next') := by
  intro b b' hb
  cases hx with
  | ok h => exact hn _ _ h b b' hb
  | error e e' => exact ⟨.error e e', hb⟩

theorem contribute {A : Addition → Addition → Prop} {f f' : Builder → Except Error Addition}
    (h : ∀ b b', B b b' → Agree A (f b) (f' b'))
    (hadd : ∀ b b' a a', B b b' → A a a' → B (b.add a) (b'.add a')) :
    (Build.contribute f).Keeps B (Build.contribute f') := by
  intro b b' hb
  have hf := h b b' hb
  unfold Build.contribute
  generalize f b = x at hf ⊢
  generalize f' b' = x' at hf ⊢
  cases hf with
  | ok ha => exact ⟨.ok trivial, hadd _ _ _ _ hb ha⟩
  | error e e' => exact ⟨.error e e', hb⟩

end Build.Keeps

/-! ## Queries and builders -/

/-- Queries that differ in values, offsets and bindings only and bind equally many scalars. -/
structure Query.Alike (q q' : Query) : Prop where
  unbound : q.unbound = q'.unbound
  size : q.bindings.size = q'.bindings.size

structure Builder.Alike (b b' : Builder) : Prop where
  query : b.query.Alike b'.query
  options : b.options = b'.options

/-- Contributions that differ in values and offsets only and bind equally many scalars. -/
structure Addition.Alike (a a' : Addition) : Prop where
  clauses : Clause.unboundList a.clauses = Clause.unboundList a'.clauses
  scalars : a.scalars.length = a'.scalars.length

theorem Query.Alike.refl (q : Query) : q.Alike q := ⟨rfl, rfl⟩

theorem Query.Alike.length_toList {q q' : Query} (h : q.Alike q') :
    q.bindings.toList.length = q'.bindings.toList.length := by
  rw [Bindings.length_toList, Bindings.length_toList, h.size]

theorem Query.Alike.toSql {q q' : Query} (h : q.Alike q') (d : Dialect) :
    q.toSql d = q'.toSql d := by
  rw [Query.toSql, Query.toSql, Query.render_of_unbound h.unbound]

namespace Builder.Alike

variable {b b' : Builder} (h : b.Alike b')

theorem refl (b : Builder) : b.Alike b := ⟨.refl _, rfl⟩

include h

theorem setTable (table : String) : (b.setTable table).Alike (b'.setTable table) := by
  obtain ⟨hc, -, hcs, hl⟩ := Query.unbound_eq_iff.mp h.query.unbound
  exact ⟨⟨Query.unbound_eq_iff.mpr ⟨hc, rfl, hcs, hl⟩, h.query.size⟩, h.options⟩

theorem setColumns (columns : List String) : (b.setColumns columns).Alike (b'.setColumns columns) := by
  obtain ⟨-, ht, hcs, hl⟩ := Query.unbound_eq_iff.mp h.query.unbound
  exact ⟨⟨Query.unbound_eq_iff.mpr ⟨rfl, ht, hcs, hl⟩, h.query.size⟩, h.options⟩

theorem setLimit (limit : Nat) : (b.setLimit limit).Alike (b'.setLimit limit) := by
  obtain ⟨hc, ht, hcs, -⟩ := Query.unbound_eq_iff.mp h.query.unbound
  exact ⟨⟨Query.unbound_eq_iff.mpr ⟨hc, ht, hcs, rfl⟩, h.query.size⟩, h.options⟩

theorem forGroup : b.forGroup.Alike b'.forGroup := by
  obtain ⟨-, ht, -, -⟩ := Query.unbound_eq_iff.mp h.query.unbound
  exact ⟨⟨Query.unbound_eq_iff.mpr ⟨rfl, ht, rfl, rfl⟩, rfl⟩, h.options⟩

theorem forSubquery : b.forSubquery.Alike b'.forSubquery :=
  ⟨.refl _, h.options⟩

theorem add {a a' : Addition} (ha : a.Alike a') : (b.add a).Alike (b'.add a') := by
  obtain ⟨hc, ht, hcs, hl⟩ := Query.unbound_eq_iff.mp h.query.unbound
  refine ⟨⟨Query.unbound_eq_iff.mpr ⟨hc, ht, ?_, hl⟩, ?_⟩, h.options⟩
  · rw [clauses_add, clauses_add, Clause.unboundList_append, Clause.unboundList_append, hcs,
      ha.clauses]
  · rw [bindings_add, bindings_add, Bindings.size_append, Bindings.size_append, h.query.size,
      ha.scalars]

theorem length_bindings : b.bindings.length = b'.bindings.length :=
  h.query.length_toList

theorem unboundList_clauses :
    Clause.unboundList b.query.clauses = Clause.unboundList b'.query.clauses :=
  (Query.unbound_eq_iff.mp h.query.unbound).2.2.1

theorem length_clauses : b.query.clauses.length = b'.query.clauses.length := by
  rw [← Clause.length_unboundList, h.unboundList_clauses, Clause.length_unboundList]

end Builder.Alike

namespace Addition

theorem Alike.single {connective : Connective} {p p' : Predicate} {scalars scalars' : List Scalar}
    (hp : p.unbound = p'.unbound) (hs : scalars.length = scalars'.length) :
    (single connective p scalars).Alike (single connective p' scalars') where
  clauses := by simp only [Addition.single, Clause.unboundList, hp]
  scalars := hs

theorem Alike.nullChecks {column column' : ColumnRef} (connective : Connective) (negated : Bool)
    (h : column.unbound = column'.unbound) :
    (nullChecks connective negated [column]).Alike (nullChecks connective negated [column']) where
  clauses := by
    cases negated <;>
      simp [Addition.nullChecks, Clause.unboundList, Predicate.unbound, h]
  scalars := rfl

theorem Alike.group {q q' : Query} (connective : Connective) (h : q.Alike q') :
    (group connective q).Alike (group connective q') := by
  obtain ⟨-, -, hcs, -⟩ := Query.unbound_eq_iff.mp h.unbound
  have hhas : q.hasClauses = q'.hasClauses := by
    rw [Query.hasClauses, Query.hasClauses, ← Clause.isEmpty_unboundList q.clauses, hcs,
      Clause.isEmpty_unboundList]
  unfold Addition.group
  rw [hhas]
  split
  · exact .single (by simp only [Predicate.unbound, h.unbound]) h.length_toList
  · exact ⟨rfl, rfl⟩

end Addition

/-! ## Runs -/

/-- Runs that are refused together on builders that are alike, and leave such builders. -/
def Build.Alike {α β : Type} (run : Build α) (run' : Build β) : Prop :=
  ∀ b b' : Builder, b.Alike b' →
    Agree (fun _ _ => True) (run b).1 (run' b').1 ∧ (run b).2.Alike (run' b').2

namespace Build.Alike

variable {α β α' β' : Type}

theorem pure (a : α) (a' : β) : (Pure.pure a : Build α).Alike (Pure.pure a' : Build β) :=
  Keeps.pure a a'

theorem bind {run : Build α} {run' : Build β} {next : α → Build α'} {next' : β → Build β'}
    (hr : run.Alike run') (hn : ∀ a a', (next a).Alike (next' a')) :
    (run >>= next).Alike (run' >>= next') :=
  Keeps.bind hr hn

theorem discard {run : Build α} {run' : Build β} (h : run.Alike run') :
    (Functor.discard run).Alike (Functor.discard run') :=
  h.bind fun _ _ => pure _ _

theorem ignoring {run : Build α} {run' : Build β} (h : run.Alike run') :
    (Build.ignoring run).Alike (Build.ignoring run') :=
  Keeps.ignoring h

theorem refuse (e e' : Error) : (Build.refuse e : Build α).Alike (Build.refuse e' : Build β) :=
  Keeps.refuse e e'

theorem modify {f f' : Builder → Builder} (h : ∀ b b', b.Alike b' → (f b).Alike (f' b')) :
    (Build.modify f).Alike (Build.modify f') :=
  Keeps.modify h

theorem read {f : Builder → Except Error α} {f' : Builder → Except Error β}
    (h : ∀ b b', b.Alike b' → Agree (fun _ _ => True) (f b) (f' b')) :
    (Build.read f).Alike (Build.read f') :=
  Keeps.read h

theorem ofExcept_bind {R : α → β → Prop} {x : Except Error α} {x' : Except Error β}
    {next : α → Build α'} {next' : β → Build β'} (hx : Agree R x x')
    (hn : ∀ a a', R a a' → (next a).Alike (next' a')) :
    (Build.ofExcept x >>= next).Alike (Build.ofExcept x' >>= next') :=
  Keeps.ofExcept_bind hx hn

theorem contribute {f f' : Builder → Except Error Addition}
    (h : ∀ b b', b.Alike b' → Agree Addition.Alike (f b) (f' b')) :
    (Build.contribute f).Alike (Build.contribute f') :=
  Keeps.contribute h fun _ _ _ _ hb ha => hb.add ha

theorem fill {run run' : Build Unit} (h : run.Alike run') {b b' : Builder} (hb : b.Alike b') :
    Agree Query.Alike (run.fill b) (run'.fill b') := by
  obtain ⟨hresult, hlast⟩ := h b b' hb
  unfold Build.fill
  rcases hr : run b with ⟨x, c⟩
  rcases hr' : run' b' with ⟨x', c'⟩
  rw [hr, hr'] at hresult hlast
  cases hresult with
  | ok _ => exact .ok hlast.query
  | error e e' => exact .error e e'

end Build.Alike

end SqlCompose
