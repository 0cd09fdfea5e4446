import SqlCompose.Builder
import SqlCompose.Error

/-!
# Runs of calls

A run of calls either returns a result or is refused, and ends with a builder
in both cases: what a refused run did before the refusal is kept, and it is for
the caller to keep or to drop that builder.
-/

namespace SqlCompose

/-- A run of calls on a builder: a result or a refusal, and the builder it ends with. -/
def Build (α : Type) : Type :=
  Builder → Except Error α × Builder

namespace Build

instance : Monad Build where
  pure a := fun b => (.ok a, b)
  bind run next := fun b =>
    match run b with
    | (.ok a, b) => next a b
    | (.error e, b) => (.error e, b)

@[simp] theorem pure_apply {α : Type} (a : α) (b : Builder) :
    (pure a : Build α) b = (.ok a, b) := rfl

theorem bind_apply {α β : Type} (run : Build α) (next : α → Build β) (b : Builder) :
    (run >>= next) b =
      match run b with
      | (.ok a, b) => next a b
      | (.error e, b) => (.error e, b) := rfl

instance : LawfulMonad Build :=
  .mk' Build
    (by
      intro α run
      funext b
      simp only [Functor.map]
      rcases run b with ⟨_ | _, _⟩ <;> rfl)
    (by intro α β a next; rfl)
    (by
      intro α β γ run next last
      funext b
      simp only [bind_apply]
      rcases run b with ⟨_ | _, _⟩ <;> rfl)

/-- The run that is refused at once. -/
def refuse {α : Type} (e : Error) : Build α :=
  fun b => (.error e, b)

/-- The run that leaves the builder alone and has a given result. -/
def ofExcept {α : Type} (result : Except Error α) : Build α :=
  fun b => (result, b)

/-- A call that changes the builder and is never refused. -/
def modify (f : Builder → Builder) : Build Unit :=
  fun b => (.ok (), f b)

/-- A call that reads the builder. -/
def read {α : Type} (f : Builder → Except Error α) : Build α :=
  fun b => (f b, b)

/-- A call that contributes clauses, or is refused and contributes nothing. -/
def contribute (f : Builder → Except Error Addition) : Build Unit :=
  fun b =>
    match f b with
    | .ok a => (.ok (), b.add a)
    | .error e => (.error e, b)

/-- A run whose refusal is ignored; what it did before stays. -/
def ignoring {α : Type} (run : Build α) : Build Unit :=
  fun b => (.ok (), (run b).2)

/-- The query that a run leaves on a builder. -/
def fill (run : Build Unit) (b : Builder) : Except Error Query :=
  match run b with
  | (.ok (), b) => .ok b.query
  | (.error e, _) => .error e

@[simp] theorem ofExcept_apply {α : Type} (result : Except Error α) (b : Builder) :
    ofExcept result b = (result, b) := rfl

@[simp] theorem modify_apply (f : Builder → Builder) (b : Builder) :
    modify f b = (.ok (), f b) := rfl

@[simp] theorem read_apply {α : Type} (f : Builder → Except Error α) (b : Builder) :
    read f b = (f b, b) := rfl

@[simp] theorem ignoring_apply {α : Type} (run : Build α) (b : Builder) :
    ignoring run b = (.ok (), (run b).2) := rfl

theorem contribute_of_ok {f : Builder → Except Error Addition} {b : Builder} {a : Addition}
    (h : f b = .ok a) : contribute f b = (.ok (), b.add a) := by
  simp [contribute, h]

theorem fill_eq_ok_iff {run : Build Unit} {b : Builder} {q : Query} :
    run.fill b = .ok q ↔ ∃ b', run b = (.ok (), b') ∧ b'.query = q := by
  unfold fill
  split <;> simp_all

/-- A refused contribution leaves the builder as it was. -/
theorem contribute_eq_error {f : Builder → Except Error Addition} {b : Builder} {e : Error}
    (h : (contribute f b).1 = .error e) : (contribute f b).2 = b := by
  unfold contribute at *
  split <;> simp_all

end Build

end SqlCompose
