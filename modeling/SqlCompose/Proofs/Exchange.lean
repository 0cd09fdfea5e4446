import SqlCompose.Proofs.MatchingCalls

/-!
# Settings and conditions can be exchanged

A setting writes the table, the select list or the limit of a builder, and a condition
appends clauses and bindings. Neither looks at what the other one writes, so they can be
made in either order. What a run leaves when it is refused still shows the order, by the
settings made before the refusal, but a run that is refused fills nothing.
-/

namespace SqlCompose

/-! ## Settings -/

/-- Changes that keep the conditions, and write all else without looking at them. -/
structure Builder.IsSetting (f : Builder → Builder) : Prop where
  conditions (b : Builder) : b.Matches False (f b)
  head {b b' : Builder} : b.query.head = b'.query.head → (f b).query.head = (f b').query.head

namespace Builder.IsSetting

theorem setTable (table : String) : IsSetting (·.setTable table) where
  conditions _ := ⟨⟨rfl, rfl, False.elim⟩, rfl⟩
  head h := by
    simp only [Query.head, Prod.mk.injEq] at h
    simp only [Builder.setTable, Query.head, h]

theorem setColumns (columns : List String) : IsSetting (·.setColumns columns) where
  conditions _ := ⟨⟨rfl, rfl, False.elim⟩, rfl⟩
  head h := by
    simp only [Query.head, Prod.mk.injEq] at h
    simp only [Builder.setColumns, Query.head, h]

theorem setLimit (limit : Nat) : IsSetting (·.setLimit limit) where
  conditions _ := ⟨⟨rfl, rfl, False.elim⟩, rfl⟩
  head h := by
    simp only [Query.head, Prod.mk.injEq] at h
    simp only [Builder.setLimit, Query.head, h]

theorem matches_modify {f : Builder → Builder} (hf : IsSetting f) :
    (Build.modify f).Matches (Build.modify f) := by
  refine .modify fun whole b b' hb => .of_head ?_ fun hwhole => hf.head (hb.query.head hwhole)
  exact ((hf.conditions b).symm.trans hb.forget).trans (hf.conditions b')

end Builder.IsSetting

/-! ## Conditions -/

/-- Runs that leave the table, the select list and the limit alone. -/
def Build.KeepsHead {α : Type} (run : Build α) : Prop :=
  ∀ b, (run b).2.query.head = b.query.head

namespace Build.KeepsHead

variable {α β : Type}

theorem pure (a : α) : (Pure.pure a : Build α).KeepsHead := fun _ => rfl

theorem ofExcept (x : Except Error α) : (Build.ofExcept x).KeepsHead := fun _ => rfl

theorem contribute (f : Builder → Except Error Addition) : (Build.contribute f).KeepsHead := by
  intro b
  unfold Build.contribute
  cases f b <;> rfl

theorem bind {run : Build α} {next : α → Build β} (hr : run.KeepsHead)
    (hn : ∀ a, (next a).KeepsHead) : (run >>= next).KeepsHead := by
  intro b
  have hrun := hr b
  rw [bind_apply]
  rcases h : run b with ⟨_ | a, c⟩
  · rwa [h] at hrun
  · rw [h] at hrun
    exact (hn a c).trans hrun

theorem done {run : Build Unit} (hr : run.KeepsHead) : (Build.done run).KeepsHead :=
  hr.bind fun _ => pure _

theorem discard {run : Build α} (hr : run.KeepsHead) : (Functor.discard run).KeepsHead :=
  hr.bind fun _ => pure _

theorem ignoring {run : Build α} (hr : run.KeepsHead) : (Build.ignoring run).KeepsHead := hr

end Build.KeepsHead

/-! ## The exchange -/

namespace Build

variable {α : Type} {f : Builder → Builder} (hf : Builder.IsSetting f) {run : Build α}
  (hr : run.Matches run) (hk : run.KeepsHead)
include hf hr hk

/-- A run before a setting and after it. -/
theorem matches_exchange {whole : Prop} {b b' : Builder} (hb : b.Matches whole b') :
    Agree (fun _ _ => True) (run b).1 (run (f b')).1 ∧
      (f (run b).2).Matches whole (run (f b')).2 := by
  obtain ⟨hresult, hlast⟩ := hr False b (f b') (hb.forget.trans (hf.conditions b'))
  refine ⟨hresult, .of_head ((hf.conditions _).symm.trans hlast) fun hwhole => ?_⟩
  have hhead : (run b).2.query.head = b'.query.head := (hk b).trans (hb.query.head hwhole)
  calc (f (run b).2).query.head = (f b').query.head := hf.head hhead
    _ = (run (f b')).2.query.head := (hk (f b')).symm

theorem fillsAlike_exchange {next next' : Build Unit} (hn : next.FillsAlike next') :
    (run >>= fun _ => modify f >>= fun _ => next).FillsAlike
      (modify f >>= fun _ => run >>= fun _ => next') := by
  intro whole b b' hb
  obtain ⟨hresult, hlast⟩ := matches_exchange hf hr hk hb
  simp only [fill_bind, modify_apply]
  rcases h : run b with ⟨x, c⟩
  rcases h' : run (f b') with ⟨x', c'⟩
  rw [h, h'] at hresult hlast
  cases hresult with
  | ok _ => exact hn whole (f c) c' hlast
  | error e e' => exact .error e e'

end Build

end SqlCompose
