import SqlCompose.Program.Run
import SqlCompose.Proofs.Alike
import SqlCompose.Proofs.Skeleton

/-!
# Builders whose conditions are written alike

A group records the table that its builder had when the group was filled, and nothing
writes it. So two builders may hold conditions that are written alike and bind the
same values although the trees differ. They are followed here with their tables,
select lists and limits left free, as on the children that fill groups, or the same,
as on the children that fill sub-selects.
-/

namespace SqlCompose

/-! ## Rendering reads the skeleton -/

mutual

theorem Query.operators_skeleton : ∀ q : Query, q.skeleton.operators = q.operators
  | ⟨columns, table, clauses, bindings, limit⟩ => by
    simp only [Query.skeleton, Query.operators, Clause.operatorsList_skeleton clauses]

theorem Clause.operatorsList_skeleton : ∀ cs : List Clause,
    Clause.operatorsList (Clause.skeletonList cs) = Clause.operatorsList cs
  | [] => rfl
  | ⟨connective, predicate⟩ :: cs => by
    simp only [Clause.skeletonList, Clause.operatorsList, Predicate.operators_skeleton predicate,
      Clause.operatorsList_skeletonFurther cs]

theorem Clause.operatorsList_skeletonFurther : ∀ cs : List Clause,
    Clause.operatorsList (Clause.skeletonFurther cs) = Clause.operatorsList cs
  | [] => rfl
  | ⟨connective, predicate⟩ :: cs => by
    simp only [Clause.skeletonFurther, Clause.operatorsList,
      Predicate.operators_skeleton predicate, Clause.operatorsList_skeletonFurther cs]

theorem Predicate.operators_skeleton : ∀ p : Predicate, p.skeleton.operators = p.operators
  | .compare column operator v offset => by
    simp only [Predicate.skeleton, Predicate.operators, ColumnRef.operators_skeleton column]
  | .isNull column => by
    simp only [Predicate.skeleton, Predicate.operators, ColumnRef.operators_skeleton column]
  | .isNotNull column => by
    simp only [Predicate.skeleton, Predicate.operators, ColumnRef.operators_skeleton column]
  | .group ⟨columns, table, clauses, bindings, limit⟩ => by
    simp only [Predicate.skeleton, Predicate.operators, Clause.operatorsList_skeleton clauses]
  | .compareSubquery column operator query => by
    simp only [Predicate.skeleton, Predicate.operators, ColumnRef.operators_skeleton column,
      Query.operators_skeleton query]

theorem ColumnRef.operators_skeleton : ∀ c : ColumnRef, c.skeleton.operators = c.operators
  | .name text => rfl
  | .raw sql => rfl
  | .subquery query => by
    simp only [ColumnRef.skeleton, ColumnRef.operators, Query.operators_skeleton query]

end

/-- Queries with the same skeleton give the same text or are refused for the same operator. -/
theorem Query.render_of_skeleton {q q' : Query} (h : q.skeleton = q'.skeleton) (d : Dialect)
    (n : Nat) : q.render d n = q'.render d n := by
  rw [q.render_eq d n, q'.render_eq d n, pieces_of_skeleton d h, ← q.operators_skeleton, h,
    q'.operators_skeleton]

namespace Clause

theorem skeletonFurther_append (cs cs' : List Clause) :
    skeletonFurther (cs ++ cs') = skeletonFurther cs ++ skeletonFurther cs' := by
  induction cs with
  | nil => rfl
  | cons c cs ih =>
    cases c
    simp [skeletonFurther, ih]

theorem isEmpty_skeletonFurther (cs : List Clause) :
    (skeletonFurther cs).isEmpty = cs.isEmpty := by
  cases cs with
  | nil => rfl
  | cons c cs =>
    cases c
    rfl

/-- Only the connective of the first clause is not written. -/
theorem skeletonList_eq_modifyHead (cs : List Clause) :
    skeletonList cs = (skeletonFurther cs).modifyHead ({ · with connective := .and }) := by
  cases cs with
  | nil => rfl
  | cons c cs =>
    cases c
    rfl

theorem skeletonList_of_further {cs cs' : List Clause}
    (h : skeletonFurther cs = skeletonFurther cs') : skeletonList cs = skeletonList cs' := by
  rw [skeletonList_eq_modifyHead, h, ← skeletonList_eq_modifyHead]

end Clause

/-! ## Queries and builders -/

/-- All of a query apart from its conditions. -/
def Query.head (q : Query) : List String × Option String × Option Nat :=
  (q.columns, q.table, q.limit)

/-- Queries whose conditions are written alike and bind the same values. If they match as a
`whole`, the rest of them is the same. -/
structure Query.Matches (whole : Prop) (q q' : Query) : Prop where
  clauses : Clause.skeletonFurther q.clauses = Clause.skeletonFurther q'.clauses
  bindings : q.bindings = q'.bindings
  head : whole → q.head = q'.head

structure Builder.Matches (whole : Prop) (b b' : Builder) : Prop where
  query : b.query.Matches whole b'.query
  options : b.options = b'.options

/-- Contributions that are written alike and bind the same values. -/
structure Addition.Matches (a a' : Addition) : Prop where
  clauses : Clause.skeletonFurther a.clauses = Clause.skeletonFurther a'.clauses
  scalars : a.scalars = a'.scalars

namespace Query.Matches

variable {whole : Prop} {q q' : Query}

theorem refl (q : Query) : q.Matches whole q := ⟨rfl, rfl, fun _ => rfl⟩

theorem symm (h : q.Matches whole q') : q'.Matches whole q :=
  ⟨h.clauses.symm, h.bindings.symm, fun hw => (h.head hw).symm⟩

theorem trans {q'' : Query} (h : q.Matches whole q') (h' : q'.Matches whole q'') :
    q.Matches whole q'' :=
  ⟨h.clauses.trans h'.clauses, h.bindings.trans h'.bindings,
    fun hw => (h.head hw).trans (h'.head hw)⟩

theorem skeleton (h : q.Matches True q') : q.skeleton = q'.skeleton := by
  obtain ⟨columns, table, clauses, bindings, limit⟩ := q
  obtain ⟨columns', table', clauses', bindings', limit'⟩ := q'
  have hhead := h.head trivial
  simp only [Query.head, Prod.mk.injEq] at hhead
  obtain ⟨rfl, rfl, rfl⟩ := hhead
  simp only [Query.skeleton, Clause.skeletonList_of_further h.clauses]

theorem hasClauses_eq (h : q.Matches whole q') : q.hasClauses = q'.hasClauses := by
  rw [hasClauses, hasClauses, ← Clause.isEmpty_skeletonFurther, h.clauses,
    Clause.isEmpty_skeletonFurther]

theorem renderList_eq (h : q.Matches whole q') (d : Dialect) (n : Nat) :
    Clause.renderList d q.clauses n = Clause.renderList d q'.clauses n := by
  have hskeleton := Clause.skeletonList_of_further h.clauses
  rw [Clause.renderList_eq, Clause.renderList_eq, Clause.piecesList_of_skeleton d hskeleton,
    ← Clause.operatorsList_skeleton, hskeleton, Clause.operatorsList_skeleton]

/-- Only conditions are refused, so the tables do not matter for whether there is a text. -/
theorem agree_render (h : q.Matches whole q') (d : Dialect) (n : Nat) :
    Agree (fun _ _ => True) (q.render d n) (q'.render d n) := by
  have hclauses := h.renderList_eq d n
  obtain ⟨columns, table, clauses, bindings, limit⟩ := q
  obtain ⟨columns', table', clauses', bindings', limit'⟩ := q'
  simp only [render, hclauses]
  exact (Agree.refl (R := Eq) (fun _ => rfl) _).bind fun _ _ _ => .ok trivial

/-- Further bindings are given to both. -/
theorem addBindings (h : q.Matches whole q') (further : List (Category × Value)) :
    (q.addBindings further).Matches whole (q'.addBindings further) where
  clauses := h.clauses
  bindings := by simp only [Query.addBindings, h.bindings]
  head := h.head

end Query.Matches

namespace Builder.Matches

variable {whole : Prop} {b b' : Builder}

theorem refl (b : Builder) : b.Matches whole b := ⟨.refl _, rfl⟩

variable (h : b.Matches whole b')
include h

theorem symm : b'.Matches whole b := ⟨h.query.symm, h.options.symm⟩

theorem trans {b'' : Builder} (h' : b'.Matches whole b'') : b.Matches whole b'' :=
  ⟨h.query.trans h'.query, h.options.trans h'.options⟩

theorem forget : b.Matches False b' :=
  ⟨⟨h.query.clauses, h.query.bindings, False.elim⟩, h.options⟩

omit h in
/-- Builders match as a whole if their conditions match and the rest is the same. -/
theorem of_head (h : b.Matches False b') (hhead : whole → b.query.head = b'.query.head) :
    b.Matches whole b' :=
  ⟨⟨h.query.clauses, h.query.bindings, hhead⟩, h.options⟩

theorem forGroup : b.forGroup.Matches whole b'.forGroup := by
  refine ⟨⟨rfl, rfl, fun hw => ?_⟩, h.options⟩
  have hhead := h.query.head hw
  simp only [Query.head, Prod.mk.injEq] at hhead
  simp only [Builder.forGroup, Query.head, hhead]

/-- The children that fill sub-selects are the same altogether. -/
theorem forSubquery : b.forSubquery.Matches True b'.forSubquery :=
  ⟨.refl _, h.options⟩

theorem add {a a' : Addition} (ha : a.Matches a') : (b.add a).Matches whole (b'.add a') where
  query := {
    clauses := by
      rw [clauses_add, clauses_add, Clause.skeletonFurther_append, Clause.skeletonFurther_append,
        h.query.clauses, ha.clauses]
    bindings := by rw [bindings_add, bindings_add, h.query.bindings, ha.scalars]
    head := h.query.head }
  options := h.options

end Builder.Matches

namespace Addition.Matches

theorem refl (a : Addition) : a.Matches a := ⟨rfl, rfl⟩

theorem single {p p' : Predicate} (connective : Connective) (hp : p.skeleton = p'.skeleton)
    (scalars : List Scalar) :
    (Addition.single connective p scalars).Matches (.single connective p' scalars) where
  clauses := by simp only [Addition.single, Clause.skeletonFurther, hp]
  scalars := rfl

theorem nullCheck {column column' : ColumnRef} (connective : Connective) (negated : Bool)
    (h : column.skeleton = column'.skeleton) :
    (Addition.nullChecks connective negated [column]).Matches
      (.nullChecks connective negated [column']) where
  clauses := by
    cases negated <;> simp [Addition.nullChecks, Clause.skeletonFurther, Predicate.skeleton, h]
  scalars := rfl

/-- Of a group only its conditions are written. -/
theorem group {whole : Prop} {q q' : Query} (connective : Connective) (h : q.Matches whole q') :
    (Addition.group connective q).Matches (.group connective q') := by
  have hskeleton : (Predicate.group q).skeleton = (Predicate.group q').skeleton := by
    have hclauses := Clause.skeletonList_of_further h.clauses
    cases q
    cases q'
    simp only [Predicate.skeleton, hclauses]
  unfold Addition.group
  rw [h.hasClauses_eq, h.bindings]
  split
  · exact .single connective hskeleton _
  · exact .refl _

end Addition.Matches

/-! ## Runs -/

/-- Runs that are refused together on matching builders, and leave matching builders. -/
def Build.Matches {α β : Type} (run : Build α) (run' : Build β) : Prop :=
  ∀ whole : Prop, run.Keeps (Builder.Matches whole) run'

/-- Runs that fill matching builders to matching queries. What they leave when they are refused is
free. -/
def Build.FillsAlike (run run' : Build Unit) : Prop :=
  ∀ (whole : Prop) (b b' : Builder), b.Matches whole b' →
    Agree (Query.Matches whole) (run.fill b) (run'.fill b')

namespace Build.Matches

variable {α β α' β' : Type}

theorem modify {f f' : Builder → Builder}
    (h : ∀ (whole : Prop) b b', b.Matches whole b' → (f b).Matches whole (f' b')) :
    (Build.modify f).Matches (Build.modify f') :=
  fun whole => Keeps.modify (h whole)

theorem read {f : Builder → Except Error α} {f' : Builder → Except Error β}
    (h : ∀ b b', b.Matches False b' → Agree (fun _ _ => True) (f b) (f' b')) :
    (Build.read f).Matches (Build.read f') :=
  fun _ => Keeps.read fun b b' hb => h b b' hb.forget

theorem refuse (e : Error) : (Build.refuse e : Build α).Matches (Build.refuse e : Build β) :=
  fun _ => Keeps.refuse e e

theorem bind {run : Build α} {run' : Build β} {next : α → Build α'} {next' : β → Build β'}
    (hr : run.Matches run') (hn : ∀ a a', (next a).Matches (next' a')) :
    (run >>= next).Matches (run' >>= next') :=
  fun whole => (hr whole).bind fun a a' => hn a a' whole

theorem done {run run' : Build Unit} (h : run.Matches run') :
    (Build.done run).Matches (Build.done run') :=
  h.bind fun _ _ _ => Keeps.pure _ _

theorem discard {run : Build α} {run' : Build β} (h : run.Matches run') :
    (Functor.discard run).Matches (Functor.discard run') :=
  h.bind fun _ _ _ => Keeps.pure _ _

theorem ignoring {run : Build α} {run' : Build β} (h : run.Matches run') :
    (Build.ignoring run).Matches (Build.ignoring run') :=
  fun whole => (h whole).ignoring

theorem ofExcept_bind {R : α → β → Prop} {x : Except Error α} {x' : Except Error β}
    {next : α → Build α'} {next' : β → Build β'} (hx : Agree R x x')
    (hn : ∀ a a', R a a' → (next a).Matches (next' a')) :
    (Build.ofExcept x >>= next).Matches (Build.ofExcept x' >>= next') :=
  fun whole => Keeps.ofExcept_bind hx fun a a' h => hn a a' h whole

theorem contribute {f f' : Builder → Except Error Addition}
    (h : ∀ b b', b.Matches False b' → Agree Addition.Matches (f b) (f' b')) :
    (Build.contribute f).Matches (Build.contribute f') :=
  fun _ => Keeps.contribute (fun b b' hb => h b b' hb.forget) fun _ _ _ _ hb ha => hb.add ha

/-- A run that another one matches treats matching builders alike. -/
theorem self {run : Build α} {run' : Build β} (h : run.Matches run') : run'.Matches run' := by
  intro whole b b' hb
  obtain ⟨hresult, hlast⟩ := h whole b b (.refl b)
  obtain ⟨hresult', hlast'⟩ := h whole b b' hb
  exact ⟨hresult.symm.trans hresult' fun _ _ _ _ _ => trivial, hlast.symm.trans hlast'⟩

end Build.Matches

namespace Build

theorem fill_bind {α : Type} (run : Build α) (next : α → Build Unit) (b : Builder) :
    (run >>= next).fill b =
      match run b with
      | (.ok a, c) => (next a).fill c
      | (.error e, _) => .error e := by
  simp only [fill, bind_apply]
  rcases run b with ⟨_ | _, _⟩ <;> rfl

namespace FillsAlike

variable {run run' run'' : Build Unit}

theorem pure : (Pure.pure () : Build Unit).FillsAlike (Pure.pure ()) := by
  intro whole b b' hb
  exact .ok hb.query

theorem symm (h : run.FillsAlike run') : run'.FillsAlike run := by
  intro whole b b' hb
  exact (h whole b' b hb.symm).symm.mono fun _ _ hq => hq.symm

theorem trans (h : run.FillsAlike run') (h' : run'.FillsAlike run'') : run.FillsAlike run'' := by
  intro whole b b' hb
  exact (h whole b b (.refl b)).trans (h' whole b b' hb) fun _ _ _ hq hq' => hq.trans hq'

end FillsAlike

theorem Matches.bind_fillsAlike {α β : Type} {run : Build α} {run' : Build β}
    {next : α → Build Unit} {next' : β → Build Unit} (h : run.Matches run')
    (hn : ∀ a a', (next a).FillsAlike (next' a')) :
    (run >>= next).FillsAlike (run' >>= next') := by
  intro whole b b' hb
  obtain ⟨hresult, hlast⟩ := h whole b b' hb
  rw [fill_bind, fill_bind]
  rcases hr : run b with ⟨x, c⟩
  rcases hr' : run' b' with ⟨x', c'⟩
  rw [hr, hr'] at hresult hlast
  cases hresult with
  | ok _ => exact hn _ _ whole c c' hlast
  | error e e' => exact .error e e'

end Build

end SqlCompose
