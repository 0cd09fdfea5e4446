import SqlCompose.Proofs.Numbering
import SqlCompose.Proofs.Programs

/-!
# Bindings line up with placeholders

A slot is what the placeholder of a comparison stands for: the one scalar of its
value. The bindings of a builder are collected call by call and the placeholders
are written from the finished tree, so the two agree only if every call that
embeds a query also appends the bindings of that query, and does so in the order
in which the query is written.
-/

namespace SqlCompose

/-- Bindings of conditions alone are read in the order in which they were appended. -/
theorem Bindings.toList_eq_filter {b : Bindings} (h : ∀ c, c ≠ .filter → b.get c = []) :
    b.toList = b.get .filter := by
  have hs := h .select (by decide)
  have ho := h .source (by decide)
  have hj := h .join (by decide)
  have hg := h .grouping (by decide)
  have hh := h .having (by decide)
  have hr := h .ordering (by decide)
  have hu := h .union (by decide)
  simp [toList, Category.all, hs, ho, hj, hg, hh, hr, hu]

theorem Bindings.toList_append_filter {b : Bindings} (h : ∀ c, c ≠ .filter → b.get c = [])
    (scalars : List Scalar) : (b.append .filter scalars).toList = b.toList ++ scalars := by
  have h' : ∀ c, c ≠ .filter → (b.append .filter scalars).get c = [] := by
    intro c hc
    simp [hc, h c hc]
  rw [toList_eq_filter h, toList_eq_filter h', get_append, if_pos rfl]

namespace Query

/-- What the placeholders of a query stand for, in order; `none` where the value of a comparison
has no single scalar. -/
def slots (q : Query) : List (Option Scalar) :=
  q.values.map Value.single?

/-- The bindings of a query fill its slots in order, and belong to its conditions. -/
structure LinesUp (q : Query) : Prop where
  slots : q.bindings.toList.map some = q.slots
  filter : ∀ c, c ≠ .filter → q.bindings.get c = []

/-- The bindings line up in a query and in all that is embedded in it. -/
def LinesUpThroughout (q : Query) : Prop :=
  ∀ q' ∈ q :: q.embedded, q'.LinesUp

theorem LinesUpThroughout.self {q : Query} (h : q.LinesUpThroughout) : q.LinesUp :=
  h q (by simp)

/-- A query that lines up has one placeholder for each of its bindings. -/
theorem LinesUp.count_pieces {q : Query} (h : q.LinesUp) (d : Dialect) :
    (q.pieces d).count = q.bindings.toList.length := by
  have hl := congrArg List.length h.slots
  rw [q.count_pieces d]
  simpa [Query.slots] using hl.symm

end Query

namespace Addition

/-- What a call contributes fills the slots of its clauses, which come after `before`. -/
structure LinesUp (a : Addition) (before : List (Option Scalar)) : Prop where
  slots : (Clause.valuesList a.clauses).map Value.single? = before ++ a.scalars.map some
  embedded : ∀ q ∈ Clause.embeddedList a.clauses, q.LinesUp

end Addition

open Query (LinesUpThroughout)

/-- The slots of a comparison are those of its column and then its own. -/
theorem Compared.linesUp {column : ColumnRef} {a : Addition}
    (h : Compared LinesUpThroughout column a) (hc : ∀ q ∈ column.embedded, q.LinesUp) :
    a.LinesUp (column.values.map Value.single?) := by
  cases h with
  | null connective negated =>
    cases negated <;> constructor
    · simp [Addition.nullChecks, Clause.valuesList, Predicate.values]
    · simpa [Addition.nullChecks, Clause.embeddedList, Predicate.embedded] using hc
    · simp [Addition.nullChecks, Clause.valuesList, Predicate.values]
    · simpa [Addition.nullChecks, Clause.embeddedList, Predicate.embedded] using hc
  | value connective operator offset hn hv =>
    constructor
    · simp [Addition.single, Clause.valuesList, Predicate.values, hv]
    · simpa [Addition.single, Clause.embeddedList, Predicate.embedded] using hc
  | @subselect q connective operator hq =>
    constructor
    · have hs := hq.self.slots
      simp [Addition.single, Clause.valuesList, Predicate.values, hs, Query.slots]
    · intro q' hq'
      have hmem : q' ∈ column.embedded ∨ q' ∈ q :: q.embedded := by
        simpa [Addition.single, Clause.embeddedList, Predicate.embedded] using hq'
      rcases hmem with hmem | hmem
      · exact hc q' hmem
      · exact hq q' hmem

theorem Query.LinesUpThroughout.group {q : Query} (h : q.LinesUpThroughout)
    (connective : Connective) : (Addition.group connective q).LinesUp [] := by
  by_cases hq : q.hasClauses = true
  · constructor
    · have hs := h.self.slots
      simp [Addition.group, hq, Addition.single, Clause.valuesList, Predicate.values_group, hs,
        Query.slots]
    · intro q' hq'
      apply h q'
      simpa [Addition.group, hq, Addition.single, Clause.embeddedList, Predicate.embedded] using hq'
  · constructor <;> simp [Addition.group, hq, Clause.valuesList, Clause.embeddedList]

theorem Addition.linesUp_nullChecks (connective : Connective) (negated : Bool)
    (columns : List String) :
    (nullChecks connective negated (columns.map .name)).LinesUp [] := by
  induction columns with
  | nil => constructor <;> simp [nullChecks, Clause.valuesList, Clause.embeddedList]
  | cons column columns ih =>
    obtain ⟨hs, he⟩ := ih
    simp only [nullChecks, List.map_map, List.map_nil, List.append_nil] at hs he
    cases negated <;> constructor
    · simpa [nullChecks, Clause.valuesList, Predicate.values, ColumnRef.values] using hs
    · simpa [nullChecks, Clause.embeddedList, Predicate.embedded, ColumnRef.embedded] using he
    · simpa [nullChecks, Clause.valuesList, Predicate.values, ColumnRef.values] using hs
    · simpa [nullChecks, Clause.embeddedList, Predicate.embedded, ColumnRef.embedded] using he

/-- Whatever a call contributes fills its own slots, unless it is handed a sub-query as a column. -/
theorem Contributed.linesUp {a : Addition}
    (h : Contributed (fun _ => False) LinesUpThroughout a) : a.LinesUp [] := by
  cases h with
  | @column c a hc h =>
    cases c with
    | name text => exact h.linesUp (by simp [ColumnRef.embedded])
    | raw sql => exact h.linesUp (by simp [ColumnRef.embedded])
    | subquery q => exact hc.elim
  | @subquery q a hq h =>
    obtain ⟨hs, he⟩ := h.linesUp hq
    constructor
    · have hb : q.bindings.toList.map some = q.values.map Value.single? := hq.self.slots
      simp [hs, ColumnRef.values, hb]
    · exact he
  | group connective hq => exact hq.group connective
  | nullChecks connective negated columns =>
    exact Addition.linesUp_nullChecks connective negated columns

theorem Query.LinesUp.congr {q q' : Query} (h : q.LinesUp) (hc : q'.clauses = q.clauses)
    (hb : q'.bindings = q.bindings) : q'.LinesUp := by
  obtain ⟨hs, hf⟩ := h
  constructor
  · rwa [Query.slots, q'.values_eq, hc, ← q.values_eq, hb]
  · rwa [hb]

theorem Builder.linesUp_add {b : Builder} {a : Addition} (hb : b.query.LinesUp)
    (ha : a.LinesUp []) : (b.add a).query.LinesUp := by
  obtain ⟨hs, hf⟩ := hb
  have hf' : ∀ c, c ≠ .filter → (b.add a).query.bindings.get c = [] := by
    intro c hc
    simpa [hc] using hf c hc
  constructor
  · have hv := b.query.values_eq
    have hv' := (b.add a).query.values_eq
    rw [Bindings.toList_eq_filter hf] at hs
    rw [Bindings.toList_eq_filter hf', Query.slots, hv', clauses_add, Clause.valuesList_append,
      List.map_append, ← hv, ha.slots]
    simp [hs, Query.slots]
  · exact hf'

/-- Bindings that line up do so after every call. -/
theorem Query.LinesUpThroughout.invariant : Invariant (fun _ => False) LinesUpThroughout where
  empty := by
    intro q hq
    have he : q = {} := by simpa [Query.embedded, Clause.embeddedList] using hq
    subst he
    exact ⟨rfl, fun c _ => by cases c <;> rfl⟩
  congr := by
    intro q q' h hc hb
    refine List.forall_mem_cons.mpr ⟨h.self.congr hc hb, ?_⟩
    rw [q'.embedded_eq, hc, ← q.embedded_eq]
    exact fun q'' hq => h q'' (List.mem_cons_of_mem q hq)
  add := by
    intro b a hb ha
    have hup := ha.linesUp
    refine List.forall_mem_cons.mpr ⟨Builder.linesUp_add hb.self hup, ?_⟩
    rw [Query.embedded_eq, Builder.clauses_add, Clause.embeddedList_append, ← Query.embedded_eq]
    intro q hq
    rcases List.mem_append.mp hq with hq | hq
    · exact hb q (List.mem_cons_of_mem _ hq)
    · exact hup.embedded q hq

/-- What is written for a query that lines up takes its bindings one after the other. -/
theorem Query.LinesUp.render {q : Query} (h : q.LinesUp) {d : Dialect} {n m : Nat} {text : String}
    (hr : q.render d n = .ok (text, m)) :
    text = (q.pieces d).number d.placeholder n ∧
      (q.pieces d).count = q.bindings.toList.length ∧ m = n + q.bindings.toList.length := by
  have hc := h.count_pieces d
  rw [q.render_eq d n] at hr
  obtain ⟨-, htext, hm⟩ := Dialect.written_eq_ok hr
  exact ⟨htext, hc, by rw [hm, hc]⟩

/-- The bindings of a builder line up with the placeholders of every statement it is written as. -/
structure Builder.Aligned (b : Builder) : Prop where
  throughout : b.query.LinesUpThroughout
  written : ∀ (d : Dialect) (n : Nat) (text : String) (m : Nat),
    b.query.render d n = .ok (text, m) →
      text = (b.query.pieces d).number d.placeholder n ∧
        (b.query.pieces d).count = b.bindings.length ∧ m = n + b.bindings.length

theorem Builder.Reachable.aligned {b : Builder}
    (h : b.Reachable (fun _ => False) LinesUpThroughout) : b.Aligned := by
  have hup : b.query.LinesUpThroughout := h.invariant LinesUpThroughout.invariant fun _ hq => hq
  exact ⟨hup, fun d n text m hr => hup.self.render hr⟩

/-- Bindings line up with placeholders in every builder that calls can reach without a
sub-query dispatched as a column, whatever lined-up queries are nested by hand, and so in the
builder that any program of such calls ends with. -/
theorem bindings_line_up :
    (∀ b : Builder, b.Reachable (fun _ => False) LinesUpThroughout → b.Aligned) ∧
    ∀ (p : BuilderTerm) (outcomes : List Outcome) (b : Builder),
      p.Permitted False False → p.trace = .ok (outcomes, b) → b.Aligned := by
  refine ⟨fun b h => h.aligned, ?_⟩
  intro p outcomes b hp h
  have hs : Supplies (fun _ => False) LinesUpThroughout False False :=
    ⟨fun _ hf => hf.elim, fun _ _ hf => hf.elim⟩
  exact (BuilderTerm.reachable_trace hs hp h).aligned

/-- A sub-query column whose callback ignores a refused call, a group with a sub-select, a
comparison that is refused, and a query nested by hand. -/
theorem bindings_line_up_nested :
    let p : BuilderTerm := {
      table := some "users"
      steps := [
        ⟨.whereEq "active" (.scalar (.bool true)), false⟩,
        ⟨.whereQuery (.callback [
            ⟨.setTable "scores", false⟩,
            ⟨.whereOp "score" ">" (.scalar (.int 5)), false⟩,
            ⟨.whereOp "score" ">" (.scalar .null), true⟩])
          "<" (.scalar (.int 50)), false⟩,
        ⟨.whereGroup .or [
            ⟨.whereSub "id" "in"
              [⟨.whereOp "total" ">" (.list [.scalar (.int 100)]), false⟩], false⟩,
            ⟨.whereNull .or true ["name"], false⟩], false⟩,
        ⟨.whereQuery (.raw "SELECT 1") ">" (.scalar .null), false⟩] }
    let q : Query := {
      clauses := [⟨.and, .compare (.name "a") "=" (.scalar (.int 1)) 1⟩]
      bindings := { filter := [.int 1] } }
    (p.Permitted False False ∧ ∃ outcomes b, p.trace = .ok (outcomes, b) ∧
      b.bindings = [.bool true, .int 5, .int 50, .int 100] ∧ b.Aligned) ∧
    q.LinesUpThroughout ∧ (({} : Builder).add (.group .or q)).Aligned := by
  intro p q
  have hp : p.Permitted False False := by
    simp [p, BuilderTerm.Permitted, Step.AllPermitted, Call.Permitted, SubqueryTerm.Permitted]
  have hq : q.LinesUpThroughout := by
    intro q' hq'
    rw [List.mem_singleton.mp hq']
    exact ⟨rfl, fun c hc => by cases c <;> first | rfl | exact absurd rfl hc⟩
  have hb := bindings_line_up.2 p
  have hn : (({} : Builder).add (.group .or q)).Reachable (fun _ => False) LinesUpThroughout :=
    .nest .or (.fresh none {}) hq
  exact ⟨⟨hp, _, _, rfl, rfl, hb _ _ hp rfl⟩, hq, bindings_line_up.1 _ hn⟩

end SqlCompose
