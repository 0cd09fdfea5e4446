import SqlCompose.Proofs.Alignment

/-!
# Queries in the place of a column

A query comes to stand before an operator in two ways. A sub-query that is compared
has its bindings merged before those of the value. A query that is handed over as
the column of a comparison is written in the same way, with placeholders of its own,
and nothing is bound for them. So this second way keeps bindings and placeholders in
line for queries that bind nothing, and for no others.
-/

namespace SqlCompose

theorem Bindings.get_onlyFilter {scalars : List Scalar} {c : Category} (hc : c ≠ .filter) :
    ({ filter := scalars } : Bindings).get c = [] := by
  cases c <;> first | rfl | exact absurd rfl hc

/-- The scalars that the right-hand side of a comparison binds, and the values that it adds to the
conditions. A null turns the comparison into a null check and binds nothing. -/
inductive Operand.Binds (b : Builder) : Operand → List Scalar → List Value → Prop
  | null {v : Value} : v.isNull = true → Binds b (.value v) [] []
  | value {v : Value} {s : Scalar} : v.isNull = false → v.single? = some s →
      Binds b (.value v) [s] [v]
  | subselect {sub : Subquery} {q : Query} : b.subselect sub = .ok q →
      Binds b (.query sub) q.bindings.toList q.values

/-- The scalars are what the placeholders of the values stand for. -/
def Fit (scalars : List Scalar) (values : List Value) : Prop :=
  scalars.map some = values.map Value.single?

namespace Fit

variable {scalars scalars' : List Scalar} {values values' : List Value}

theorem length_eq (h : Fit scalars values) : scalars.length = values.length := by
  simpa using congrArg List.length h

theorem append (h : Fit scalars values) (h' : Fit scalars' values') :
    Fit (scalars ++ scalars') (values ++ values') := by
  rw [Fit, List.map_append, List.map_append, h, h']

/-- Values that nothing is bound for leave the others without what fits them. -/
theorem after_iff (h : Fit scalars values) (h' : Fit scalars' values') :
    Fit scalars' (values ++ values') ↔ scalars = [] := by
  rw [Fit, h', List.map_append, List.self_eq_append_left, ← h, List.map_eq_nil_iff]

end Fit

theorem Query.LinesUp.fit {q : Query} (h : q.LinesUp) : Fit q.bindings.toList q.values :=
  h.slots

namespace Builder

variable {b b' : Builder} {a : Addition} {scalars : List Scalar} {values : List Value}

/-- A builder that has come to bind further scalars and to compare further values. -/
structure GrowsTo (b b' : Builder) (scalars : List Scalar) (values : List Value) : Prop where
  bindings : b'.bindings = b.bindings ++ scalars
  values : b'.query.values = b.query.values ++ values
  filter : ∀ c, c ≠ .filter → b'.query.bindings.get c = []

theorem growsTo_add (hb : b.query.LinesUp) (a : Addition) :
    b.GrowsTo (b.add a) a.scalars (Clause.valuesList a.clauses) where
  bindings := Bindings.toList_append_filter hb.filter a.scalars
  values := by
    rw [Query.values_eq, clauses_add, Clause.valuesList_append, ← Query.values_eq]
  filter := by
    intro c hc
    simpa [hc] using hb.filter c hc

/-- Bindings stay in line if the new ones fit the new values, and only then. -/
theorem GrowsTo.linesUp_iff (h : b.GrowsTo b' scalars values) (hb : b.query.LinesUp) :
    b'.query.LinesUp ↔ Fit scalars values := by
  have hheld : b.bindings.map some = b.query.values.map Value.single? := hb.slots
  have hslots : b'.bindings.map some = b'.query.slots ↔ Fit scalars values := by
    rw [Query.slots, h.bindings, h.values, List.map_append, List.map_append, hheld]
    exact List.append_right_inj _
  constructor
  · intro hup
    exact hslots.mp hup.slots
  · intro hfit
    exact ⟨hslots.mpr hfit, h.filter⟩

/-! ## What a comparison adds -/

theorem binds_of_compareValue {column : ColumnRef} {operator : String} {v : Value}
    {connective : Connective} {offset : Nat}
    (h : compareValue column operator v connective offset = .ok a) :
    ∃ values, (Operand.value v).Binds b a.scalars values ∧
      Clause.valuesList a.clauses = column.values ++ values := by
  unfold compareValue at h
  split_ifs at h with hi hn
  · cases h
    refine ⟨[], .null hn, ?_⟩
    by_cases hop : operator = "=" <;>
      simp [Addition.nullChecks, Clause.valuesList, Predicate.values, hop]
  · split at h
    · next s hs =>
      cases h
      refine ⟨[v], .value (by simpa using hn) hs, ?_⟩
      simp [Addition.single, Clause.valuesList, Predicate.values]
    · cases h

/-- The values of the column come first, and nothing is bound for them. -/
theorem binds_of_compare {column : ColumnRef} {operator : String} {value : Operand}
    {connective : Connective} {offset : Nat}
    (h : b.compare column operator value connective offset = .ok a) :
    ∃ values, value.Binds b a.scalars values ∧
      Clause.valuesList a.clauses = column.values ++ values := by
  cases value with
  | value v => exact binds_of_compareValue h
  | query sub =>
    obtain ⟨q, hq, h⟩ := Except.bind_eq_ok_iff.mp h
    cases h
    refine ⟨q.values, .subselect hq, ?_⟩
    simp [Addition.single, Clause.valuesList, Predicate.values]

theorem binds_of_compareColumn {call : ColumnCall} (h : b.compareColumn call = .ok a) :
    ∃ values, call.operand.Binds b a.scalars values ∧
      Clause.valuesList a.clauses = call.column.values ++ values := by
  cases call <;> exact binds_of_compare h

/-- A sub-query that is compared binds its own scalars, before those of the value. -/
theorem binds_of_compareSubquery {child : Builder} {operator : String} {value : Operand}
    {connective : Connective}
    (h : b.compareSubquery (.builder child) operator value connective = .ok a) :
    ∃ scalars values, value.Binds b scalars values ∧ a.scalars = child.bindings ++ scalars ∧
      Clause.valuesList a.clauses = child.query.values ++ values := by
  obtain ⟨e, he, h⟩ := Except.bind_eq_ok_iff.mp h
  obtain ⟨a', ha, h⟩ := Except.bind_eq_ok_iff.mp h
  cases he
  cases h
  obtain ⟨values, hbinds, hvalues⟩ := binds_of_compare ha
  exact ⟨a'.scalars, values, hbinds, rfl, hvalues⟩

end Builder

theorem Build.dispatch_eq_ok {s : Shape} {b b' : Builder} (h : Build.dispatch s b = (.ok (), b')) :
    ∃ a, b.addition s = .ok a ∧ b' = b.add a := by
  unfold Build.dispatch Build.contribute at h
  split at h
  · next a ha =>
    cases h
    exact ⟨a, ha, rfl⟩
  · cases h

/-- On a builder whose bindings line up, a query that lines up is handed over as the column of a
comparison, with any value: what is bound is what the value binds, and the query adds the
placeholders of its own beside it. Where the value is in line by itself, the builder stays in line
exactly if the query binds nothing, and it has as many bindings too few as the query has. The same
query given as a sub-query that is compared is bound, once and first, and the builder stays in
line. -/
theorem column_query_is_not_bound (b : Builder) (q : Query) (hb : b.query.LinesUp)
    (hq : q.LinesUp) :
    (∀ (call : ColumnCall) (b' : Builder), call.column = .subquery q →
      Build.dispatch (.column call) b = (.ok (), b') →
      ∃ scalars values, call.operand.Binds b scalars values ∧
        b.GrowsTo b' scalars (q.values ++ values) ∧
        (Fit scalars values →
          (b'.query.LinesUp ↔ q.bindings.toList = []) ∧
          ∀ d : Dialect, (b'.query.pieces d).count =
            b'.bindings.length + q.bindings.toList.length)) ∧
    ∀ (child b' : Builder) (operator : String) (value : Operand) (connective : Connective),
      child.query = q →
      Build.dispatch (.subquery (.builder child) operator value connective) b = (.ok (), b') →
      ∃ scalars values, value.Binds b scalars values ∧
        b.GrowsTo b' (q.bindings.toList ++ scalars) (q.values ++ values) ∧
        (Fit scalars values → b'.query.LinesUp) := by
  constructor
  · intro call b' hcolumn h
    obtain ⟨a, ha, rfl⟩ := Build.dispatch_eq_ok h
    obtain ⟨values, hbinds, hvalues⟩ := Builder.binds_of_compareColumn ha
    have hgrows := Builder.growsTo_add hb a
    rw [hvalues, hcolumn] at hgrows
    refine ⟨a.scalars, values, hbinds, hgrows, fun hfit => ⟨?_, fun d => ?_⟩⟩
    · exact (hgrows.linesUp_iff hb).trans (hq.fit.after_iff hfit)
    · have hheld : b.bindings.length = b.query.values.length := hb.fit.length_eq
      rw [Query.count_pieces, hgrows.values, hgrows.bindings, ColumnRef.values]
      simp only [List.length_append]
      have hlength := hq.fit.length_eq
      have hvalue := hfit.length_eq
      omega
  · intro child b' operator value connective hchild h
    obtain ⟨a, ha, rfl⟩ := Build.dispatch_eq_ok h
    obtain ⟨scalars, values, hbinds, hscalars, hvalues⟩ := Builder.binds_of_compareSubquery ha
    have hgrows := Builder.growsTo_add hb a
    rw [hvalues, hscalars, Builder.bindings, hchild] at hgrows
    refine ⟨scalars, values, hbinds, hgrows, fun hfit => ?_⟩
    exact (hgrows.linesUp_iff hb).mpr (hq.fit.append hfit)

/-- A query that binds two numbers, compared with a sub-select that binds a third one: handed over
as a column it is not bound, and as a sub-query it is. -/
theorem column_query_is_not_bound_scores :
    let b : Builder := (Build.whereEq "active" (.scalar (.bool true)) (.ofTable "users")).2
    let scores : Build Unit := do
      .whereOp "score" ">" (.scalar (.int 5))
      .whereOp "score" "<" (.scalar (.int 90))
    let child : Builder := (scores (.ofTable "scores")).2
    let total : Subquery := .callback (.whereEq "total" (.scalar (.int 100)))
    let handed := (Build.dispatch
      (.column (.operatorValue (.subquery child.query) "in" (.query total))) b).2
    let merged := (Build.dispatch (.subquery (.builder child) "in" (.query total) .and) b).2
    b.query.LinesUp ∧ child.query.LinesUp ∧
    handed.bindings = [.bool true, .int 100] ∧
    handed.query.slots = [.bool true, .int 5, .int 90, .int 100].map some ∧
    ¬ handed.query.LinesUp ∧ (handed.query.pieces .sqlite).count = 4 ∧
    merged.bindings = [.bool true, .int 5, .int 90, .int 100] ∧ merged.query.LinesUp := by
  intro b scores child total handed merged
  have hb : b.query.LinesUp := ⟨rfl, fun c hc => Bindings.get_onlyFilter hc⟩
  have hchild : child.query.LinesUp := ⟨rfl, fun c hc => Bindings.get_onlyFilter hc⟩
  have hfit : ∀ {scalars values}, (Operand.query total).Binds b scalars values →
      Fit scalars values := by
    intro scalars values h
    cases h with
    | subselect hq =>
      rw [← Except.ok.inj hq]
      exact rfl
  obtain ⟨hhanded, hmerged⟩ := column_query_is_not_bound b child.query hb hchild
  obtain ⟨_, _, hbinds, -, hwhole⟩ :=
    hhanded (.operatorValue (.subquery child.query) "in" (.query total)) handed rfl rfl
  obtain ⟨_, _, hbinds', -, hup⟩ := hmerged child merged "in" (.query total) .and rfl rfl
  obtain ⟨hup', hcount⟩ := hwhole (hfit hbinds)
  refine ⟨hb, hchild, rfl, rfl, ?_, hcount .sqlite, rfl, hup (hfit hbinds')⟩
  intro h
  cases hup'.mp h

/-- A query with one binding as the column of a comparison: the statement has two placeholders,
and one scalar is bound. -/
theorem column_query_leaves_placeholder_unbound :
    let b : Builder := .ofTable "t"
    let q : Query := (Build.whereEq "a" (.scalar (.int 5)) (.ofTable "s")).2.query
    let dispatched := Build.dispatch (.column (.value (.subquery q) (.value (.scalar (.int 1))))) b
    b.query.LinesUp ∧ q.LinesUp ∧ dispatched.1 = .ok () ∧
    dispatched.2.query.toSql .postgresql =
      .ok "SELECT * FROM \"t\" WHERE (SELECT * FROM \"s\" WHERE \"a\" = $1) = $2" ∧
    dispatched.2.bindings = [.int 1] ∧ dispatched.2.query.slots = [some (.int 5), some (.int 1)] ∧
    ¬ dispatched.2.query.LinesUp := by
  intro b q dispatched
  have hb : b.query.LinesUp := ⟨rfl, fun c hc => Bindings.get_onlyFilter hc⟩
  have hq : q.LinesUp := ⟨rfl, fun c hc => Bindings.get_onlyFilter hc⟩
  refine ⟨hb, hq, rfl, by decide +kernel, rfl, rfl, ?_⟩
  intro h
  exact absurd h.slots (by decide)

end SqlCompose
