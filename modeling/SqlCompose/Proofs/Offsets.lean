import SqlCompose.Proofs.Alignment
import SqlCompose.Proofs.Calls

/-!
# Recorded offsets

The comparison of a sub-query records how many bindings come before its value.
The number is taken from what the builder holds when the call is made, long before
anything is written; it is still the position of the value among the bindings, and
the number of placeholders before its own, in every statement written later on.
-/

namespace SqlCompose

/-! ## What a sub-query becomes -/

/-- The expression that stands for a sub-query on a builder, and the bindings of its own. -/
inductive Subquery.Fills (b : Builder) : Subquery → ColumnRef → List Scalar → Prop
  | raw {sql : String} : (∃ c ∈ sql.toList, c.toNat ∉ Text.whiteSpace) →
      Fills b (.raw sql) (.raw ("(" ++ sql ++ ")")) []
  | callback {run : Build Unit} {child : Builder} : run b.forSubquery = (.ok (), child) →
      Fills b (.callback run) (.subquery child.query) child.bindings
  | builder (child : Builder) : Fills b (.builder child) (.subquery child.query) child.bindings

theorem Builder.embedQuery_eq (b : Builder) (q : Query) :
    b.embedQuery q = ⟨.subquery q, q.bindings.toList, b.bindings.length,
      b.bindings.length + q.bindings.toList.length⟩ := by
  simp [embedQuery, Builder.bindings, Bindings.length_toList]

/-- A sub-query is placed after the bindings already held, and what it is compared with after
its own. -/
theorem Builder.embed_eq_ok_iff {b : Builder} {query : Subquery} {e : Embedded} :
    b.embed query = .ok e ↔ query.Fills b e.column e.scalars ∧
      e.offset = b.bindings.length ∧ e.valueOffset = b.bindings.length + e.scalars.length := by
  have hlength : b.bindings.length = b.query.bindings.size := b.query.bindings.length_toList
  constructor
  · intro h
    cases query with
    | raw sql =>
      simp only [embed] at h
      split_ifs at h with hblank
      cases h
      have hmore := Text.isBlank_eq_false_iff.mp (Bool.eq_false_of_not_eq_true hblank)
      exact ⟨.raw hmore, hlength.symm, by simp [hlength]⟩
    | callback run =>
      obtain ⟨q, hq, rfl⟩ := Except.map_eq_ok_iff.mp h
      obtain ⟨child, hrun, rfl⟩ := Build.fill_eq_ok_iff.mp hq
      rw [embedQuery_eq]
      exact ⟨.callback hrun, rfl, rfl⟩
    | builder child =>
      cases h
      rw [embedQuery_eq]
      exact ⟨.builder child, rfl, rfl⟩
  · rintro ⟨h, hoffset, hvalue⟩
    obtain ⟨column, scalars, offset, valueOffset⟩ := e
    dsimp only at h hoffset hvalue
    subst hoffset hvalue
    cases h with
    | raw hmore => simp [embed, Text.isBlank_eq_false_iff.mpr hmore, hlength]
    | callback hrun =>
      have hq : Build.fill _ b.forSubquery = .ok _ := Build.fill_eq_ok_iff.mpr ⟨_, hrun, rfl⟩
      simp only [embed, hq, Except.map, embedQuery_eq]
      rfl
    | builder child =>
      simp only [embed, embedQuery_eq]
      rfl

/-! ## What is written before a comparison -/

namespace Pieces

theorem append_assoc (p p' p'' : Pieces) : p ++ p' ++ p'' = p ++ (p' ++ p'') := by
  induction p with
  | last s =>
    cases p' with
    | last s' => cases p'' <;> simp [last_append_last, last_append_mark, String.append_assoc]
    | mark s' p' => simp [last_append_mark, mark_append]
  | mark s p ih => simp [mark_append, ih]

@[simp] theorem last_empty_append (p : Pieces) : last "" ++ p = p := by
  cases p <;> simp [last_append_last, last_append_mark]

end Pieces

namespace Clause

variable (d : Dialect)

theorem piecesFurther_append (cs cs' : List Clause) :
    piecesFurther d (cs ++ cs') = piecesFurther d cs ++ piecesFurther d cs' := by
  induction cs with
  | nil => simp [piecesFurther]
  | cons c cs ih =>
    cases c
    simp only [List.cons_append, piecesFurther, ih, Pieces.append_assoc]

/-- What joins a clause to the clauses before it; the first one is joined by nothing. -/
def joint (connective : Connective) (before : List Clause) : String :=
  if before = [] then "" else " " ++ connective.keyword ++ " "

theorem piecesList_append_cons (before after : List Clause) (connective : Connective)
    (p : Predicate) :
    piecesList d (before ++ ⟨connective, p⟩ :: after) =
      piecesList d before ++ .last (joint connective before) ++ p.pieces d ++
        piecesFurther d after := by
  cases before with
  | nil => simp [piecesList, joint]
  | cons c before =>
    cases c
    simp [piecesList, piecesFurther_append, piecesFurther, joint, Pieces.append_assoc]

end Clause

/-- What is written of a statement before the placeholder of a comparison that comes after some
of its clauses. -/
def Query.piecesBefore (d : Dialect) (q : Query) (before : List Clause) (connective : Connective)
    (column : ColumnRef) (operator : String) : Pieces :=
  .last (heading d q.columns q.table ++ " WHERE ") ++ Clause.piecesList d before ++
    .last (Clause.joint connective before) ++ column.pieces d ++ .last (" " ++ operator ++ " ")

theorem Query.pieces_eq_before (d : Dialect) {q : Query} {before after : List Clause}
    {connective : Connective} {column : ColumnRef} {operator : String} {v : Value} {offset : Nat}
    (h : q.clauses = before ++ ⟨connective, .compare column operator v offset⟩ :: after) :
    q.pieces d = q.piecesBefore d before connective column operator ++ .placeholder ++
      (Clause.piecesFurther d after ++ .last (ending q.limit)) := by
  obtain ⟨columns, table, clauses, bindings, limit⟩ := q
  cases h
  simp [pieces, piecesBefore, Clause.piecesList_append_cons, Predicate.pieces,
    Pieces.append_assoc, ← Pieces.last_append_last]

theorem Query.count_piecesBefore (d : Dialect) (q : Query) (before : List Clause)
    (connective : Connective) (column : ColumnRef) (operator : String) :
    (q.piecesBefore d before connective column operator).count =
      (Clause.valuesList before).length + column.values.length := by
  simp [piecesBefore, Clause.count_piecesList, ColumnRef.count_pieces]

/-! ## The comparison of a sub-query with a value -/

open Query (LinesUpThroughout)

theorem Query.LinesUp.length_values {q : Query} (h : q.LinesUp) :
    q.values.length = q.bindings.toList.length := by
  have hl := congrArg List.length h.slots
  simpa [Query.slots] using hl.symm

/-- An aligned sub-query has one placeholder for each of its bindings. -/
theorem Subquery.Fills.length_values {b : Builder} {query : Subquery} {column : ColumnRef}
    {scalars : List Scalar} (h : query.Fills b column scalars)
    (hq : query.Made (fun _ => False) LinesUpThroughout) :
    column.values.length = scalars.length := by
  have hchild : ∀ child : Builder, child.Reachable (fun _ => False) LinesUpThroughout →
      child.query.values.length = child.bindings.length :=
    fun child hc => hc.aligned.throughout.self.length_values
  cases h with
  | raw _ => rfl
  | @callback run child hrun =>
    have hstays : run.Stays (fun _ => False) LinesUpThroughout := hq
    have hc := hstays b.forSubquery (.forSubquery b)
    rw [hrun] at hc
    exact hchild child hc
  | builder child => exact hchild child hq

theorem Builder.compareValue_eq_single {column : ColumnRef} {operator : String} {v : Value}
    {connective : Connective} {offset : Nat} {s : Scalar} (hn : v.isNull = false)
    (hv : v.single? = some s) :
    compareValue column operator v connective offset =
      .ok (.single connective (.compare column operator v offset) [s]) := by
  simp [compareValue, isIllegalNull, hn, hv]

/-- The offset of a comparison that stands after some clauses is the position of its scalar among
the bindings, and the number of placeholders before its own. -/
structure Builder.Placed (b : Builder) (before : List Clause) (connective : Connective)
    (column : ColumnRef) (operator : String) (v : Value) (offset : Nat) : Prop where
  clause : ∃ after, b.query.clauses =
    before ++ ⟨connective, .compare column operator v offset⟩ :: after
  binding : b.bindings[offset]? = v.single?
  placeholder : ∀ (d : Dialect) (text : String) (m : Nat), b.query.render d 0 = .ok (text, m) →
    let written := b.query.piecesBefore d before connective column operator
    written.count = offset ∧
    ∃ rest : Pieces, text = written.number d.placeholder 0 ++ d.placeholder (offset + 1) ++
      rest.number d.placeholder (offset + 1)

theorem Builder.placed_of_appended {b last : Builder} {connective : Connective}
    {column : ColumnRef} {operator : String} {v : Value} {s : Scalar}
    {scalars more : List Scalar} {after : List Clause}
    (hb : b.Reachable (fun _ => False) LinesUpThroughout)
    (hcolumn : column.values.length = scalars.length) (hv : v.single? = some s)
    (hclauses : last.query.clauses = b.query.clauses ++
      ⟨connective, .compare column operator v (b.bindings.length + scalars.length)⟩ :: after)
    (hbindings : last.bindings = b.bindings ++ (scalars ++ s :: more)) :
    last.Placed b.query.clauses connective column operator v
      (b.bindings.length + scalars.length) where
  clause := ⟨after, hclauses⟩
  binding := by
    rw [hbindings, hv, ← List.append_assoc, ← List.length_append]
    simp
  placeholder := by
    intro d text m hr written
    have hvalues : (Clause.valuesList b.query.clauses).length = b.bindings.length := by
      rw [← b.query.values_eq]
      exact hb.aligned.throughout.self.length_values
    have hcount : written.count = b.bindings.length + scalars.length := by
      rw [Query.count_piecesBefore, hvalues, hcolumn]
    rw [Query.render_eq] at hr
    obtain ⟨-, htext, -⟩ := Dialect.written_eq_ok hr
    refine ⟨hcount, Clause.piecesFurther d after ++ .last (Query.ending last.query.limit), ?_⟩
    rw [htext, Query.pieces_eq_before d hclauses]
    simp only [Pieces.number_append, Pieces.count_append, Pieces.number_placeholder,
      Pieces.count_placeholder, ← hcount, written, Nat.zero_add]

namespace WhereCall

variable {b : Builder} {query : Subquery} {call : WhereCall} {operator : String} {v : Value}
  {connective : Connective}

/-- A sub-query that is accepted is compared: its own bindings are appended and then the value's. -/
theorem run_of_fills {s : Scalar} {column : ColumnRef} {scalars : List Scalar}
    (hshape : call.shape b = .ok (.subquery query operator (.value v) connective))
    (hn : v.isNull = false) (hv : v.single? = some s) (h : query.Fills b column scalars) :
    call.run b = (.ok (), b.add ⟨[⟨connective,
      .compare column operator v (b.bindings.length + scalars.length)⟩], scalars ++ [s]⟩) := by
  have he : b.embed query =
      .ok ⟨column, scalars, b.bindings.length, b.bindings.length + scalars.length⟩ :=
    Builder.embed_eq_ok_iff.mpr ⟨h, rfl, rfl⟩
  rw [run_eq]
  apply Build.contribute_of_ok
  rw [hshape]
  simp only [Bind.bind, Except.bind, Builder.addition, Builder.compareSubquery, he,
    Builder.compare, Builder.compareValue_eq_single hn hv]
  rfl

theorem fills_of_run (hshape : call.shape b = .ok (.subquery query operator (.value v) connective))
    (h : (call.run b).1 = .ok ()) : ∃ column scalars, query.Fills b column scalars := by
  cases he : b.embed query with
  | error e =>
    have ha : b.compareSubquery query operator (.value v) connective = .error e :=
      Except.bind_eq_error_iff.mpr (.inl he)
    have hrefused : (call.shape b >>= b.addition) = .error e := by
      rw [hshape]
      exact ha
    rw [run_eq, Build.contribute, hrefused] at h
    cases h
  | ok e => exact ⟨e.column, e.scalars, (Builder.embed_eq_ok_iff.mp he).1⟩

end WhereCall

/-- On every builder that calls can reach without a sub-query dispatched as a column, and for
every sub-query made in the same way, the offset that a comparison with a value records is the
number of bindings held before the call and in the sub-query. It is and stays the position of the
value among the bindings and the number of placeholders before its own, whatever calls follow.
A sub-query that is accepted is placed after the bindings already held. -/
theorem recorded_offset_is_position :
    (∀ (b : Builder) (query : Subquery) (e : Embedded),
      b.embed query = .ok e ↔ query.Fills b e.column e.scalars ∧
        e.offset = b.bindings.length ∧ e.valueOffset = b.bindings.length + e.scalars.length) ∧
    ∀ (b : Builder) (query : Subquery) (call : WhereCall) (operator : String) (v : Value)
      (connective : Connective),
      b.Reachable (fun _ => False) LinesUpThroughout →
      query.Made (fun _ => False) LinesUpThroughout →
      call.shape b = .ok (.subquery query operator (.value v) connective) →
      v.isNull = false → v.scalars.length = 1 →
      ((call.run b).1 = .ok () ↔ ∃ column scalars, query.Fills b column scalars) ∧
      ∀ column scalars, query.Fills b column scalars → ∀ later : List BuilderCall,
        (BuilderCall.trace later (call.run b).2).2.Placed b.query.clauses connective column
          operator v (b.bindings.length + scalars.length) := by
  refine ⟨fun b query e => Builder.embed_eq_ok_iff, ?_⟩
  intro b query call operator v connective hb hq hshape hn hlength
  obtain ⟨s, hs⟩ : ∃ s, v.scalars = [s] := List.length_eq_one_iff.mp hlength
  have hv : v.single? = some s := Value.single?_eq_some_iff.mpr hs
  refine ⟨⟨WhereCall.fills_of_run hshape, ?_⟩, ?_⟩
  · rintro ⟨column, scalars, hfills⟩
    rw [WhereCall.run_of_fills hshape hn hv hfills]
  · intro column scalars hfills later
    have hrun := WhereCall.run_of_fills hshape hn hv hfills
    apply Builder.placed_of_appended hb (hfills.length_values hq) hv
    · rw [BuilderCall.clauses_trace, hrun, Builder.clauses_add, List.append_assoc]
      rfl
    · rw [Builder.bindings, BuilderCall.bindings_trace, hrun, Builder.bindings_add,
        Bindings.append_append, Bindings.toList_append_filter hb.get_eq_nil, List.append_assoc]
      rfl

/-- A dynamic call compares a sub-query with a group inside on a builder that holds one binding,
and another call follows. -/
theorem recorded_offset_is_position_later :
    let b : Builder := (Build.whereEq "active" (.scalar (.bool true)) (.ofTable "users")).2
    let run : Build Unit := do
      .whereOp "score" ">" (.scalar (.int 5))
      .whereGroup .or (.whereOp "score" "<" (.list [.scalar (.int 3)]))
    let call : WhereCall := .dynamic (.query (.callback run)) [.text "<", .value (.scalar (.int 50))]
    let last := (BuilderCall.trace [.condition (.eq "name" (.scalar (.text "Ken")))] (call.run b).2).2
    b.Reachable (fun _ => False) LinesUpThroughout ∧
    (Subquery.callback run).Made (fun _ => False) LinesUpThroughout ∧
    call.shape b = .ok (.subquery (.callback run) "<" (.value (.scalar (.int 50))) .and) ∧
    ∃ column, (Subquery.callback run).Fills b column [.int 5, .int 3] ∧
      last.Placed b.query.clauses .and column "<" (.scalar (.int 50)) 3 ∧
      last.bindings = [.bool true, .int 5, .int 3, .int 50, .text "Ken"] := by
  intro b run call last
  have hactive : (Build.whereEq "active" (.scalar (.bool true))).Stays
      (fun _ => False) LinesUpThroughout := .dispatchValue trivial rfl
  have hb : b.Reachable (fun _ => False) LinesUpThroughout :=
    hactive (.ofTable "users") (.fresh (some "users") {})
  have hover : (Build.whereOp "score" ">" (.scalar (.int 5))).Stays
      (fun _ => False) LinesUpThroughout := .dispatchValue trivial rfl
  have hunder : (Build.whereOp "score" "<" (.list [.scalar (.int 3)])).Stays
      (fun _ => False) LinesUpThroughout := .dispatchValue trivial rfl
  have hrun : run.Stays (fun _ => False) LinesUpThroughout :=
    hover.bind fun _ => .dispatch trivial (List.forall_mem_singleton.mpr hunder)
  have hshape :
      call.shape b = .ok (.subquery (.callback run) "<" (.value (.scalar (.int 50))) .and) := rfl
  have hfills : (Subquery.callback run).Fills b (.subquery (run b.forSubquery).2.query)
      [.int 5, .int 3] := .callback rfl
  obtain ⟨-, hplaced⟩ :=
    recorded_offset_is_position.2 b (.callback run) call _ _ _ hb hrun hshape rfl rfl
  exact ⟨hb, hrun, hshape, _, hfills, hplaced _ _ hfills _, rfl⟩

end SqlCompose
