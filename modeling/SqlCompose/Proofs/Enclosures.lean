import SqlCompose.Proofs.Atomicity
import SqlCompose.Proofs.Contents
import SqlCompose.Proofs.Programs

/-!
# Parentheses with something in them

Parentheses come from groups and from raw sub-queries. A group is only kept if it
holds a clause, and a raw sub-query is refused if it is nothing but white space, so
nothing that calls build has an empty pair of parentheses, at whatever depth. A raw
expression may also be given in the place of a column, and then stands as it was
given; the texts that are given so are a parameter here.
-/

namespace SqlCompose

/-! ## What stands in parentheses -/

/-- What may open a parenthesis: a group, or an expression given as text. -/
inductive Enclosure where
  | group (q : Query)
  | raw (sql : String)

/-- A group with a clause, and an expression that was given or that encloses a character other than
white space. -/
def Enclosure.Filled (given : String → Prop) : Enclosure → Prop
  | .group q => q.clauses ≠ []
  | .raw sql =>
    given sql ∨ ∃ inner, sql = "(" ++ inner ++ ")" ∧ ∃ c ∈ inner.toList, c.toNat ∉ Text.whiteSpace

mutual

/-- The enclosures in the conditions of a query, at any depth. -/
def Query.enclosures : Query → List Enclosure
  | { clauses, .. } => Clause.enclosuresList clauses

def Clause.enclosuresList : List Clause → List Enclosure
  | [] => []
  | { predicate, .. } :: cs => predicate.enclosures ++ Clause.enclosuresList cs

def Predicate.enclosures : Predicate → List Enclosure
  | .compare column _ _ _ => column.enclosures
  | .isNull column => column.enclosures
  | .isNotNull column => column.enclosures
  | .group query => .group query :: query.enclosures
  | .compareSubquery column _ query => column.enclosures ++ query.enclosures

def ColumnRef.enclosures : ColumnRef → List Enclosure
  | .name _ => []
  | .raw sql => [.raw sql]
  | .subquery query => query.enclosures

end

theorem Query.enclosures_eq (q : Query) : q.enclosures = Clause.enclosuresList q.clauses := by
  cases q
  rfl

theorem Clause.enclosuresList_append (cs cs' : List Clause) :
    enclosuresList (cs ++ cs') = enclosuresList cs ++ enclosuresList cs' := by
  induction cs with
  | nil => rfl
  | cons c cs ih =>
    cases c
    simp [enclosuresList, ih]

/-- No parentheses of a query are empty, apart from those in expressions that were given. -/
def Query.Filled (given : String → Prop) (q : Query) : Prop :=
  ∀ e ∈ q.enclosures, e.Filled given

def ColumnRef.Filled (given : String → Prop) (c : ColumnRef) : Prop :=
  ∀ e ∈ c.enclosures, e.Filled given

def Addition.Filled (given : String → Prop) (a : Addition) : Prop :=
  ∀ e ∈ Clause.enclosuresList a.clauses, e.Filled given

variable {given : String → Prop}

theorem ColumnRef.filled_name (text : String) : (ColumnRef.name text).Filled given := by
  simp [Filled, enclosures]

theorem Query.filled_congr {q q' : Query} (h : q.Filled given) (hc : q'.clauses = q.clauses) :
    q'.Filled given := by
  rwa [Filled, q'.enclosures_eq, hc, ← q.enclosures_eq]

theorem Query.filled_of_clauses_eq_nil {q : Query} (h : q.clauses = []) : q.Filled given := by
  simp [Filled, q.enclosures_eq, h, Clause.enclosuresList]

/-! ## What a call contributes -/

namespace Addition

theorem filled_nullChecks {connective : Connective} {negated : Bool} {columns : List ColumnRef}
    (h : ∀ c ∈ columns, c.Filled given) : (nullChecks connective negated columns).Filled given := by
  have hclauses : Clause.enclosuresList (nullChecks connective negated columns).clauses =
      columns.flatMap ColumnRef.enclosures := by
    induction columns with
    | nil => rfl
    | cons c columns ih =>
      have hmore := ih (List.forall_mem_cons.mp h).2
      cases negated <;>
        simpa [nullChecks, Clause.enclosuresList, Predicate.enclosures] using hmore
  intro e he
  rw [hclauses, List.mem_flatMap] at he
  obtain ⟨c, hc, he⟩ := he
  exact h c hc e he

/-- A group is left out if it has no clause. -/
theorem filled_group {q : Query} (connective : Connective) (h : q.Filled given) :
    (group connective q).Filled given := by
  unfold group
  split
  · next hq =>
    have hgroup : (Enclosure.group q).Filled given := Query.hasClauses_eq_true_iff.mp hq
    simpa [Filled, single, Clause.enclosuresList, Predicate.enclosures] using ⟨hgroup, h⟩
  · intro e he
    cases he

end Addition

theorem Compared.filled {column : ColumnRef} {a : Addition}
    (h : Compared (·.Filled given) column a) (hc : column.Filled given) : a.Filled given := by
  cases h with
  | null connective negated =>
    exact Addition.filled_nullChecks (List.forall_mem_singleton.mpr hc)
  | value connective operator offset hn hv =>
    have h : ∀ e ∈ column.enclosures, e.Filled given := hc
    simpa [Addition.Filled, Addition.single, Clause.enclosuresList, Predicate.enclosures] using h
  | subselect connective operator hq =>
    have h := List.forall_mem_append.mpr ⟨hc, hq⟩
    simpa [Addition.Filled, Addition.single, Clause.enclosuresList, Predicate.enclosures] using h

namespace Builder

variable {b : Builder} {a : Addition}

theorem filled_add (hb : b.query.Filled given) (ha : a.Filled given) :
    (b.add a).query.Filled given := by
  rw [Query.Filled, Query.enclosures_eq, clauses_add, Clause.enclosuresList_append,
    ← Query.enclosures_eq]
  exact List.forall_mem_append.mpr ⟨hb, ha⟩

theorem embed_raw_eq_error_iff {sql : String} :
    b.embed (.raw sql) = .error .emptyRawSubquery ↔
      ∀ c ∈ sql.toList, c.toNat ∈ Text.whiteSpace := by
  rw [← Text.isBlank_iff, embed]
  split <;> simp_all

/-- An expression made from a sub-query; raw text is only enclosed if it is not blank. -/
theorem filled_embed {sub : Subquery} {e : Embedded} (h : b.embed sub = .ok e)
    (hs : sub.Yields (·.Filled given) b) : e.column.Filled given := by
  cases sub with
  | raw sql =>
    simp only [embed] at h
    split_ifs at h with hblank
    cases h
    have hmore : ∃ c ∈ sql.toList, c.toNat ∉ Text.whiteSpace :=
      Text.isBlank_eq_false_iff.mp (Bool.eq_false_of_not_eq_true hblank)
    have hraw : (Enclosure.raw ("(" ++ sql ++ ")")).Filled given := .inr ⟨sql, rfl, hmore⟩
    exact List.forall_mem_singleton.mpr hraw
  | callback run =>
    obtain ⟨q, hq, rfl⟩ := Except.map_eq_ok_iff.mp h
    exact hs _ (.inr rfl) q hq
  | builder child =>
    cases h
    exact hs

theorem filled_compareColumn {call : ColumnCall} (h : b.compareColumn call = .ok a)
    (hc : call.column.Filled given)
    (hs : ∀ sub ∈ call.operand.subqueries, sub.Yields (·.Filled given) b) : a.Filled given :=
  (compared_of_compareColumn h hs).filled hc

theorem filled_compareSubquery {query : Subquery} {operator : String} {value : Operand}
    {connective : Connective} (h : b.compareSubquery query operator value connective = .ok a)
    (hs : ∀ sub ∈ query :: value.subqueries, sub.Yields (·.Filled given) b) : a.Filled given := by
  obtain ⟨hquery, hvalue⟩ := List.forall_mem_cons.mp hs
  obtain ⟨e, he, h⟩ := Except.bind_eq_ok_iff.mp h
  obtain ⟨a', ha, h⟩ := Except.bind_eq_ok_iff.mp h
  cases h
  exact (compared_of_compare ha hvalue).filled (filled_embed he hquery)

/-- Conditions one after the other: each is made on what those before it have built. -/
theorem filled_conditions {cs : List Condition} {b' : Builder} (hb : b.query.Filled given)
    (hs : ∀ c ∈ cs, ∀ sub ∈ c.subqueries, sub.Yields (·.Filled given) b)
    (h : Condition.calls cs b = (.ok (), b')) : b'.query.Filled given := by
  induction cs generalizing b with
  | nil =>
    cases h
    exact hb
  | cons c cs ih =>
    obtain ⟨hfirst, hmore⟩ := List.forall_mem_cons.mp hs
    cases hc : (ColumnCall.ofArgs b.options (.name c.column) c.args >>= b.compareColumn) with
    | error e =>
      simp [Condition.calls, Condition.call, Build.bind_apply, Build.contribute, hc] at h
    | ok a =>
      have hrun : Condition.calls cs (b.add a) = (.ok (), b') := by
        simpa [Condition.calls, Condition.call, Build.bind_apply, Build.contribute, hc] using h
      obtain ⟨call, hcall, ha⟩ := Except.bind_eq_ok_iff.mp hc
      obtain ⟨hcolumn, hsubset⟩ := ColumnCall.of_ofArgs hcall
      have hadd : a.Filled given :=
        filled_compareColumn ha (hcolumn ▸ ColumnRef.filled_name _)
          fun sub hsub => hfirst sub (hsubset hsub)
      refine ih (filled_add hb hadd) (fun c' hc' sub hsub => ?_) hrun
      exact (Subquery.yields_add a).mpr (hmore c' hc' sub hsub)

end Builder

/-- The column that a call is given. -/
def Shape.columns : Shape → List ColumnRef
  | .column call => [call.column]
  | _ => []

/-- Whatever a call contributes is filled, if its column and what its callbacks build is. -/
theorem Builder.filled_addition {b : Builder} {s : Shape} {a : Addition}
    (h : b.addition s = .ok a) (hc : ∀ c ∈ s.columns, c.Filled given)
    (hs : ∀ sub ∈ s.subqueries, sub.Yields (·.Filled given) b) : a.Filled given := by
  cases s with
  | column call => exact filled_compareColumn h (hc _ (List.mem_singleton.mpr rfl)) hs
  | group run connective =>
    obtain ⟨q, hq, rfl⟩ := Except.map_eq_ok_iff.mp h
    exact Addition.filled_group connective
      (hs (.callback run) (List.mem_singleton.mpr rfl) _ (.inl rfl) q hq)
  | subquery query operator value connective => exact filled_compareSubquery h hs
  | conditions cs connective =>
    simp only [addition, conditions] at h
    split at h
    · cases h
    · obtain ⟨q, hq, rfl⟩ := Except.map_eq_ok_iff.mp h
      obtain ⟨b', hrun, rfl⟩ := Build.fill_eq_ok_iff.mp hq
      apply Addition.filled_group connective
      refine filled_conditions (Query.filled_of_clauses_eq_nil rfl) (fun c hmem sub hsub => ?_) hrun
      exact Subquery.yields_forGroup.mpr (hs sub (List.mem_flatMap.mpr ⟨c, hmem, hsub⟩))

/-! ## Builders with given columns and nested queries -/

/-- Builders that public calls lead to, when the columns that calls are given have `C` and the
queries that are nested by hand have `N`. A callback may do what it likes with the child it is run
on, as long as calls lead to the child it leaves. -/
inductive Builder.BuiltFrom (C : ColumnRef → Prop) (N : Query → Prop) : Builder → Prop
  | fresh (table : Option String) (options : Options) :
      BuiltFrom C N { query := { table }, options }
  | setTable {b : Builder} (table : String) : BuiltFrom C N b → BuiltFrom C N (b.setTable table)
  | setColumns {b : Builder} (columns : List String) :
      BuiltFrom C N b → BuiltFrom C N (b.setColumns columns)
  | setLimit {b : Builder} (limit : Nat) : BuiltFrom C N b → BuiltFrom C N (b.setLimit limit)
  | dispatch {b : Builder} {s : Shape} : BuiltFrom C N b → (∀ c ∈ s.columns, C c) →
      (∀ run, .callback run ∈ s.subqueries →
        ∀ child, child = b.forGroup ∨ child = b.forSubquery →
          ∀ c, run child = (.ok (), c) → BuiltFrom C N c) →
      (∀ c, .builder c ∈ s.subqueries → BuiltFrom C N c) →
      BuiltFrom C N (Build.dispatch s b).2
  | nest {b : Builder} {q : Query} (connective : Connective) :
      BuiltFrom C N b → N q → BuiltFrom C N (b.add (.group connective q))
  | nestBuilder {b c : Builder} (connective : Connective) :
      BuiltFrom C N b → BuiltFrom C N c → BuiltFrom C N (b.add (.group connective c.query))
  | nullChecks {b : Builder} (connective : Connective) (negated : Bool) (columns : List String) :
      BuiltFrom C N b →
      BuiltFrom C N (b.add (.nullChecks connective negated (columns.map .name)))

namespace Builder

/-- Calls are given no more on the way to a reachable builder than what is admitted. -/
theorem Reachable.builtFrom {Q N : Query → Prop} {C : ColumnRef → Prop}
    (hC : ∀ c : ColumnRef, c.Admitted Q → C c) {b : Builder} (h : b.Reachable Q N) :
    b.BuiltFrom C N := by
  induction h with
  | fresh table options => exact .fresh table options
  | setTable table _ ih => exact ih.setTable table
  | setColumns columns _ ih => exact ih.setColumns columns
  | setLimit limit _ ih => exact ih.setLimit limit
  | @dispatch b s _ hc _ _ ih hruns hmade =>
    refine ih.dispatch ?_ hruns hmade
    cases s with
    | column call => exact List.forall_mem_singleton.mpr (hC _ hc)
    | _ => exact List.forall_mem_nil _
  | nest connective _ hq ih => exact ih.nest connective hq
  | nestBuilder connective _ _ ih ihc => exact ih.nestBuilder connective ihc
  | nullChecks connective negated columns _ ih => exact ih.nullChecks connective negated columns

theorem BuiltFrom.filled {b : Builder} (h : b.BuiltFrom (·.Filled given) (·.Filled given)) :
    b.query.Filled given := by
  induction h with
  | fresh table options => exact Query.filled_of_clauses_eq_nil rfl
  | setTable table _ ih => exact Query.filled_congr ih rfl
  | setColumns columns _ ih => exact Query.filled_congr ih rfl
  | setLimit limit _ ih => exact Query.filled_congr ih rfl
  | @dispatch b s _ hc _ _ ih hruns hmade =>
    have hs : ∀ sub ∈ s.subqueries, sub.Yields (·.Filled given) b := by
      intro sub hsub
      cases sub with
      | raw sql => trivial
      | callback run =>
        intro child hchild q hq
        obtain ⟨c, hrun, rfl⟩ := Build.fill_eq_ok_iff.mp hq
        exact hruns run hsub child hchild c hrun
      | builder c => exact hmade c hsub
    cases ha : b.addition s with
    | error e => simpa [Build.dispatch, Build.contribute, ha] using ih
    | ok a =>
      simpa [Build.dispatch, Build.contribute, ha] using filled_add ih (filled_addition ha hc hs)
  | nest connective _ hq ih => exact filled_add ih (Addition.filled_group connective hq)
  | nestBuilder connective _ _ ih ihc => exact filled_add ih (Addition.filled_group connective ihc)
  | nullChecks connective negated columns _ ih =>
    refine filled_add ih (Addition.filled_nullChecks fun c hc => ?_)
    obtain ⟨text, -, rfl⟩ := List.mem_map.mp hc
    exact ColumnRef.filled_name text

end Builder

/-- The groups that a program builds are filled, whatever raw columns it hands over. -/
theorem BuilderTerm.filled_trace {p : BuilderTerm} {outcomes : List Outcome} {b : Builder}
    (h : p.trace = .ok (outcomes, b)) : b.query.Filled fun _ => True := by
  have hcolumn : ∀ c : ColumnRef, c.Admitted (·.Filled fun _ => True) → c.Filled fun _ => True := by
    intro c hc
    cases c with
    | name text => exact ColumnRef.filled_name text
    | raw sql => exact List.forall_mem_singleton.mpr (Or.inl trivial)
    | subquery q => exact hc
  have hs : Supplies (·.Filled fun _ => True) (·.Filled fun _ => True) True True :=
    ⟨fun c _ hc => (hc.builtFrom hcolumn).filled,
      fun c further _ hc => Query.filled_congr (hc.builtFrom hcolumn).filled rfl⟩
  exact ((BuilderTerm.reachable_trace hs p.permitted h).builtFrom hcolumn).filled

/-! ## Groups that end up empty -/

/-- A group or a list of conditions that leaves no clause on the child that it fills. -/
def Shape.EndsEmpty (b : Builder) : Shape → Prop
  | .group run _ => ∃ c, run b.forGroup = (.ok (), c) ∧ c.query.clauses = []
  | .conditions cs _ =>
    (∀ c ∈ cs, c.args ≠ []) ∧
      ∃ c, Condition.calls cs b.forGroup = (.ok (), c) ∧ c.query.clauses = []
  | _ => False

theorem Builder.group_eq_empty {b c : Builder} {run : Build Unit} (connective : Connective)
    (h : run b.forGroup = (.ok (), c)) (hc : c.query.clauses = []) :
    b.group run connective = .ok {} := by
  rw [group, Build.fill_eq_ok_iff.mpr ⟨c, h, rfl⟩]
  exact congrArg Except.ok (Addition.group_of_clauses_eq_nil hc)

theorem Shape.EndsEmpty.addition {b : Builder} {s : Shape} (h : s.EndsEmpty b) :
    b.addition s = .ok {} := by
  cases s with
  | column call => exact h.elim
  | subquery query operator value connective => exact h.elim
  | group run connective =>
    obtain ⟨c, hrun, hc⟩ := h
    exact b.group_eq_empty connective hrun hc
  | conditions cs connective =>
    obtain ⟨hargs, c, hrun, hc⟩ := h
    have hfind : cs.find? (·.args.isEmpty) = none := by simpa using hargs
    rw [Builder.addition, Builder.conditions, hfind]
    exact b.group_eq_empty connective hrun hc

theorem WhereCall.run_of_endsEmpty {b : Builder} {call : WhereCall} {s : Shape}
    (hs : call.shape b = .ok s) (h : s.EndsEmpty b) : call.run b = (.ok (), b) := by
  have ha : (call.shape b >>= b.addition) = .ok {} := by
    rw [hs]
    exact h.addition
  rw [WhereCall.run_eq, Build.contribute_of_ok ha, Builder.add_empty]

/-- No call leaves an empty group, or a raw sub-query that encloses white space only, at any depth
of what it builds: whatever expressions are given by hand in the place of columns, all others are
filled. A raw sub-query is refused as empty exactly if it is white space only. A group, a list of
conditions or a finished query that ends up without clauses succeeds and leaves the builder as it
was. -/
theorem no_empty_parenthesis (given : String → Prop) :
    (∀ b : Builder, b.BuiltFrom (·.Filled given) (·.Filled given) → b.query.Filled given) ∧
    (∀ (b : Builder) (sub : Subquery) (e : Embedded), sub.Yields (·.Filled given) b →
      b.embed sub = .ok e → e.column.Filled given) ∧
    (∀ (b : Builder) (sql : String), b.embed (.raw sql) = .error .emptyRawSubquery ↔
      ∀ c ∈ sql.toList, c.toNat ∈ Text.whiteSpace) ∧
    (∀ (p : BuilderTerm) (outcomes : List Outcome) (b : Builder),
      p.trace = .ok (outcomes, b) → b.query.Filled fun _ => True) ∧
    (∀ (b : Builder) (call : WhereCall) (s : Shape),
      call.shape b = .ok s → s.EndsEmpty b → call.run b = (.ok (), b)) ∧
    ∀ (b : Builder) (connective : Connective) (q : Query), q.clauses = [] →
      Build.whereNested connective q b = (.ok (), b) := by
  refine ⟨fun b h => h.filled, fun b sub e hs h => Builder.filled_embed h hs,
    fun b sql => Builder.embed_raw_eq_error_iff, fun p outcomes b h => BuilderTerm.filled_trace h,
    fun b call s hs h => WhereCall.run_of_endsEmpty hs h, ?_⟩
  intro b connective q hq
  simp [Build.whereNested, Addition.group_of_clauses_eq_nil hq]

/-- A comparison of raw text inside a group, where no expression is given by hand, a raw sub-query
that is refused, and then a group that comes to nothing in each way it can: by empty groups, ignored
refusals and a reset. -/
theorem no_empty_parenthesis_idle :
    let text : Subquery := .raw " SELECT 1"
    let blank : Subquery := .raw " \t\u2003"
    let inner : Builder := (Build.whereQuery text ">" (.scalar (.int 5)) (.ofTable "t")).2
    let b : Builder := ({} : Builder).add (.group .or inner.query)
    let idle : Build Unit := do
      .whereGroup .or (pure ())
      .whereAll .and []
      .ignoring (.whereQuery blank "<" (.scalar .null))
      .whereNull .and false ["a"]
      .modify (·.reset)
    let p : BuilderTerm := {
      steps := [⟨.whereGroup .and [], false⟩, ⟨.whereNull .and false ["a"], false⟩] }
    b.query.enclosures = [.group inner.query, .raw "( SELECT 1)"] ∧
    b.query.Filled (fun _ => False) ∧
    (∃ e, b.embed text = .ok e ∧ e.column.Filled fun _ => False) ∧
    b.embed blank = .error .emptyRawSubquery ∧
    (∃ outcomes c, p.trace = .ok (outcomes, c) ∧ c.query.Filled fun _ => True) ∧
    (WhereCall.group .and idle).run b = (.ok (), b) ∧
    Build.whereNested .or b.reset.query b = (.ok (), b) := by
  intro text blank inner b idle p
  obtain ⟨hbuilt, hembed, hblank, hprogram, hempty, hnested⟩ := no_empty_parenthesis fun _ => False
  have hinner : inner.BuiltFrom (·.Filled fun _ => False) (·.Filled fun _ => False) := by
    refine (Builder.BuiltFrom.fresh (some "t") {}).dispatch (List.forall_mem_nil _) ?_ ?_
    · simp [text, Shape.subqueries, Operand.subqueries]
    · simp [text, Shape.subqueries, Operand.subqueries]
  have hb := (Builder.BuiltFrom.fresh none {}).nestBuilder .or hinner
  have hwhite : ∀ c ∈ " \t\u2003".toList, c.toNat ∈ Text.whiteSpace := by simp [Text.whiteSpace]
  refine ⟨rfl, hbuilt b hb, ⟨_, rfl, hembed b text _ trivial rfl⟩, (hblank b _).mpr hwhite,
    ⟨_, _, rfl, hprogram p _ _ rfl⟩, ?_, hnested b .or b.reset.query rfl⟩
  exact hempty b (.group .and idle) (.group idle .and) rfl ⟨_, rfl, rfl⟩

end SqlCompose
