import SqlCompose.Proofs.Decodable

/-!
# Statements determine their queries

Every part of a query is decodable, so in each dialect two queries are written as
the same statement exactly when they have the same skeleton. No name, operator,
parenthesis or placeholder can be taken for another one.
-/

namespace SqlCompose

variable {d : Dialect} {mark : Char}

mutual

theorem Query.decodable (hd : d.Legible mark) : ∀ q : Query, q.Plain → d.Accepts q.operators →
    q.Decodable d
  | ⟨_, _, clauses, _, _⟩, hp, ho =>
    Query.decodable_of_clauses hd hp (Clause.decodableList hd clauses hp.2.2 ho)

theorem Clause.decodableList (hd : d.Legible mark) : ∀ cs : List Clause, Clause.AllPlain cs →
    d.Accepts (Clause.operatorsList cs) → Clause.ListDecodable d cs
  | [], _, _ => Clause.decodableList_nil hd
  | ⟨connective, predicate⟩ :: cs, hp, ho => by
    obtain ⟨hop, hocs⟩ := d.accepts_append.mp ho
    have hpred := Predicate.decodable hd predicate hp.1 hop
    have hfurther := Clause.decodableFurther hd cs hp.2 hocs
    exact Clause.decodableList_cons hd hp.1 hpred hfurther

theorem Clause.decodableFurther (hd : d.Legible mark) : ∀ cs : List Clause, Clause.AllPlain cs →
    d.Accepts (Clause.operatorsList cs) → Clause.FurtherDecodable d cs
  | [], _, _ => Clause.decodableFurther_nil
  | ⟨connective, predicate⟩ :: cs, hp, ho => by
    obtain ⟨hop, hocs⟩ := d.accepts_append.mp ho
    have hpred := Predicate.decodable hd predicate hp.1 hop
    have hfurther := Clause.decodableFurther hd cs hp.2 hocs
    exact Clause.decodableFurther_cons hpred hfurther

theorem Predicate.decodable (hd : d.Legible mark) : ∀ p : Predicate, p.Plain →
    d.Accepts p.operators → p.Decodable d
  | .compare column operator v offset, hp, ho => by
    obtain ⟨hop, hoc⟩ := d.accepts_cons.mp ho
    have hc := ColumnRef.decodable hd column hp hoc
    have ht : (Tail.comparison operator none).Decodable d :=
      Tail.decodable_comparison hd hop fun q hq => nomatch hq
    exact Predicate.decodable_attach hd (t := .comparison operator none) hp hc ht
  | .isNull column, hp, ho => by
    have hc := ColumnRef.decodable hd column hp ho
    exact Predicate.decodable_attach hd (t := .nullCheck false) hp hc
      (Tail.decodable_nullCheck hd false)
  | .isNotNull column, hp, ho => by
    have hc := ColumnRef.decodable hd column hp ho
    exact Predicate.decodable_attach hd (t := .nullCheck true) hp hc
      (Tail.decodable_nullCheck hd true)
  | .group ⟨_, _, clauses, _, _⟩, hp, ho =>
    Predicate.decodable_group hd hp (Clause.decodableList hd clauses hp ho)
  | .compareSubquery column operator query, hp, ho => by
    obtain ⟨hop, ho⟩ := d.accepts_cons.mp ho
    obtain ⟨hoc, hoq⟩ := d.accepts_append.mp ho
    have hc := ColumnRef.decodable hd column hp.1 hoc
    have hq := Query.decodable hd query hp.2 hoq
    have ht : (Tail.comparison operator (some query)).Decodable d :=
      Tail.decodable_comparison hd hop fun q hmem => Option.mem_some_iff.mp hmem ▸ hq
    exact Predicate.decodable_attach hd (t := .comparison operator (some query)) hp hc ht

theorem ColumnRef.decodable (hd : d.Legible mark) : ∀ c : ColumnRef, c.Plain →
    d.Accepts c.operators → c.Decodable d
  | .name _, hp, _ => ColumnRef.decodable_name hd hp
  | .raw _, hp, _ => hp.elim
  | .subquery query, hp, ho => ColumnRef.decodable_subquery hd (Query.decodable hd query hp ho)

end

theorem Query.render_chars {q : Query} {n m : Nat} {text : String}
    (h : q.render d n = .ok (text, m)) :
    text.toList = d.chars (q.pieces d) n ∧ d.Accepts q.operators := by
  rw [q.render_eq d n] at h
  obtain ⟨hcheck, rfl, -⟩ := Dialect.written_eq_ok h
  exact ⟨rfl, d.checkOperators_eq_ok hcheck⟩

theorem Dialect.Legible.text_eq_iff (hd : d.Legible mark) {q q' : Query} (hp : q.Plain)
    (hp' : q'.Plain) {n m m' : Nat} {text text' : String} (h : q.render d n = .ok (text, m))
    (h' : q'.render d n = .ok (text', m')) : text = text' ↔ q.skeleton = q'.skeleton := by
  obtain ⟨htext, ho⟩ := q.render_chars h
  obtain ⟨htext', ho'⟩ := q'.render_chars h'
  rw [← String.toList_inj, htext, htext']
  constructor
  · intro heq
    apply Query.decodable hd q hp ho q' n [] [] hp' ho' (Text.begins_nil _) (Text.begins_nil _)
    rw [List.append_nil, List.append_nil, heq]
  · intro hs
    rw [Query.pieces_of_skeleton d hs]

/-- Two queries with plain names that are written after the same number of placeholders give the
same statement exactly when they have the same skeleton. -/
theorem same_statement_iff_same_skeleton {d : Dialect} (hd : d ∈ [.postgresql, .sqlite, .custom])
    {q q' : Query} (hp : q.Plain) (hp' : q'.Plain) {n m m' : Nat} {text text' : String}
    (h : q.render d n = .ok (text, m)) (h' : q'.render d n = .ok (text', m')) :
    text = text' ↔ q.skeleton = q'.skeleton := by
  simp only [List.mem_cons, List.not_mem_nil, or_false] at hd
  rcases hd with rfl | rfl | rfl
  · exact Dialect.Legible.postgresql.text_eq_iff hp hp' h h'
  · exact Dialect.Legible.sqlite.text_eq_iff hp hp' h h'
  · exact Dialect.Legible.custom.text_eq_iff hp hp' h h'

/-- A quote character and a dot inside a name are told from two quoted parts, and neither the
value nor the first connective shows. -/
theorem same_statement_iff_same_skeleton_quoted :
    let ask (column : String) (columns : List String) (first : Connective) (v : Int64) : Query := {
      columns, table := some "t", limit := some 5
      clauses := [
        ⟨first, .compare (.name column) "is not" (.scalar (.int v)) 1⟩,
        ⟨.or, .group { clauses := [⟨.and, .isNotNull (.subquery { columns := ["*"] })⟩] }⟩] }
    let q := ask "a\"" ["*"] .or 1
    let q' := ask "a\"" [] .and 2
    let q'' := ask "a.b" [] .and 2
    (q.Plain ∧ q'.Plain ∧ q''.Plain) ∧ ∃ text text' text'' m m' m'',
      q.render .sqlite 3 = .ok (text, m) ∧ q'.render .sqlite 3 = .ok (text', m') ∧
      q''.render .sqlite 3 = .ok (text'', m'') ∧ text = text' ∧ text ≠ text'' := by
  intro ask q q' q''
  have hplain : ∀ column columns first v, PlainName column → (∀ c ∈ columns, PlainName c) →
      (ask column columns first v).Plain := by
    intro column columns first v hc hcs
    refine ⟨hcs, ?_, hc, ⟨⟨?_, ?_, trivial⟩, trivial⟩, trivial⟩
    · simp [PlainName]
    · simp [PlainName]
    · simp
  have hp : q.Plain := hplain _ _ _ _ (by decide) (by decide)
  have hp' : q'.Plain := hplain _ _ _ _ (by decide) (by decide)
  have hp'' : q''.Plain := hplain _ _ _ _ (by decide) (by decide)
  have hd : Dialect.sqlite ∈ [Dialect.postgresql, .sqlite, .custom] := by simp
  refine ⟨⟨hp, hp', hp''⟩, _, _, _, _, _, _, rfl, rfl, rfl, ?_, ?_⟩
  · exact (same_statement_iff_same_skeleton hd hp hp' rfl rfl).mpr rfl
  · intro h
    have hs := (same_statement_iff_same_skeleton hd hp hp'' rfl rfl).mp h
    simp [q, q'', ask, Query.skeleton, Clause.skeletonList, Predicate.skeleton,
      ColumnRef.skeleton] at hs

end SqlCompose
