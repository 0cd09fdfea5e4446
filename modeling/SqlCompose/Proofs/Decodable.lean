import SqlCompose.Proofs.Parts

/-!
# Decodable parts

A part of a query is decodable when what is written for it, with whatever follows,
agrees with what is written for another such part only if both have the same
skeleton. Each lemma here takes this from the parts that a part is made of to the
part itself.
-/

namespace SqlCompose

open Text (Begins)

/-- What may follow a list of clauses: a limit, a closing parenthesis or nothing. -/
def EndsClauses (r : List Char) : Prop :=
  Begins (fun c => c = ' ' ∨ c = ')') r ∧
    ∀ k : Connective, ¬ (" " ++ k.keyword ++ " ").toList <+: r

variable (d : Dialect)

def Query.Decodable (q : Query) : Prop :=
  ∀ (q' : Query) (n : Nat) (r s : List Char), q'.Plain → d.Accepts q'.operators →
    Begins (· = ')') r → Begins (· = ')') s →
    d.chars (q.pieces d) n ++ r = d.chars (q'.pieces d) n ++ s → q.skeleton = q'.skeleton

def Clause.ListDecodable (cs : List Clause) : Prop :=
  ∀ (cs' : List Clause) (n : Nat) (r s : List Char), AllPlain cs' →
    d.Accepts (operatorsList cs') → EndsClauses r → EndsClauses s →
    d.chars (piecesList d cs) n ++ r = d.chars (piecesList d cs') n ++ s →
    skeletonList cs = skeletonList cs'

def Clause.FurtherDecodable (cs : List Clause) : Prop :=
  ∀ (cs' : List Clause) (n : Nat) (r s : List Char), AllPlain cs' →
    d.Accepts (operatorsList cs') → EndsClauses r → EndsClauses s →
    d.chars (piecesFurther d cs) n ++ r = d.chars (piecesFurther d cs') n ++ s →
    skeletonFurther cs = skeletonFurther cs'

def Predicate.Decodable (p : Predicate) : Prop :=
  ∀ (p' : Predicate) (n : Nat) (r s : List Char), p'.Plain → d.Accepts p'.operators →
    d.chars (p.pieces d) n ++ r = d.chars (p'.pieces d) n ++ s → p.skeleton = p'.skeleton

/-- A column is always followed by a blank. -/
def ColumnRef.Decodable (c : ColumnRef) : Prop :=
  ∀ (c' : ColumnRef) (n : Nat) (r s : List Char), c'.Plain → d.Accepts c'.operators →
    d.chars (c.pieces d) n ++ ' ' :: r = d.chars (c'.pieces d) n ++ ' ' :: s →
    c.skeleton = c'.skeleton

def Tail.Decodable (t : Tail) : Prop :=
  ∀ (t' : Tail) (n : Nat) (r s : List Char), t'.Plain → d.Accepts t'.operators →
    t.chars d n ++ r = t'.chars d n ++ s → t.skeleton = t'.skeleton

/-! ## What may follow -/

theorem endsClauses_parenthesis (r : List Char) : EndsClauses (')' :: r) := by
  refine ⟨by simp, ?_⟩
  rintro (_ | _) ⟨u, hu⟩ <;> simp at hu

theorem Query.endsClauses_ending {r : List Char} (limit : Option Nat) (hr : Begins (· = ')') r) :
    EndsClauses ((ending limit).toList ++ r) := by
  cases limit with
  | none =>
    refine ⟨hr.mono fun c hc => .inr hc, ?_⟩
    rintro (_ | _) ⟨u, rfl⟩ <;> simp [Connective.keyword] at hr
  | some m =>
    refine ⟨by simp [ending], ?_⟩
    rintro (_ | _) ⟨u, hu⟩ <;> simp [ending, Connective.keyword] at hu

theorem Query.followsHeading_ending {r : List Char} (limit : Option Nat)
    (hr : Begins (· = ')') r) : FollowsHeading ((ending limit).toList ++ r) := by
  refine ⟨(endsClauses_ending limit hr).1, ?_⟩
  rintro ⟨u, hu⟩
  cases limit with
  | none =>
    simp only [ending, Option.map_none, Option.getD_none, String.toList_empty,
      List.nil_append] at hu
    rw [← hu] at hr
    simp at hr
  | some m => simp [ending] at hu

theorem Query.followsHeading_filter (r : List Char) : FollowsHeading (" WHERE ".toList ++ r) := by
  refine ⟨by simp, ?_⟩
  rintro ⟨u, hu⟩
  simp at hu

theorem Query.followsHeading_clauses {clauses : List Clause} {n : Nat} {r : List Char}
    (limit : Option Nat) (hr : Begins (· = ')') r) :
    FollowsHeading (conditions d clauses n ++ ((ending limit).toList ++ r)) := by
  unfold conditions
  split
  · exact followsHeading_ending limit hr
  · rw [List.append_assoc]
    exact followsHeading_filter _

/-- Conditions cannot be taken for the end of a statement. -/
theorem Query.filter_ne_ending {r s : List Char} (limit : Option Nat) (hs : Begins (· = ')') s) :
    " WHERE ".toList ++ r ≠ (ending limit).toList ++ s := by
  intro h
  cases limit with
  | none =>
    simp only [ending, Option.map_none, Option.getD_none, String.toList_empty,
      List.nil_append] at h
    rw [← h] at hs
    simp at hs
  | some m => simp [ending] at h

/-! ## First characters -/

/-- A text that begins as a column or a group does. -/
def Opens (r : List Char) : Prop :=
  ∃ c t, r = c :: t ∧ c ∈ [d.quote, '*', '(']

variable {d} {mark : Char}

theorem Opens.append {r : List Char} (h : Opens d r) (s : List Char) : Opens d (r ++ s) := by
  obtain ⟨c, t, rfl, hc⟩ := h
  exact ⟨c, t ++ s, rfl, hc⟩

theorem ColumnRef.opens {c : ColumnRef} (h : c.Plain) (n : Nat) :
    Opens d (d.chars (c.pieces d) n) := by
  cases c with
  | name text =>
    obtain ⟨c, t, hname, hc⟩ := d.wrap_eq_cons h
    refine ⟨c, t, hname, ?_⟩
    rcases hc with rfl | rfl
    · simp
    · simp
  | raw sql => exact h.elim
  | subquery q => exact ⟨'(', _, by simp [pieces]; rfl, by simp⟩

theorem Predicate.opens {p : Predicate} (h : p.Plain) (n : Nat) :
    Opens d (d.chars (p.pieces d) n) := by
  cases p with
  | compare column operator v offset =>
    simp only [pieces, Dialect.chars_append, List.append_assoc]
    exact (ColumnRef.opens h n).append _
  | isNull column =>
    simp only [pieces, Dialect.chars_append]
    exact (ColumnRef.opens h n).append _
  | isNotNull column =>
    simp only [pieces, Dialect.chars_append]
    exact (ColumnRef.opens h n).append _
  | group q =>
    cases q
    exact ⟨'(', _, by simp [pieces]; rfl, by simp⟩
  | compareSubquery column operator q =>
    simp only [pieces, Dialect.chars_append, List.append_assoc]
    exact (ColumnRef.opens h.1 n).append _

theorem Query.chars_eq_cons (q : Query) (n : Nat) :
    ∃ t, d.chars (q.pieces d) n = 'S' :: t := by
  obtain ⟨columns, table, clauses, bindings, limit⟩ := q
  simp only [pieces, heading, Dialect.chars_append, Dialect.chars_last, String.toList_append]
  exact ⟨_, rfl⟩

theorem Dialect.Legible.not_opens (hd : d.Legible mark) {r : List Char}
    (hr : Begins (fun c => c = ' ' ∨ c = ')') r) : ¬ Opens d r := by
  rintro ⟨c, t, rfl, hc⟩
  rw [Text.begins_cons] at hr
  have hblank : ' ' ≠ d.quote := hd.quote_ne (by decide)
  have hparen : ')' ≠ d.quote := hd.quote_ne (by decide)
  rcases hr with rfl | rfl
  · simp [hblank] at hc
  · simp [hparen] at hc

theorem Tail.mem_nullChecks (negated : Bool) :
    (if negated then "IS NOT NULL" else "IS NULL").toList ∈ nullChecks := by
  cases negated
  · decide
  · decide

/-! ## Reading on -/

/-- Equal connectives are written before equal rests only. -/
theorem Connective.keyword_append_inj {k k' : Connective} {r s : List Char}
    (h : (" " ++ k.keyword ++ " ").toList ++ r = (" " ++ k'.keyword ++ " ").toList ++ s) :
    k = k' ∧ r = s := by
  cases k <;> cases k'
  · exact ⟨rfl, List.append_cancel_left h⟩
  · simp [keyword] at h
  · simp [keyword] at h
  · exact ⟨rfl, List.append_cancel_left h⟩

theorem Clause.decodableFurther_nil : FurtherDecodable d [] := by
  intro cs' n r s hp ho hr hs heq
  cases cs' with
  | nil => rfl
  | cons c' cs' =>
    obtain ⟨k, p'⟩ := c'
    simp only [piecesFurther, Dialect.chars_append, Dialect.chars_last, List.append_assoc,
      String.toList_empty, List.nil_append] at heq
    exact absurd ⟨_, heq.symm⟩ (hr.2 k)

theorem Clause.decodableFurther_cons {k : Connective} {p : Predicate} {cs : List Clause}
    (hp : p.Decodable d) (hcs : FurtherDecodable d cs) : FurtherDecodable d (⟨k, p⟩ :: cs) := by
  intro cs' n r s hplain ho hr hs heq
  cases cs' with
  | nil =>
    simp only [piecesFurther, Dialect.chars_append, Dialect.chars_last, List.append_assoc,
      String.toList_empty, List.nil_append] at heq
    exact absurd ⟨_, heq⟩ (hs.2 k)
  | cons c' cs' =>
    obtain ⟨k', p'⟩ := c'
    obtain ⟨hop, hocs⟩ := d.accepts_append.mp ho
    simp only [piecesFurther, Dialect.chars_append, Dialect.chars_last, List.append_assoc] at heq
    obtain ⟨rfl, hrest⟩ := Connective.keyword_append_inj heq
    have hpred := hp p' _ _ _ hplain.1 hop hrest
    rw [Predicate.pieces_of_skeleton d hpred] at hrest
    have hfurther := hcs cs' _ r s hplain.2 hocs hr hs (List.append_cancel_left hrest)
    simp only [skeletonFurther, hpred, hfurther]

/-- Statements with the same heading have conditions both or neither, and then alike. -/
theorem Query.conditions_append_inj {clauses clauses' : List Clause} {limit limit' : Option Nat}
    {n : Nat} {r s : List Char} (h : Clause.ListDecodable d clauses)
    (hp : Clause.AllPlain clauses') (ho : d.Accepts (Clause.operatorsList clauses'))
    (hr : Begins (· = ')') r) (hs : Begins (· = ')') s)
    (heq : conditions d clauses n ++ ((ending limit).toList ++ r) =
      conditions d clauses' n ++ ((ending limit').toList ++ s)) :
    Clause.skeletonList clauses = Clause.skeletonList clauses' ∧
      (ending limit).toList ++ r = (ending limit').toList ++ s := by
  unfold conditions at heq
  by_cases hnil : clauses = []
  · by_cases hnil' : clauses' = []
    · rw [if_pos hnil, if_pos hnil'] at heq
      exact ⟨by rw [hnil, hnil'], heq⟩
    · rw [if_pos hnil, if_neg hnil', List.append_assoc] at heq
      exact absurd heq.symm (filter_ne_ending limit hr)
  · by_cases hnil' : clauses' = []
    · rw [if_neg hnil, if_pos hnil', List.append_assoc] at heq
      exact absurd heq (filter_ne_ending limit' hs)
    · rw [if_neg hnil, if_neg hnil', List.append_assoc, List.append_assoc] at heq
      have hlists := List.append_cancel_left heq
      have hlist := h clauses' n _ _ hp ho (endsClauses_ending limit hr)
        (endsClauses_ending limit' hs) hlists
      rw [Clause.piecesList_of_skeleton d hlist] at hlists
      exact ⟨hlist, List.append_cancel_left hlists⟩

/-- A predicate with a column is read back from its column and its tail. -/
theorem Tail.skeleton_attach_inj (t' : Tail) {c c' : ColumnRef} {t : Tail} {n : Nat}
    {r s : List Char}
    (hc : c.Decodable d) (ht : t.Decodable d) (hp : (t'.attach c').Plain)
    (ho : d.Accepts (t'.attach c').operators)
    (h : d.chars ((t.attach c).pieces d) n ++ r = d.chars ((t'.attach c').pieces d) n ++ s) :
    (t.attach c).skeleton = (t'.attach c').skeleton := by
  obtain ⟨hpc, hpt⟩ := plain_of_attach hp
  obtain ⟨hoc, hot⟩ := accepts_of_attach ho
  simp only [chars_attach, List.append_assoc, List.cons_append] at h
  -- Equal columns are written alike, so the texts go on with their tails at the same number.
  have hcolumn := hc c' n _ _ hpc hoc h
  rw [ColumnRef.pieces_of_skeleton d hcolumn] at h
  have hrest := (List.cons.inj (List.append_cancel_left h)).2
  have htail := ht t' _ r s hpt hot hrest
  rw [skeleton_attach, skeleton_attach, hcolumn, htail]

/-! ## From the parts to the whole -/

section Parts

variable (hd : d.Legible mark)
include hd

theorem ColumnRef.decodable_name {text : String} (h : PlainName text) :
    (ColumnRef.name text).Decodable d := by
  intro c' n r s hp ho heq
  cases c' with
  | name text' =>
    have hends : ∀ t, Begins (fun c => c ≠ d.quote ∧ c ≠ '.') (' ' :: t) :=
      fun t => hd.ends_name (by simp)
    obtain ⟨rfl, -⟩ := hd.wrap_append_inj h hp (hends r) (hends s) heq
    rfl
  | raw sql => exact hp.elim
  | subquery q' =>
    simp only [pieces, Dialect.chars_append, Dialect.chars_last, List.append_assoc] at heq
    exact absurd heq (hd.wrap_ne_parenthesis h _ _)

theorem ColumnRef.decodable_subquery {q : Query} (h : q.Decodable d) :
    (ColumnRef.subquery q).Decodable d := by
  intro c' n r s hp ho heq
  cases c' with
  | name text' =>
    simp only [pieces, Dialect.chars_append, Dialect.chars_last, List.append_assoc] at heq
    exact absurd heq.symm (hd.wrap_ne_parenthesis hp _ _)
  | raw sql => exact hp.elim
  | subquery q' =>
    simp only [pieces, Dialect.chars_append, Dialect.chars_last, List.append_assoc,
      List.append_cancel_left_eq] at heq
    have hq := h q' n _ _ hp ho (by simp) (by simp) heq
    simp only [skeleton, hq]

theorem Tail.startsOperand (n : Nat) (subselect : Option Query) (r : List Char) :
    Dialect.Legible.StartsOperand mark (operand d n subselect ++ r) := by
  cases subselect with
  | none =>
    obtain ⟨digits, hdigits⟩ := hd.placeholder (n + 1)
    exact ⟨digits ++ r, .inl (by simp [operand, hdigits])⟩
  | some q => exact ⟨_, .inr rfl⟩

theorem Tail.decodable_nullCheck (negated : Bool) : (Tail.nullCheck negated).Decodable d := by
  intro t' n r s hp ho heq
  cases t' with
  | nullCheck negated' =>
    cases negated <;> cases negated'
    · rfl
    · simp [chars] at heq
    · simp [chars] at heq
    · rfl
  | comparison operator subselect =>
    obtain ⟨hop, -⟩ := d.accepts_cons.mp ho
    simp only [chars, List.append_assoc, List.cons_append] at heq
    exact absurd heq.symm (hd.operator_ne_nullCheck (Tail.mem_nullChecks negated) hop
      (Tail.startsOperand hd n _ s))

theorem Tail.decodable_comparison {operator : String} {subselect : Option Query}
    (hop : d.isOperator operator = true) (h : ∀ q ∈ subselect, q.Decodable d) :
    (Tail.comparison operator subselect).Decodable d := by
  intro t' n r s hp ho heq
  cases t' with
  | nullCheck negated =>
    simp only [chars, List.append_assoc, List.cons_append] at heq
    exact absurd heq (hd.operator_ne_nullCheck (Tail.mem_nullChecks negated) hop
      (Tail.startsOperand hd n _ r))
  | comparison operator' subselect' =>
    obtain ⟨hop', hoq⟩ := d.accepts_cons.mp ho
    simp only [chars, List.append_assoc, List.cons_append] at heq
    obtain ⟨rfl, hrest⟩ := hd.operator_append_inj hop hop' (Tail.startsOperand hd n _ r)
      (Tail.startsOperand hd n _ s) heq
    obtain ⟨digits, hdigits⟩ := hd.placeholder (n + 1)
    cases subselect with
    | none =>
      cases subselect' with
      | none => rfl
      | some q' =>
        simp only [operand, hdigits, List.cons_append, List.cons.injEq] at hrest
        exact absurd hrest.1 hd.mark_ne.1
    | some q =>
      cases subselect' with
      | none =>
        simp only [operand, hdigits, List.cons_append, List.cons.injEq] at hrest
        exact absurd hrest.1.symm hd.mark_ne.1
      | some q' =>
        simp only [operand, List.cons_append, List.append_assoc, List.cons.injEq, true_and] at hrest
        have hq := h q rfl q' n _ _ (hp q' rfl) hoq (by simp) (by simp) hrest
        simp only [skeleton, Option.map_some, hq]

/-- A group cannot be taken for a column, since no clause begins as a statement does. -/
theorem Clause.group_ne_column {cs : List Clause} {c : ColumnRef} (hcs : AllPlain cs)
    (hc : c.Plain) (n : Nat) (r s : List Char) :
    '(' :: (d.chars (piecesList d cs) n ++ ')' :: r) ≠ d.chars (c.pieces d) n ++ ' ' :: s := by
  intro heq
  cases c with
  | name text => exact absurd heq.symm (hd.wrap_ne_parenthesis hc _ _)
  | raw sql => exact hc.elim
  | subquery q =>
    obtain ⟨t, ht⟩ := q.chars_eq_cons (d := d) n
    simp [ColumnRef.pieces, ht] at heq
    cases cs with
    | nil => simp [piecesList] at heq
    | cons c cs =>
      obtain ⟨connective, p⟩ := c
      obtain ⟨c, u, hu, hopens⟩ := Predicate.opens (d := d) hcs.1 n
      have hS : 'S' ≠ d.quote := hd.quote_ne (by decide)
      simp only [piecesList, Dialect.chars_append, hu, List.cons_append, List.cons.injEq] at heq
      rw [heq.1] at hopens
      simp [hS] at hopens

theorem Clause.group_ne_attach {cs : List Clause} {c : ColumnRef} {t : Tail} (hcs : AllPlain cs)
    (hp : (t.attach c).Plain) (n : Nat) (r s : List Char) :
    '(' :: (d.chars (piecesList d cs) n ++ ')' :: r) ≠ d.chars ((t.attach c).pieces d) n ++ s := by
  obtain ⟨hc, -⟩ := Tail.plain_of_attach hp
  rw [Tail.chars_attach, List.append_assoc, List.cons_append]
  exact Clause.group_ne_column hd hcs hc n r _

theorem Predicate.decodable_attach {c : ColumnRef} {t : Tail} (hp : (t.attach c).Plain)
    (hc : c.Decodable d) (ht : t.Decodable d) : (t.attach c).Decodable d := by
  intro p' n r s hp' ho' heq
  cases p' with
  | compare c' operator v offset =>
    exact Tail.skeleton_attach_inj (.comparison operator none) hc ht hp' ho' heq
  | isNull c' => exact Tail.skeleton_attach_inj (.nullCheck false) hc ht hp' ho' heq
  | isNotNull c' => exact Tail.skeleton_attach_inj (.nullCheck true) hc ht hp' ho' heq
  | group q' =>
    obtain ⟨columns, table, clauses, bindings, limit⟩ := q'
    have hgroup : d.chars ((t.attach c).pieces d) n ++ r =
        '(' :: (d.chars (Clause.piecesList d clauses) n ++ ')' :: s) := by
      simpa [pieces] using heq
    exact absurd hgroup.symm (Clause.group_ne_attach hd hp' hp n s r)
  | compareSubquery c' operator q' =>
    exact Tail.skeleton_attach_inj (.comparison operator (some q')) hc ht hp' ho' heq

theorem Predicate.decodable_group {q : Query} (hp : (Predicate.group q).Plain)
    (h : Clause.ListDecodable d q.clauses) : (Predicate.group q).Decodable d := by
  obtain ⟨columns, table, clauses, bindings, limit⟩ := q
  intro p' n r s hp' ho' heq
  have hgroup : '(' :: (d.chars (Clause.piecesList d clauses) n ++ ')' :: r) =
      d.chars (p'.pieces d) n ++ s := by
    simpa [pieces] using heq
  have hcolumn : ∀ (c' : ColumnRef) (t' : Tail), (t'.attach c').Plain →
      '(' :: (d.chars (Clause.piecesList d clauses) n ++ ')' :: r) ≠
        d.chars ((t'.attach c').pieces d) n ++ s :=
    fun c' t' hp' => Clause.group_ne_attach hd hp hp' n r s
  cases p' with
  | compare c' operator v offset =>
    exact absurd hgroup (hcolumn c' (.comparison operator none) hp')
  | isNull c' => exact absurd hgroup (hcolumn c' (.nullCheck false) hp')
  | isNotNull c' => exact absurd hgroup (hcolumn c' (.nullCheck true) hp')
  | group q' =>
    obtain ⟨columns', table', clauses', bindings', limit'⟩ := q'
    have hlists : d.chars (Clause.piecesList d clauses) n ++ ')' :: r =
        d.chars (Clause.piecesList d clauses') n ++ ')' :: s := by
      simpa [pieces] using heq
    have hlist := h clauses' n _ _ hp' ho' (endsClauses_parenthesis r)
      (endsClauses_parenthesis s) hlists
    simp only [skeleton, hlist]
  | compareSubquery c' operator q' =>
    exact absurd hgroup (hcolumn c' (.comparison operator (some q')) hp')

/-! ### Lists of clauses -/

theorem Clause.decodableList_nil : ListDecodable d [] := by
  intro cs' n r s hplain ho hr hs heq
  cases cs' with
  | nil => rfl
  | cons c' cs' =>
    obtain ⟨k', p'⟩ := c'
    simp only [piecesList, Dialect.chars_append, Dialect.chars_last, List.append_assoc,
      String.toList_empty, List.nil_append] at heq
    have hopens := (Predicate.opens (d := d) hplain.1 n).append
      (d.chars (piecesFurther d cs') (n + (p'.pieces d).count) ++ s)
    rw [← heq] at hopens
    exact absurd hopens (hd.not_opens hr.1)

theorem Clause.decodableList_cons {k : Connective} {p : Predicate} {cs : List Clause}
    (hplain : p.Plain) (hp : p.Decodable d) (hcs : FurtherDecodable d cs) :
    ListDecodable d (⟨k, p⟩ :: cs) := by
  intro cs' n r s hplain' ho hr hs heq
  cases cs' with
  | nil =>
    simp only [piecesList, Dialect.chars_append, Dialect.chars_last, List.append_assoc,
      String.toList_empty, List.nil_append] at heq
    have hopens := (Predicate.opens (d := d) hplain n).append
      (d.chars (piecesFurther d cs) (n + (p.pieces d).count) ++ r)
    rw [heq] at hopens
    exact absurd hopens (hd.not_opens hs.1)
  | cons c' cs' =>
    obtain ⟨k', p'⟩ := c'
    obtain ⟨hop, hocs⟩ := d.accepts_append.mp ho
    simp only [piecesList, Dialect.chars_append, List.append_assoc] at heq
    have hpred := hp p' _ _ _ hplain'.1 hop heq
    rw [Predicate.pieces_of_skeleton d hpred] at heq
    have hfurther := hcs cs' _ r s hplain'.2 hocs hr hs (List.append_cancel_left heq)
    simp only [skeletonList, hpred, hfurther]

/-! ### Statements -/

theorem Query.decodable_of_clauses {q : Query} (hp : q.Plain)
    (h : Clause.ListDecodable d q.clauses) : q.Decodable d := by
  obtain ⟨columns, table, clauses, bindings, limit⟩ := q
  intro q' n r s hp' ho' hr hs heq
  obtain ⟨columns', table', clauses', bindings', limit'⟩ := q'
  rw [Query.chars_eq, Query.chars_eq, List.append_assoc, List.append_assoc, List.append_assoc,
    List.append_assoc] at heq
  obtain ⟨hcolumns, rfl, hrest⟩ := hd.heading_append_inj hp.1 hp'.1 hp.2.1 hp'.2.1
    (Query.followsHeading_clauses d limit hr) (Query.followsHeading_clauses d limit' hs) heq
  obtain ⟨hclauses, hending⟩ := Query.conditions_append_inj h hp'.2.2 ho' hr hs hrest
  obtain ⟨rfl, -⟩ := Query.ending_append_inj hr hs hending
  simp only [skeleton, hcolumns, hclauses]

end Parts

end SqlCompose
