import SqlCompose.Proofs.ConditionLists

/-!
# Conditions joined by OR

A condition is joined by OR through its arguments alone, before any builder is there
whose options could complete them. The word goes to their end, and a lone value gets
the operator `=` before it, so that the word comes to stand in the place of a
connective. This changes the connective and nothing else where an operator was given
or `=` is the default one. Another default operator is lost, and where there are no
arguments the word is alone and is read as the value.
-/

namespace SqlCompose

/-! ## A word after further arguments -/

namespace Prepared

variable (p : Prepared) (word : String)

theorem close_append (args : List Arg) :
    p.close (args ++ [.text word]) =
      p.close args >>= fun _ => .error (.unexpectedArgument .text) := by
  cases args with
  | nil => rfl
  | cons arg args => rfl

theorem withOffset_append (args : List Arg) :
    p.withOffset (args ++ [.text word]) =
      p.withOffset args >>= fun _ => .error (.unexpectedArgument .text) := by
  cases args with
  | nil => rfl
  | cons arg args =>
    cases arg with
    | offset n => exact close_append _ word args
    | _ => rfl

/-- After a connective or an offset there is no place for a word. -/
theorem withTail_append {args : List Arg} (hargs : args ≠ []) :
    p.withTail (args ++ [.text word]) =
      p.withTail args >>= fun _ => .error (.unexpectedArgument .text) := by
  cases args with
  | nil => exact absurd rfl hargs
  | cons arg args =>
    cases arg with
    | text first =>
      simp only [List.cons_append, withTail]
      cases Connective.parse first with
      | error e => rfl
      | ok connective => exact withOffset_append _ word args
    | offset n => exact withOffset_append p word (.offset n :: args)
    | _ => rfl

end Prepared

/-! ## The arguments of a joined condition -/

namespace Condition

/-- The arguments after which a word is taken for the connective. -/
inductive LeavesJoint : List Arg → Prop
  | value (arg : Arg) : LeavesJoint [arg]
  | operator (operator : String) (arg : Arg) : LeavesJoint [.text operator, arg]

variable {defaults : Options} {c : Condition} {p : Prepared}

theorem ofArgs_or_of_nil (hargs : c.args = []) :
    Prepared.ofArgs defaults c.or.args =
      .ok { options := defaults, value := some (.value (.scalar (.text "or"))) } := by
  simp [or, hargs, Prepared.ofArgs, Arg.toOperand, Bind.bind, Except.bind, pure, Except.pure]

/-- Where a word is taken for the connective, a missing operator becomes `=`. -/
theorem ofArgs_or_of_leavesJoint (hargs : LeavesJoint c.args)
    (h : Prepared.ofArgs defaults c.args = .ok p) :
    Prepared.ofArgs defaults c.or.args = .ok {
      options := ⟨if p.hasOperator then p.options.operator else "=", .or, p.options.offset⟩
      value := p.value
      hasOperator := true
      hasTail := true } := by
  obtain ⟨column, args⟩ := c
  cases hargs with
  | value arg =>
    obtain ⟨v, hv, h⟩ := Except.bind_eq_ok_iff.mp h
    cases h
    exact Except.bind_eq_ok_iff.mpr ⟨v, hv, rfl⟩
  | operator operator arg =>
    obtain ⟨v, hv, h⟩ := Except.bind_eq_ok_iff.mp h
    cases h
    exact Except.bind_eq_ok_iff.mpr ⟨v, hv, rfl⟩

/-- Arguments that are refused although a word may follow hold a value that is none. -/
theorem ofArgs_or_of_refused {e : Error} (hargs : LeavesJoint c.args)
    (h : Prepared.ofArgs defaults c.args = .error e) :
    Prepared.ofArgs defaults c.or.args = .error e := by
  obtain ⟨column, args⟩ := c
  cases hargs with
  | value arg =>
    rcases Except.bind_eq_error_iff.mp h with hv | ⟨v, -, hv⟩
    · exact Except.bind_eq_error_iff.mpr (.inl hv)
    · cases hv
  | operator operator arg =>
    rcases Except.bind_eq_error_iff.mp h with hv | ⟨v, -, hv⟩
    · exact Except.bind_eq_error_iff.mpr (.inl hv)
    · cases hv

/-- Everywhere else the word is one argument too many. -/
theorem ofArgs_or_of_not_leavesJoint (hargs : c.args ≠ []) (hjoint : ¬ LeavesJoint c.args) :
    Prepared.ofArgs defaults c.or.args =
      Prepared.ofArgs defaults c.args >>= fun _ => .error (.unexpectedArgument .text) := by
  obtain ⟨column, args⟩ := c
  match args with
  | [] => exact absurd rfl hargs
  | [arg] => exact absurd (.value arg) hjoint
  | .text operator :: arg :: rest =>
    have hrest : rest ≠ [] := by
      rintro rfl
      exact hjoint (.operator operator arg)
    simp only [or, List.cons_append, Prepared.ofArgs, bind_assoc,
      Prepared.withTail_append _ _ hrest]
  | .raw sql :: next :: rest => rfl
  | .value v :: next :: rest =>
    exact Prepared.withTail_append _ "or" (List.cons_ne_nil next rest)
  | .offset n :: next :: rest => rfl
  | .query q :: next :: rest =>
    exact Prepared.withTail_append _ "or" (List.cons_ne_nil next rest)
  | .conditions cs :: next :: rest => rfl

/-- A connective or an offset was given exactly if further arguments follow the value. -/
theorem tail_eq_false_iff {joint move : List Arg} {connective : Option Connective}
    {offset : Option Nat} (hjoin : Arg.MayJoin joint connective) (hmove : Arg.MayMove move offset) :
    (connective.isSome || offset.isSome) = false ↔ joint ++ move = [] := by
  cases hjoin <;> cases hmove <;> simp

theorem hasTail_eq_false_iff (hargs : c.args ≠ [])
    (h : Prepared.ofArgs defaults c.args = .ok p) : p.hasTail = false ↔ LeavesJoint c.args := by
  have hreads := Prepared.ofArgs_eq_ok_iff.mp h
  generalize c.args = args at hargs hreads
  cases hreads with
  | nothing => exact absurd rfl hargs
  | value hv => exact ⟨fun _ => .value _, fun _ => rfl⟩
  | @operator arg v joint move connective offset operator hv hjoin hmove =>
    rw [tail_eq_false_iff hjoin hmove]
    generalize joint ++ move = rest
    constructor
    · rintro rfl
      exact .operator operator arg
    · intro hjoint
      cases hjoint
      rfl
  | @leading arg v joint move connective offset hv hkind hjoin hmove hmore =>
    rw [tail_eq_false_iff hjoin hmove]
    generalize joint ++ move = rest at hmore
    refine ⟨fun hnone => absurd hnone hmore, ?_⟩
    intro hjoint
    cases hjoint with
    | value arg => rfl
    | operator operator arg => exact absurd rfl hkind

/-- A condition without arguments compares its column with the word. -/
theorem contribution_or_of_nil (hargs : c.args = []) (b : Builder) :
    c.or.contribution b =
      .ok (.single b.options.connective
        (.compare (.name c.column) b.options.operator (.scalar (.text "or")) b.options.offset)
        [.text "or"]) := by
  have hcolumn : c.or.column = c.column := by
    unfold or
    split <;> rfl
  rw [contribution_eq, ColumnCall.ofArgs, ofArgs_or_of_nil hargs, hcolumn]
  rfl

/-- A joined condition has an argument, if only the word. -/
theorem or_args_ne_nil (c : Condition) : c.or.args ≠ [] := by
  obtain ⟨column, args⟩ := c
  unfold or
  split <;> simp

/-- A list with a joined condition that had no argument contributes the comparison with the
word in the place of that condition. -/
theorem mapM_contribution_or {b : Builder} {before after : List Condition} {as as' : List Addition}
    (hargs : c.args = []) (hbefore : before.mapM (contribution b) = .ok as)
    (hafter : after.mapM (contribution b) = .ok as') :
    (before ++ c.or :: after).mapM (contribution b) =
      .ok (as ++ .single b.options.connective
        (.compare (.name c.column) b.options.operator (.scalar (.text "or")) b.options.offset)
        [.text "or"] :: as') := by
  have hcons := Except.mapM_cons_eq_ok_iff.mpr
    ⟨_, as', contribution_or_of_nil hargs b, hafter, rfl⟩
  rw [List.mapM_append, hbefore, hcons]
  rfl

end Condition

/-! ## What changes -/

/-- What was read the second time is what was read the first time, but joined by OR. -/
structure Prepared.JoinedByOr (p p' : Prepared) : Prop where
  options : p'.options = { p.options with connective := .or }
  value : p'.value = p.value

namespace Condition

variable {defaults : Options} {c : Condition} {p : Prepared}

/-- The word changes the connective alone exactly if it is not read as the value and does not
bring another operator with it. -/
theorem joinedByOr_iff (h : Prepared.ofArgs defaults c.args = .ok p) (htail : p.hasTail = false) :
    (∃ p', Prepared.ofArgs defaults c.or.args = .ok p' ∧ p.JoinedByOr p') ↔
      c.args ≠ [] ∧ (p.hasOperator = true ∨ defaults.operator = "=") := by
  have hdefault := (Prepared.ofArgs_eq_ok_iff.mp h).operator_eq
  by_cases hargs : c.args = []
  · have hnone : p.value = none := by
      rw [hargs] at h
      cases h
      rfl
    simp only [ofArgs_or_of_nil hargs, hargs, ne_eq, not_true_eq_false, false_and, iff_false]
    rintro ⟨p', hp', hjoined⟩
    cases hp'
    have hvalue := hjoined.value
    rw [hnone] at hvalue
    cases hvalue
  · have hjoint := (hasTail_eq_false_iff hargs h).mp htail
    rw [ofArgs_or_of_leavesJoint hjoint h]
    constructor
    · rintro ⟨p', hp', hjoined⟩
      cases hp'
      refine ⟨hargs, ?_⟩
      cases hoperator : p.hasOperator with
      | true => exact .inl rfl
      | false =>
        have hsame := congrArg Options.operator hjoined.options
        simp only [hoperator, Bool.false_eq_true, if_false, hdefault hoperator] at hsame
        exact .inr hsame.symm
    · rintro ⟨-, hoperator⟩
      refine ⟨_, rfl, ⟨?_, rfl⟩⟩
      cases hgiven : p.hasOperator with
      | true => rfl
      | false =>
        rw [hgiven] at hoperator
        have hequal : defaults.operator = "=" := by simpa using hoperator
        simp only [Bool.false_eq_true, if_false, hdefault hgiven, hequal]

end Condition

/-- Whatever the options of a builder, joining a condition by OR changes the connective that is
read from its arguments and nothing else exactly if it has an argument and its operator is given
or `=` is the default one; in place of another default operator `=` is read. Arguments with a
connective or an offset do not take the word, and those that were refused are refused as before.
A list that is refused since a condition has no argument is no longer refused for it: that
condition compares its column with the word, by the default operator and connective. -/
theorem or_changes_connective_iff (b : Builder) (c : Condition) :
    (∀ p, Prepared.ofArgs b.options c.args = .ok p → p.hasTail = false →
      ((∃ p', Prepared.ofArgs b.options c.or.args = .ok p' ∧ p.JoinedByOr p') ↔
        c.args ≠ [] ∧ (p.hasOperator = true ∨ b.options.operator = "=")) ∧
      (c.args ≠ [] → Prepared.ofArgs b.options c.or.args = .ok {
        options := ⟨if p.hasOperator then p.options.operator else "=", .or, p.options.offset⟩
        value := p.value
        hasOperator := true
        hasTail := true })) ∧
    (∀ p, Prepared.ofArgs b.options c.args = .ok p → p.hasTail = true →
      Prepared.ofArgs b.options c.or.args = .error (.unexpectedArgument .text)) ∧
    (∀ e, Prepared.ofArgs b.options c.args = .error e →
      Prepared.ofArgs b.options c.or.args = .error e) ∧
    (c.args = [] → ∀ (connective : Connective) (before after : List Condition),
      (∀ c' ∈ before ++ after, c'.args ≠ []) →
      (WhereCall.all connective (before ++ c :: after)).run b =
        (.error (.conditionWithoutArguments c.column), b) ∧
      ∀ as as', before.mapM (Condition.contribution b) = .ok as →
        after.mapM (Condition.contribution b) = .ok as' →
        let word := Addition.single b.options.connective
          (.compare (.name c.column) b.options.operator (.scalar (.text "or")) b.options.offset)
          [.text "or"]
        (WhereCall.all connective (before ++ c.or :: after)).run b =
          (.ok (), b.add (.group connective
            (b.forGroup.add (.concat (as ++ word :: as'))).query))) := by
  refine ⟨?_, ?_, ?_, ?_⟩
  · intro p h htail
    refine ⟨Condition.joinedByOr_iff h htail, fun hargs => ?_⟩
    exact Condition.ofArgs_or_of_leavesJoint ((Condition.hasTail_eq_false_iff hargs h).mp htail) h
  · intro p h htail
    have hargs : c.args ≠ [] := by
      intro hnil
      rw [hnil] at h
      cases h
      cases htail
    have hjoint : ¬ Condition.LeavesJoint c.args := by
      rw [← Condition.hasTail_eq_false_iff hargs h, htail]
      exact nofun
    rw [Condition.ofArgs_or_of_not_leavesJoint hargs hjoint, h]
    rfl
  · intro e h
    have hargs : c.args ≠ [] := by
      intro hnil
      rw [hnil] at h
      cases h
    by_cases hjoint : Condition.LeavesJoint c.args
    · exact Condition.ofArgs_or_of_refused hjoint h
    · rw [Condition.ofArgs_or_of_not_leavesJoint hargs hjoint, h]
      rfl
  · intro hargs connective before after hothers
    have hbefore : ∀ c' ∈ before, c'.args ≠ [] := fun c' hc' =>
      hothers c' (List.mem_append_left after hc')
    refine ⟨?_, fun as as' has has' => ?_⟩
    · exact WhereCall.run_all_without_arguments hbefore hargs connective b _ rfl
    · have hmapM := Condition.mapM_contribution_or hargs has has'
      rw [WhereCall.run_all]
      refine Build.contribute_of_ok (Builder.conditions_of_contributions ?_ hmapM connective)
      intro c' hc'
      rcases List.mem_append.mp hc' with hc' | hc'
      · exact hbefore c' hc'
      · rcases List.mem_cons.mp hc' with rfl | hc'
        · exact Condition.or_args_ne_nil c
        · exact hothers c' (List.mem_append_right before hc')

/-- With defaults of a builder's own: an operator of the condition's own is kept, and a list that
was refused since a condition has no argument is taken, with a clause for that condition. -/
theorem or_changes_connective_iff_with_defaults :
    let b : Builder := { query := { table := some "t" }, options := ⟨"like", .and, 7⟩ }
    let less : Condition := ⟨"total", [.text "<", .value (.scalar (.int 5))]⟩
    let lone : Condition := ⟨"name", [.value (.scalar (.text "x%"))]⟩
    let empty : Condition := ⟨"id", []⟩
    let filled := ((WhereCall.all .or [less, empty.or]).run b).2
    Prepared.ofArgs b.options less.or.args = .ok ⟨⟨"<", .or, 7⟩, some (.value (.scalar (.int 5))),
      true, true⟩ ∧
    (∃ p, Prepared.ofArgs b.options lone.or.args = .ok p ∧ p.options = ⟨"=", .or, 7⟩) ∧
    Prepared.ofArgs b.options less.or.or.args = .error (.unexpectedArgument .text) ∧
    (WhereCall.all .or [less, empty]).run b = (.error (.conditionWithoutArguments "id"), b) ∧
    filled.query.clauses.length = 1 ∧ filled.bindings = [.int 5, .text "or"] := by
  intro b less lone empty filled
  obtain ⟨hless, -, -, -⟩ := or_changes_connective_iff b less
  obtain ⟨hlone, -, -, -⟩ := or_changes_connective_iff b lone
  obtain ⟨-, htwice, -, -⟩ := or_changes_connective_iff b less.or
  obtain ⟨-, -, -, hempty⟩ := or_changes_connective_iff b empty
  have hlist := hempty rfl .or [less] [] (by simp [less])
  have hfilled : (WhereCall.all .or [less, empty.or]).run b = (.ok (), _) :=
    hlist.2 _ _ rfl rfl
  refine ⟨?_, ?_, htwice _ rfl rfl, hlist.1, ?_, ?_⟩
  · exact (hless _ rfl rfl).2 (by simp [less])
  · exact ⟨_, (hlone _ rfl rfl).2 (by simp [lone]), rfl⟩
  · simp only [filled, hfilled]
    rfl
  · simp only [filled, hfilled]
    rfl

/-- The default operator `like` is lost on a lone value that is joined by OR, where `=` is read in
its place. A list that is refused since a condition has no argument is accepted once that
condition is joined by OR, and binds the word. -/
theorem or_replaces_default_operator :
    let b : Builder := { query := { table := some "t" }, options := ⟨"like", .and, 1⟩ }
    let lone : Condition := ⟨"name", [.value (.scalar (.text "x%"))]⟩
    let empty : Condition := ⟨"name", []⟩
    (∃ p p', Prepared.ofArgs b.options lone.args = .ok p ∧ p.hasTail = false ∧
      p.options.operator = "like" ∧
      Prepared.ofArgs b.options lone.or.args = .ok p' ∧ p'.options.operator = "=") ∧
    (WhereCall.all .and [empty]).run b = (.error (.conditionWithoutArguments "name"), b) ∧
    ((WhereCall.all .and [empty.or]).run b).1 = .ok () ∧
    ((WhereCall.all .and [empty.or]).run b).2.bindings = [.text "or"] :=
  ⟨⟨_, _, rfl, rfl, rfl, rfl, rfl⟩, rfl, rfl, rfl⟩

end SqlCompose
