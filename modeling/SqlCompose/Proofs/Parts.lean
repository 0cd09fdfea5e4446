import SqlCompose.Proofs.Skeleton

/-!
# The parts of a statement

A statement as a list of characters, taken apart at the places where a reader sees
one part end and the next begin. A predicate that is not a group is a column with
a tail: a null check, or an operator with what stands to the right of it.
-/

namespace SqlCompose

open Text (Begins)

namespace Dialect

/-- A text with placeholders as characters, the placeholders numbered after `n` others. -/
def chars (d : Dialect) (p : Pieces) (n : Nat) : List Char :=
  (p.number d.placeholder n).toList

variable (d : Dialect)

@[simp] theorem chars_last (text : String) (n : Nat) : d.chars (.last text) n = text.toList := rfl

@[simp] theorem chars_placeholder (n : Nat) :
    d.chars .placeholder n = (d.placeholder (n + 1)).toList := by
  simp [chars]

@[simp] theorem chars_append (p p' : Pieces) (n : Nat) :
    d.chars (p ++ p') n = d.chars p n ++ d.chars p' (n + p.count) := by
  simp [chars]

/-- Operators that are all accepted. -/
def Accepts (operators : List String) : Prop :=
  ∀ operator ∈ operators, d.isOperator operator = true

theorem accepts_append {ops ops' : List String} :
    d.Accepts (ops ++ ops') ↔ d.Accepts ops ∧ d.Accepts ops' :=
  List.forall_mem_append

theorem accepts_cons {operator : String} {ops : List String} :
    d.Accepts (operator :: ops) ↔ d.isOperator operator = true ∧ d.Accepts ops :=
  List.forall_mem_cons

theorem checkOperators_eq_ok {ops : List String} (h : d.checkOperators ops = .ok ()) :
    d.Accepts ops := by
  induction ops with
  | nil =>
    intro operator hmem
    cases hmem
  | cons operator ops ih =>
    rw [checkOperators_cons] at h
    cases ho : d.checkOperator operator with
    | error e => simp [ho, Bind.bind, Except.bind] at h
    | ok _ =>
      rw [ho] at h
      exact d.accepts_cons.mpr ⟨d.checkOperator_eq_ok_iff.mp ho, ih h⟩

end Dialect

/-! ## What follows a column -/

/-- A predicate about a column without the column: a null check, or a comparison with a value
or with a sub-select. -/
inductive Tail where
  | nullCheck (negated : Bool)
  | comparison (operator : String) (subselect : Option Query)

namespace Tail

/-- The predicate about a column; its value is of no importance. -/
def attach (c : ColumnRef) : Tail → Predicate
  | .nullCheck false => .isNull c
  | .nullCheck true => .isNotNull c
  | .comparison operator none => .compare c operator (.scalar .null) 0
  | .comparison operator (some q) => .compareSubquery c operator q

def skeleton : Tail → Tail
  | .nullCheck negated => .nullCheck negated
  | .comparison operator subselect => .comparison operator (subselect.map Query.skeleton)

def Plain : Tail → Prop
  | .nullCheck _ => True
  | .comparison _ subselect => ∀ q ∈ subselect, q.Plain

def operators : Tail → List String
  | .nullCheck _ => []
  | .comparison operator subselect => operator :: (subselect.map Query.operators).getD []

/-- What stands to the right of an operator. -/
def operand (d : Dialect) (n : Nat) : Option Query → List Char
  | none => (d.placeholder (n + 1)).toList
  | some q => '(' :: (d.chars (q.pieces d) n ++ [')'])

/-- What stands after a column and a blank. -/
def chars (d : Dialect) (n : Nat) : Tail → List Char
  | .nullCheck negated => (if negated then "IS NOT NULL" else "IS NULL").toList
  | .comparison operator subselect => operator.toList ++ ' ' :: operand d n subselect

variable {c : ColumnRef} {t : Tail}

theorem skeleton_attach : (t.attach c).skeleton = t.skeleton.attach c.skeleton := by
  rcases t with ⟨_ | _⟩ | ⟨operator, _ | q⟩ <;> rfl

theorem plain_of_attach (h : (t.attach c).Plain) : c.Plain ∧ t.Plain := by
  rcases t with ⟨_ | _⟩ | ⟨operator, _ | q⟩
  · exact ⟨h, trivial⟩
  · exact ⟨h, trivial⟩
  · exact ⟨h, by simp [Plain]⟩
  · exact ⟨h.1, by simpa [Plain] using h.2⟩

theorem accepts_of_attach {d : Dialect} (h : d.Accepts (t.attach c).operators) :
    d.Accepts c.operators ∧ d.Accepts t.operators := by
  rcases t with ⟨_ | _⟩ | ⟨operator, _ | q⟩
  · exact ⟨h, by simp [operators, Dialect.Accepts]⟩
  · exact ⟨h, by simp [operators, Dialect.Accepts]⟩
  · obtain ⟨ho, hc⟩ := d.accepts_cons.mp h
    exact ⟨hc, d.accepts_cons.mpr ⟨ho, by simp [Dialect.Accepts]⟩⟩
  · obtain ⟨ho, h⟩ := d.accepts_cons.mp h
    obtain ⟨hc, hq⟩ := d.accepts_append.mp h
    exact ⟨hc, d.accepts_cons.mpr ⟨ho, hq⟩⟩

theorem chars_attach (d : Dialect) (n : Nat) :
    d.chars ((t.attach c).pieces d) n =
      d.chars (c.pieces d) n ++ ' ' :: t.chars d (n + (c.pieces d).count) := by
  rcases t with ⟨_ | _⟩ | ⟨operator, _ | q⟩ <;>
    simp [attach, Predicate.pieces, chars, operand]

end Tail

/-! ## The parts of a statement -/

namespace Query

/-- The conditions of a statement, if there are any. -/
def conditions (d : Dialect) (clauses : List Clause) (n : Nat) : List Char :=
  if clauses = [] then [] else " WHERE ".toList ++ d.chars (Clause.piecesList d clauses) n

theorem chars_eq (d : Dialect) (columns : List String) (table : Option String)
    (clauses : List Clause) (bindings : Bindings) (limit : Option Nat) (n : Nat) :
    d.chars (pieces d ⟨columns, table, clauses, bindings, limit⟩) n =
      (heading d columns table).toList ++ conditions d clauses n ++ (ending limit).toList := by
  unfold conditions
  by_cases h : clauses = []
  · simp [pieces, h]
  · simp [pieces, h]

end Query

end SqlCompose
