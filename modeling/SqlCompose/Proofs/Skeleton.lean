import SqlCompose.Proofs.Names
import SqlCompose.Proofs.Numbering

/-!
# Skeletons

The skeleton of a query is what a statement says about it: bound values, recorded
offsets and bindings are forgotten, and so is the connective of the first clause
of a list and all of a group but its clauses. A query and its skeleton are written
with the same pieces.
-/

namespace SqlCompose

mutual

def Query.skeleton : Query → Query
  | { columns, table, clauses, limit, .. } =>
    { columns := Query.selected columns, table, clauses := Clause.skeletonList clauses, limit }

def Clause.skeletonList : List Clause → List Clause
  | [] => []
  | { predicate, .. } :: cs => ⟨.and, predicate.skeleton⟩ :: Clause.skeletonFurther cs

/-- The skeletons of clauses that each follow another one. -/
def Clause.skeletonFurther : List Clause → List Clause
  | [] => []
  | { connective, predicate } :: cs =>
    ⟨connective, predicate.skeleton⟩ :: Clause.skeletonFurther cs

def Predicate.skeleton : Predicate → Predicate
  | .compare column operator _ _ => .compare column.skeleton operator (.scalar .null) 0
  | .isNull column => .isNull column.skeleton
  | .isNotNull column => .isNotNull column.skeleton
  | .group { clauses, .. } => .group { clauses := Clause.skeletonList clauses }
  | .compareSubquery column operator query =>
    .compareSubquery column.skeleton operator query.skeleton

def ColumnRef.skeleton : ColumnRef → ColumnRef
  | .name text => .name text
  | .raw sql => .raw sql
  | .subquery query => .subquery query.skeleton

end

mutual

/-- A query without raw columns all of whose written names are plain. -/
def Query.Plain : Query → Prop
  | { columns, table, clauses, .. } =>
    (∀ c ∈ columns, PlainName c) ∧ (∀ t ∈ table, PlainName t) ∧ Clause.AllPlain clauses

def Clause.AllPlain : List Clause → Prop
  | [] => True
  | { predicate, .. } :: cs => predicate.Plain ∧ Clause.AllPlain cs

def Predicate.Plain : Predicate → Prop
  | .compare column _ _ _ => column.Plain
  | .isNull column => column.Plain
  | .isNotNull column => column.Plain
  | .group { clauses, .. } => Clause.AllPlain clauses
  | .compareSubquery column _ query => column.Plain ∧ query.Plain

def ColumnRef.Plain : ColumnRef → Prop
  | .name text => PlainName text
  | .raw _ => False
  | .subquery query => query.Plain

end

theorem Clause.isEmpty_skeletonList (cs : List Clause) :
    (skeletonList cs).isEmpty = cs.isEmpty := by
  cases cs with
  | nil => rfl
  | cons c cs =>
    cases c
    rfl

mutual

theorem Query.pieces_skeleton (d : Dialect) : ∀ q : Query, q.skeleton.pieces d = q.pieces d
  | ⟨columns, table, clauses, bindings, limit⟩ => by
    simp only [Query.skeleton, Query.pieces, Query.heading_selected, Clause.isEmpty_skeletonList,
      Clause.piecesList_skeleton d clauses]

theorem Clause.piecesList_skeleton (d : Dialect) : ∀ cs : List Clause,
    Clause.piecesList d (Clause.skeletonList cs) = Clause.piecesList d cs
  | [] => rfl
  | ⟨connective, predicate⟩ :: cs => by
    simp only [Clause.skeletonList, Clause.piecesList, Predicate.pieces_skeleton d predicate,
      Clause.piecesFurther_skeleton d cs]

theorem Clause.piecesFurther_skeleton (d : Dialect) : ∀ cs : List Clause,
    Clause.piecesFurther d (Clause.skeletonFurther cs) = Clause.piecesFurther d cs
  | [] => rfl
  | ⟨connective, predicate⟩ :: cs => by
    simp only [Clause.skeletonFurther, Clause.piecesFurther, Predicate.pieces_skeleton d predicate,
      Clause.piecesFurther_skeleton d cs]

theorem Predicate.pieces_skeleton (d : Dialect) : ∀ p : Predicate,
    p.skeleton.pieces d = p.pieces d
  | .compare column operator v offset => by
    simp only [Predicate.skeleton, Predicate.pieces, ColumnRef.pieces_skeleton d column]
  | .isNull column => by
    simp only [Predicate.skeleton, Predicate.pieces, ColumnRef.pieces_skeleton d column]
  | .isNotNull column => by
    simp only [Predicate.skeleton, Predicate.pieces, ColumnRef.pieces_skeleton d column]
  | .group ⟨columns, table, clauses, bindings, limit⟩ => by
    simp only [Predicate.skeleton, Predicate.pieces, Clause.piecesList_skeleton d clauses]
  | .compareSubquery column operator query => by
    simp only [Predicate.skeleton, Predicate.pieces, ColumnRef.pieces_skeleton d column,
      Query.pieces_skeleton d query]

theorem ColumnRef.pieces_skeleton (d : Dialect) : ∀ c : ColumnRef,
    c.skeleton.pieces d = c.pieces d
  | .name text => rfl
  | .raw sql => rfl
  | .subquery query => by
    simp only [ColumnRef.skeleton, ColumnRef.pieces, Query.pieces_skeleton d query]

end

/-! ## Queries with the same skeleton -/

variable (d : Dialect)

theorem Query.pieces_of_skeleton {q q' : Query} (h : q.skeleton = q'.skeleton) :
    q.pieces d = q'.pieces d := by
  rw [← q.pieces_skeleton d, h, q'.pieces_skeleton d]

theorem Clause.piecesList_of_skeleton {cs cs' : List Clause}
    (h : skeletonList cs = skeletonList cs') : piecesList d cs = piecesList d cs' := by
  rw [← piecesList_skeleton d cs, h, piecesList_skeleton d cs']

theorem Predicate.pieces_of_skeleton {p p' : Predicate} (h : p.skeleton = p'.skeleton) :
    p.pieces d = p'.pieces d := by
  rw [← p.pieces_skeleton d, h, p'.pieces_skeleton d]

theorem ColumnRef.pieces_of_skeleton {c c' : ColumnRef} (h : c.skeleton = c'.skeleton) :
    c.pieces d = c'.pieces d := by
  rw [← c.pieces_skeleton d, h, c'.pieces_skeleton d]

end SqlCompose
