import SqlCompose.Query

/-!
# Builders

A builder is a query under construction together with the defaults of its
calls. Calls that add conditions only ever append: what one of them contributes
is a list of clauses with the scalars that those clauses bind.
-/

namespace SqlCompose

/-- What a call takes for the parts that its arguments leave out. -/
structure Options where
  operator : String := "="
  connective : Connective := .and
  offset : Nat := 1
deriving DecidableEq

structure Builder where
  query : Query := {}
  options : Options := {}

namespace Builder

/-- A builder for a table. -/
def ofTable (table : String) : Builder where
  query := { table := some table }

/-- The builder that fills a group: the same table, and no clause. -/
def forGroup (b : Builder) : Builder where
  query := { table := b.query.table }
  options := b.options

/-- The builder that fills a sub-select: no table, and no clause. -/
def forSubquery (b : Builder) : Builder where
  options := b.options

def setTable (b : Builder) (table : String) : Builder :=
  { b with query := { b.query with table := some table } }

def setColumns (b : Builder) (columns : List String) : Builder :=
  { b with query := { b.query with columns } }

def setLimit (b : Builder) (limit : Nat) : Builder :=
  { b with query := { b.query with limit := some limit } }

/-- Drops all but the table and the options. -/
def reset (b : Builder) : Builder :=
  b.forGroup

/-- Every bound scalar, in the order of the written statement. -/
def bindings (b : Builder) : List Scalar :=
  b.query.bindings.toList

end Builder

/-- What one call contributes: clauses, and the scalars that they bind in order. -/
structure Addition where
  clauses : List Clause := []
  scalars : List Scalar := []

namespace Addition

/-- One clause. -/
def single (connective : Connective) (predicate : Predicate) (scalars : List Scalar) : Addition :=
  ⟨[⟨connective, predicate⟩], scalars⟩

/-- A query as a group; without clauses there is no group. -/
def group (connective : Connective) (q : Query) : Addition :=
  if q.hasClauses then single connective (.group q) q.bindings.toList else {}

theorem group_of_clauses_eq_nil {connective : Connective} {q : Query} (h : q.clauses = []) :
    group connective q = {} := by
  simp [group, Query.hasClauses, h]

/-- A null check of every column. -/
def nullChecks (connective : Connective) (negated : Bool) (columns : List ColumnRef) :
    Addition where
  clauses := columns.map fun column =>
    ⟨connective, if negated then .isNotNull column else .isNull column⟩

end Addition

namespace Builder

/-- Appends what a call contributes. -/
def add (b : Builder) (a : Addition) : Builder :=
  { b with
    query := { b.query with
      clauses := b.query.clauses ++ a.clauses
      bindings := b.query.bindings.append .filter a.scalars } }

@[simp] theorem clauses_add (b : Builder) (a : Addition) :
    (b.add a).query.clauses = b.query.clauses ++ a.clauses := rfl

@[simp] theorem bindings_add (b : Builder) (a : Addition) :
    (b.add a).query.bindings = b.query.bindings.append .filter a.scalars := rfl

/-- A contribution of nothing changes nothing. -/
@[simp] theorem add_empty (b : Builder) : b.add {} = b := by
  obtain ⟨⟨columns, table, clauses, bindings, limit⟩, options⟩ := b
  simp [add, Bindings.append, Bindings.modify]

@[simp] theorem options_add (b : Builder) (a : Addition) : (b.add a).options = b.options := rfl

end Builder

end SqlCompose
