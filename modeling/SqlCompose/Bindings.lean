import SqlCompose.Value

/-!
# Bindings

The scalars that a query binds are kept by the part of the statement they
belong to. Read as one list they follow the order in which those parts appear
in a written statement.
-/

namespace SqlCompose

/-- The part of a statement that a binding belongs to, in statement order. -/
inductive Category where
  | select
  | source
  | join
  | filter
  | grouping
  | having
  | ordering
  | union
deriving DecidableEq

namespace Category

def all : List Category :=
  [.select, .source, .join, .filter, .grouping, .having, .ordering, .union]

def name : Category → String
  | .select => "select"
  | .source => "from"
  | .join => "join"
  | .filter => "where"
  | .grouping => "groupBy"
  | .having => "having"
  | .ordering => "order"
  | .union => "union"

def ofName? (name : String) : Option Category :=
  all.find? (·.name == name)

theorem mem_all (c : Category) : c ∈ all := by
  cases c <;> simp [all]

theorem ofName?_name (c : Category) : ofName? c.name = some c := by
  cases c <;> rfl

end Category

/-- The bound scalars of every category. -/
structure Bindings where
  select : List Scalar := []
  source : List Scalar := []
  join : List Scalar := []
  filter : List Scalar := []
  grouping : List Scalar := []
  having : List Scalar := []
  ordering : List Scalar := []
  union : List Scalar := []
deriving DecidableEq

namespace Bindings

/-- The scalars of one category. -/
def get (b : Bindings) : Category → List Scalar
  | .select => b.select
  | .source => b.source
  | .join => b.join
  | .filter => b.filter
  | .grouping => b.grouping
  | .having => b.having
  | .ordering => b.ordering
  | .union => b.union

theorem ext_get {a b : Bindings} (h : ∀ c, a.get c = b.get c) : a = b := by
  have := h .select; have := h .source; have := h .join; have := h .filter
  have := h .grouping; have := h .having; have := h .ordering; have := h .union
  cases a; cases b; simp_all [get]

/-- Changes the scalars of one category. -/
def modify (b : Bindings) (c : Category) (f : List Scalar → List Scalar) : Bindings :=
  match c with
  | .select => { b with select := f b.select }
  | .source => { b with source := f b.source }
  | .join => { b with join := f b.join }
  | .filter => { b with filter := f b.filter }
  | .grouping => { b with grouping := f b.grouping }
  | .having => { b with having := f b.having }
  | .ordering => { b with ordering := f b.ordering }
  | .union => { b with union := f b.union }

@[simp] theorem get_modify (b : Bindings) (c c' : Category) (f : List Scalar → List Scalar) :
    (b.modify c f).get c' = if c' = c then f (b.get c) else b.get c' := by
  cases c <;> cases c' <;> rfl

/-- Appends scalars. -/
def append (b : Bindings) (c : Category) (scalars : List Scalar) : Bindings :=
  b.modify c (· ++ scalars)

@[simp] theorem get_append (b : Bindings) (c c' : Category) (scalars : List Scalar) :
    (b.append c scalars).get c' = if c' = c then b.get c ++ scalars else b.get c' :=
  b.get_modify c c' _

@[simp] theorem append_nil (b : Bindings) (c : Category) : b.append c [] = b := by
  apply ext_get
  intro c'
  by_cases hc : c' = c <;> simp [hc]

theorem append_append (b : Bindings) (c : Category) (scalars scalars' : List Scalar) :
    (b.append c scalars).append c scalars' = b.append c (scalars ++ scalars') := by
  apply ext_get
  intro c'
  by_cases hc : c' = c <;> simp [hc]

/-- Appends the scalars of a value. -/
def add (b : Bindings) (c : Category) (v : Value) : Bindings :=
  b.append c v.scalars

/-- Appends the scalars of several values, in order. -/
def extend (b : Bindings) (c : Category) (vs : List Value) : Bindings :=
  b.append c (vs.flatMap Value.scalars)

/-- Keeps the first scalars of a category. -/
def truncate (b : Bindings) (c : Category) (length : Nat) : Bindings :=
  b.modify c (·.take length)

@[simp] theorem get_truncate (b : Bindings) (c c' : Category) (length : Nat) :
    (b.truncate c length).get c' = if c' = c then (b.get c).take length else b.get c' :=
  b.get_modify c c' _

/-- What was appended is taken back by truncating to the length before. -/
@[simp] theorem truncate_append (b : Bindings) (c : Category) (scalars : List Scalar) :
    (b.append c scalars).truncate c (b.get c).length = b := by
  apply ext_get
  intro c'
  by_cases hc : c' = c <;> simp [hc]

/-- All scalars, in the order of a written statement. -/
def toList (b : Bindings) : List Scalar :=
  Category.all.flatMap b.get

/-- The number of scalars over all categories. -/
def size (b : Bindings) : Nat :=
  b.select.length + b.source.length + b.join.length + b.filter.length + b.grouping.length +
    b.having.length + b.ordering.length + b.union.length

def isEmpty (b : Bindings) : Bool :=
  b.size == 0

theorem size_append (b : Bindings) (c : Category) (scalars : List Scalar) :
    (b.append c scalars).size = b.size + scalars.length := by
  cases c <;> simp only [append, modify, size, List.length_append] <;> omega

theorem length_toList (b : Bindings) : b.toList.length = b.size := by
  simp [toList, size, Category.all, get]
  omega

end Bindings

end SqlCompose
