import SqlCompose.Number.Binary64

/-!
# Values

A value is a scalar or a list of values, nested to any depth. Only scalars are
ever bound to a placeholder; a list stands for the scalars at its leaves, from
left to right.
-/

namespace SqlCompose

open Number

/-- A value that a placeholder can stand for. -/
inductive Scalar where
  | null
  | bool (value : Bool)
  | int (value : Int64)
  | float (value : Binary64)
  | text (value : String)
  | blob (bytes : List UInt8)
deriving DecidableEq

/-- A scalar or a literal list of values. -/
inductive Value where
  | scalar (value : Scalar)
  | list (items : List Value)

namespace Value

/-- The null value itself; a list is not null, whatever it holds. -/
def isNull : Value → Bool
  | .scalar .null => true
  | _ => false

mutual

/-- The scalars of a value, from left to right. -/
def scalars : Value → List Scalar
  | .scalar s => [s]
  | .list items => listScalars items

def listScalars : List Value → List Scalar
  | [] => []
  | v :: vs => v.scalars ++ listScalars vs

end

@[simp] theorem scalars_scalar (s : Scalar) : (scalar s).scalars = [s] := by
  simp [scalars]

theorem listScalars_eq (vs : List Value) : listScalars vs = vs.flatMap scalars := by
  induction vs with
  | nil => simp [listScalars]
  | cons v vs ih => simp [listScalars, ih]

@[simp] theorem scalars_list (vs : List Value) : (list vs).scalars = vs.flatMap scalars := by
  simp [scalars, listScalars_eq]

theorem scalars_of_isNull {v : Value} (h : v.isNull = true) : v.scalars = [.null] := by
  unfold isNull at h
  split at h <;> simp_all

/-- The one scalar of a value that holds exactly one. -/
def single? (v : Value) : Option Scalar :=
  match v.scalars with
  | [s] => some s
  | _ => none

theorem single?_eq_some_iff {v : Value} {s : Scalar} : v.single? = some s ↔ v.scalars = [s] := by
  unfold single?
  split <;> simp_all

end Value

/-- Types whose elements can be given as values. -/
class ToValue (α : Type) where
  toValue : α → Value

export ToValue (toValue)

instance : ToValue Value := ⟨id⟩
instance : ToValue Bool := ⟨fun b => .scalar (.bool b)⟩
instance : ToValue Int64 := ⟨fun i => .scalar (.int i)⟩
instance : ToValue Int32 := ⟨fun i => .scalar (.int i.toInt64)⟩
instance : ToValue Int16 := ⟨fun i => .scalar (.int i.toInt64)⟩
instance : ToValue UInt32 := ⟨fun n => .scalar (.int n.toUInt64.toInt64)⟩
instance : ToValue UInt16 := ⟨fun n => .scalar (.int n.toUInt64.toInt64)⟩
instance : ToValue Binary64 := ⟨fun x => .scalar (.float x)⟩
instance : ToValue Binary32 := ⟨fun x => .scalar (.float x.widen)⟩
instance : ToValue String := ⟨fun s => .scalar (.text s)⟩
instance : ToValue ByteArray := ⟨fun b => .scalar (.blob b.data.toList)⟩

instance {α : Type} [ToValue α] : ToValue (Option α) :=
  ⟨fun x => x.elim (.scalar .null) toValue⟩

instance {α : Type} [ToValue α] : ToValue (List α) :=
  ⟨fun xs => .list (xs.map toValue)⟩

end SqlCompose
