import SqlCompose.Bindings
import Mathlib.Tactic

/-!
# Bindings as lists on their own

After any changes, a category holds what its own changes make of an empty list,
as if there were no other categories. The same can be seen of a store that keeps
an ordered map and makes the entry of a category when something is written to it
for the first time. Such an entry stays when its values are taken back, so a
change that is undone is undone for every observation, and not in the map itself.
-/

namespace SqlCompose

/-! ## The leaves of a value -/

namespace Value

/-- The scalar at a position, which is the way to it through the lists that enclose it. -/
def scalarAt? : Value → List Nat → Option Scalar
  | .scalar s, [] => some s
  | .list items, i :: path => items[i]?.bind (·.scalarAt? path)
  | _, _ => none

mutual

/-- The positions of all scalars, from left to right. -/
def positions : Value → List (List Nat)
  | .scalar _ => [[]]
  | .list items => itemPositions items

def itemPositions : List Value → List (List Nat)
  | [] => []
  | v :: vs => v.positions.map (0 :: ·) ++ (itemPositions vs).map (List.modifyHead (· + 1))

end

theorem scalarAt?_zero (v : Value) (vs : List Value) (path : List Nat) :
    (list (v :: vs)).scalarAt? (0 :: path) = v.scalarAt? path := by
  simp [scalarAt?]

theorem scalarAt?_modifyHead (v : Value) (vs : List Value) (position : List Nat) :
    (list (v :: vs)).scalarAt? (position.modifyHead (· + 1)) = (list vs).scalarAt? position := by
  cases position with
  | nil => rfl
  | cons i path => simp [scalarAt?]

mutual

theorem map_scalarAt? : ∀ v : Value, v.positions.map v.scalarAt? = v.scalars.map some
  | .scalar s => by simp [positions, scalarAt?]
  | .list items => by
    rw [positions, scalars]
    exact map_scalarAt?_items items

theorem map_scalarAt?_items : ∀ vs : List Value,
    (itemPositions vs).map (list vs).scalarAt? = (listScalars vs).map some
  | [] => rfl
  | v :: vs => by
    have hfirst := map_scalarAt? v
    have hothers := map_scalarAt?_items vs
    rw [itemPositions, listScalars, List.map_append, List.map_append, ← hfirst, ← hothers,
      List.map_map, List.map_map]
    refine congrArg₂ (· ++ ·) ?_ ?_
    · exact List.map_congr_left fun path _ => scalarAt?_zero v vs path
    · exact List.map_congr_left fun position _ => scalarAt?_modifyHead v vs position

end

mutual

theorem mem_positions_of_isSome : ∀ (v : Value) (position : List Nat),
    (v.scalarAt? position).isSome → position ∈ v.positions
  | .scalar _, [], _ => by simp [positions]
  | .scalar _, _ :: _, h => by simp [scalarAt?] at h
  | .list items, position, h => by
    rw [positions]
    exact mem_itemPositions_of_isSome items position h

theorem mem_itemPositions_of_isSome : ∀ (vs : List Value) (position : List Nat),
    ((list vs).scalarAt? position).isSome → position ∈ itemPositions vs
  | _, [], h => by simp [scalarAt?] at h
  | [], _ :: _, h => by simp [scalarAt?] at h
  | v :: vs, 0 :: path, h => by
    rw [scalarAt?_zero] at h
    rw [itemPositions]
    exact List.mem_append_left _ (List.mem_map_of_mem (mem_positions_of_isSome v path h))
  | v :: vs, (i + 1) :: path, h => by
    have hbefore := scalarAt?_modifyHead v vs (i :: path)
    rw [List.modifyHead_cons] at hbefore
    rw [hbefore] at h
    rw [itemPositions]
    exact List.mem_append_right _
      (List.mem_map_of_mem (f := List.modifyHead (· + 1))
        (mem_itemPositions_of_isSome vs (i :: path) h))

end

theorem isSome_of_mem {α β : Type} {f : α → Option β} {as : List α} {bs : List β}
    (h : as.map f = bs.map some) {a : α} (ha : a ∈ as) : (f a).isSome := by
  have hmem : f a ∈ bs.map some := h ▸ List.mem_map_of_mem ha
  obtain ⟨b, -, hb⟩ := List.mem_map.mp hmem
  simp [← hb]

/-- The positions are exactly those that hold a scalar. -/
theorem mem_positions_iff {v : Value} {position : List Nat} :
    position ∈ v.positions ↔ (v.scalarAt? position).isSome :=
  ⟨isSome_of_mem v.map_scalarAt?, v.mem_positions_of_isSome position⟩

theorem modifyHead_lt {p p' : List Nat} (h : p < p') :
    p.modifyHead (· + 1) < p'.modifyHead (· + 1) := by
  cases p <;> cases p' <;> simp_all [List.cons_lt_cons_iff]

mutual

theorem pairwise_positions : ∀ v : Value, v.positions.Pairwise (· < ·)
  | .scalar _ => by simp [positions]
  | .list items => by
    rw [positions]
    exact pairwise_itemPositions items

theorem pairwise_itemPositions : ∀ vs : List Value, (itemPositions vs).Pairwise (· < ·)
  | [] => by simp [itemPositions]
  | v :: vs => by
    rw [itemPositions, List.pairwise_append, List.pairwise_map, List.pairwise_map]
    refine ⟨?_, ?_, ?_⟩
    · exact (pairwise_positions v).imp fun h => List.cons_lt_cons_iff.mpr (.inr ⟨rfl, h⟩)
    · exact (pairwise_itemPositions vs).imp modifyHead_lt
    -- positions within the first item begin with zero, those within the others do not
    · intro p hp p' hp'
      obtain ⟨path, -, rfl⟩ := List.mem_map.mp hp
      obtain ⟨position, hposition, rfl⟩ := List.mem_map.mp hp'
      cases position with
      | nil => simpa [scalarAt?] using isSome_of_mem (map_scalarAt?_items vs) hposition
      | cons i path' => exact List.cons_lt_cons_iff.mpr (.inl (Nat.succ_pos i))

end

/-- The scalars that stand at the positions of a value, in their order. -/
def Leaves (v : Value) (scalars : List Scalar) : Prop :=
  ∃ positions : List (List Nat), positions.Pairwise (· < ·) ∧
    (∀ p, p ∈ positions ↔ (v.scalarAt? p).isSome) ∧
    positions.map v.scalarAt? = scalars.map some

theorem leaves_iff {v : Value} {scalars : List Scalar} :
    v.Leaves scalars ↔ v.scalars = scalars := by
  have hinj : Function.Injective (some : Scalar → Option Scalar) := Option.some_injective _
  constructor
  · rintro ⟨positions, hsorted, hmem, hmap⟩
    have heq : positions = v.positions :=
      hsorted.eq_of_mem_iff v.pairwise_positions fun p => (hmem p).trans mem_positions_iff.symm
    rw [heq, map_scalarAt?] at hmap
    exact hinj.list_map hmap
  · rintro rfl
    exact ⟨v.positions, v.pairwise_positions, fun p => mem_positions_iff, v.map_scalarAt?⟩

end Value

/-! ## Changes and observations -/

/-- A change to a store of bindings. -/
inductive Change where
  | add (category : Category) (value : Value)
  | extend (category : Category) (values : List Value)
  | truncate (category : Category) (length : Nat)

/-- What can be seen of a store of bindings. -/
structure Observation where
  get : Category → List Value
  flat : List Value
  size : Nat
  isEmpty : Bool

namespace Change

def category : Change → Category
  | .add c _ | .extend c _ | .truncate c _ => c

/-- What a change makes of a list. -/
def onList (scalars : List Scalar) : Change → List Scalar
  | .add _ v => scalars ++ v.scalars
  | .extend _ vs => scalars ++ vs.flatMap Value.scalars
  | .truncate _ length => scalars.take length

/-- What changes make of an empty list. -/
def replay (changes : List Change) : List Scalar :=
  changes.foldl onList []

end Change

namespace Bindings

def change (b : Bindings) : Change → Bindings
  | .add c v => b.add c v
  | .extend c vs => b.extend c vs
  | .truncate c length => b.truncate c length

/-- The store after changes to an empty one. -/
def after (changes : List Change) : Bindings :=
  changes.foldl change {}

def observe (b : Bindings) : Observation where
  get c := (b.get c).map .scalar
  flat := b.toList.map .scalar
  size := b.size
  isEmpty := b.isEmpty

/-- A change acts on its own category only, and there as on a list on its own. -/
theorem get_change (b : Bindings) (x : Change) (c : Category) :
    (b.change x).get c = if x.category = c then x.onList (b.get c) else b.get c := by
  by_cases hc : x.category = c
  · subst hc
    cases x <;> simp [change, add, extend, Change.category, Change.onList]
  · have hc' : c ≠ x.category := Ne.symm hc
    cases x <;> simp_all [change, add, extend, Change.category]

theorem get_foldl_change (b : Bindings) (changes : List Change) (c : Category) :
    (changes.foldl change b).get c =
      (changes.filter (·.category = c)).foldl Change.onList (b.get c) := by
  induction changes generalizing b with
  | nil => rfl
  | cons x changes ih =>
    rw [List.foldl_cons, ih, get_change]
    by_cases hx : x.category = c <;> simp [hx]

theorem get_after (changes : List Change) (c : Category) :
    (after changes).get c = Change.replay (changes.filter (·.category = c)) := by
  rw [after, get_foldl_change]
  cases c <;> rfl

theorem after_append (changes further : List Change) :
    after (changes ++ further) = further.foldl change (after changes) :=
  List.foldl_append

theorem change_comm (b : Bindings) {x y : Change} (h : x.category ≠ y.category) :
    (b.change x).change y = (b.change y).change x := by
  apply ext_get
  intro c
  simp only [get_change]
  by_cases hx : x.category = c
  · by_cases hy : y.category = c
    · exact absurd (hx.trans hy.symm) h
    · simp [hx, hy]
  · by_cases hy : y.category = c <;> simp [hx, hy]

theorem add_list (b : Bindings) (c : Category) (vs : List Value) :
    b.add c (.list vs) = b.extend c vs := by
  rw [add, extend, Value.scalars_list]

theorem truncate_extend (b : Bindings) (c : Category) (vs : List Value) :
    (b.extend c vs).truncate c (b.get c).length = b :=
  b.truncate_append c _

end Bindings

/-! ## An ordered map with entries on demand -/

/-- Categories in statement order. -/
instance : Ord Category := ⟨compareOn Category.all.idxOf⟩

instance : Std.TransOrd Category :=
  inferInstanceAs (Std.TransCmp (compareOn Category.all.idxOf))

instance : Std.LawfulEqOrd Category where
  eq_of_compare {c c'} h := by
    revert h
    cases c <;> cases c' <;> decide

theorem Category.compare_eq_iff {c c' : Category} : compare c c' = .eq ↔ c' = c :=
  Std.LawfulEqCmp.compare_eq_iff_eq.trans eq_comm

theorem Category.pairwise_all : all.Pairwise (compare · · = .lt) := by
  decide

namespace Value

mutual

/-- Pushes the scalars of a value one after the other. -/
def pushTo (values : List Value) : Value → List Value
  | .scalar s => values ++ [.scalar s]
  | .list items => pushItems values items

def pushItems (values : List Value) : List Value → List Value
  | [] => values
  | v :: vs => pushItems (v.pushTo values) vs

end

mutual

theorem pushTo_eq (values : List Value) :
    ∀ v : Value, v.pushTo values = values ++ v.scalars.map .scalar
  | .scalar s => by simp [pushTo]
  | .list items => by
    rw [pushTo, scalars]
    exact pushItems_eq values items

theorem pushItems_eq (values : List Value) :
    ∀ vs : List Value, pushItems values vs = values ++ (listScalars vs).map .scalar
  | [] => by simp [pushItems, listScalars]
  | v :: vs => by
    rw [pushItems, pushItems_eq (v.pushTo values) vs, pushTo_eq values v, listScalars,
      List.map_append, List.append_assoc]

end

/-- The scalars of a value as values. -/
def flatten (v : Value) : List Value :=
  v.pushTo []

theorem flatten_eq (v : Value) : v.flatten = v.scalars.map .scalar :=
  pushTo_eq [] v

end Value

/-- The values of every category that was written to, in an ordered map. -/
structure BindingMap where
  entries : Std.TreeMap Category (List Value) := {}

namespace BindingMap

def get (m : BindingMap) (c : Category) : List Value :=
  m.entries.getD c []

/-- Changes the values of a category; its entry is made if there is none. -/
def modify (m : BindingMap) (c : Category) (f : List Value → List Value) : BindingMap where
  entries := m.entries.alter c fun values => some (f (values.getD []))

def add (m : BindingMap) (c : Category) (v : Value) : BindingMap :=
  m.modify c (· ++ v.flatten)

def extend (m : BindingMap) (c : Category) (vs : List Value) : BindingMap :=
  m.modify c fun values => vs.foldl (fun values v => values ++ v.flatten) values

/-- Keeps the first values of a category; an entry is not made. -/
def truncate (m : BindingMap) (c : Category) (length : Nat) : BindingMap where
  entries := m.entries.modify c (·.take length)

/-- The values of all entries in the order of the map. -/
def flat (m : BindingMap) : List Value :=
  m.entries.toList.flatMap (·.2)

def size (m : BindingMap) : Nat :=
  (m.entries.toList.map (·.2.length)).sum

def isEmpty (m : BindingMap) : Bool :=
  m.size == 0

def change (m : BindingMap) : Change → BindingMap
  | .add c v => m.add c v
  | .extend c vs => m.extend c vs
  | .truncate c length => m.truncate c length

/-- The map after changes to an empty one. -/
def after (changes : List Change) : BindingMap :=
  changes.foldl change {}

def observe (m : BindingMap) : Observation where
  get := m.get
  flat := m.flat
  size := m.size
  isEmpty := m.isEmpty

theorem get_modify (m : BindingMap) (c c' : Category) (f : List Value → List Value) :
    (m.modify c f).get c' = if c' = c then f (m.get c) else m.get c' := by
  rw [get, modify, Std.TreeMap.getD_alter, Option.getD_some, ← Std.TreeMap.getD_eq_getD_getElem?]
  simp only [Category.compare_eq_iff, get]

theorem get_add (m : BindingMap) (c c' : Category) (v : Value) :
    (m.add c v).get c' = if c' = c then m.get c ++ v.scalars.map .scalar else m.get c' := by
  rw [add, get_modify, Value.flatten_eq]

theorem get_extend (m : BindingMap) (c c' : Category) (vs : List Value) :
    (m.extend c vs).get c' =
      if c' = c then m.get c ++ (vs.flatMap Value.scalars).map .scalar else m.get c' := by
  rw [extend, get_modify, List.foldl_append_eq_append, List.map_flatMap, List.flatMap_def,
    funext Value.flatten_eq]

theorem get_truncate (m : BindingMap) (c c' : Category) (length : Nat) :
    (m.truncate c length).get c' = if c' = c then (m.get c).take length else m.get c' := by
  have htake : (m.entries[c]?.map (·.take length)).getD [] = (m.get c).take length := by
    rw [get, Std.TreeMap.getD_eq_getD_getElem?]
    cases m.entries[c]? <;> simp
  rw [get, truncate, Std.TreeMap.getD_modify, htake]
  simp only [Category.compare_eq_iff, get]

theorem keys_eq (m : BindingMap) :
    m.entries.keys = Category.all.filter (· ∈ m.entries) := by
  have hantisymm : Std.Antisymm fun c c' : Category => compare c c' = .lt :=
    ⟨fun _ _ h h' => absurd h' (Std.OrientedCmp.not_lt_of_lt h)⟩
  have hirrefl : Std.Irrefl fun c c' : Category => compare c c' = .lt := ⟨fun c => by simp⟩
  refine Std.TreeMap.ordered_keys.eq_of_mem_iff (Category.pairwise_all.filter _) fun c => ?_
  simp [Category.mem_all]

theorem get_of_not_mem {m : BindingMap} {c : Category} (h : c ∉ m.entries) : m.get c = [] :=
  Std.TreeMap.getD_eq_fallback h

theorem get_of_mem_toList {m : BindingMap} {entry : Category × List Value}
    (h : entry ∈ m.entries.toList) : m.get entry.1 = entry.2 := by
  rw [get, Std.TreeMap.getD_eq_getD_getElem?, Std.TreeMap.mem_toList_iff_getElem?_eq_some.mp h,
    Option.getD_some]

/-- The entries stand in statement order, and a category without an entry has no values. -/
theorem flat_eq (m : BindingMap) : m.flat = Category.all.flatMap m.get := by
  have hpresent (cs : List Category) :
      (cs.filter (· ∈ m.entries)).flatMap m.get = cs.flatMap m.get := by
    induction cs with
    | nil => rfl
    | cons c cs ih => by_cases hc : c ∈ m.entries <;> simp [hc, ih, get_of_not_mem]
  calc m.flat
    _ = m.entries.toList.flatMap (m.get ·.1) :=
      List.flatMap_congr fun entry hentry => (get_of_mem_toList hentry).symm
    _ = m.entries.keys.flatMap m.get := by
      rw [← Std.TreeMap.map_fst_toList_eq_keys, List.flatMap_map]
    _ = Category.all.flatMap m.get := by
      rw [keys_eq, hpresent]

theorem size_eq (m : BindingMap) : m.size = m.flat.length := by
  rw [size, flat, List.length_flatMap]

/-- A map that holds the scalars of a store is not told apart from it. -/
theorem observe_eq {m : BindingMap} {b : Bindings}
    (h : ∀ c, m.get c = (b.get c).map .scalar) : m.observe = b.observe := by
  have hget : m.get = fun c => (b.get c).map .scalar := funext h
  have hflat : m.flat = b.toList.map .scalar := by
    rw [flat_eq, hget, Bindings.toList, List.map_flatMap]
  have hsize : m.size = b.size := by
    rw [size_eq, hflat, List.length_map, Bindings.length_toList]
  rw [observe, Bindings.observe, hget, hflat, hsize, isEmpty, hsize, Bindings.isEmpty]

/-- A map goes on holding the scalars of a store when both are changed. -/
theorem get_change {m : BindingMap} {b : Bindings}
    (h : ∀ c, m.get c = (b.get c).map .scalar) (x : Change) (c : Category) :
    (m.change x).get c = ((b.change x).get c).map .scalar := by
  cases x with
  | add c' v =>
    rw [change, get_add, Bindings.change, Bindings.add, Bindings.get_append]
    split_ifs <;> simp [h]
  | extend c' vs =>
    rw [change, get_extend, Bindings.change, Bindings.extend, Bindings.get_append]
    split_ifs <;> simp [h]
  | truncate c' length =>
    rw [change, get_truncate, Bindings.change, Bindings.get_truncate]
    split_ifs <;> simp [h]

theorem get_foldl_change {m : BindingMap} {b : Bindings}
    (h : ∀ c, m.get c = (b.get c).map .scalar) (changes : List Change) (c : Category) :
    (changes.foldl change m).get c = ((changes.foldl Bindings.change b).get c).map .scalar := by
  induction changes generalizing m b with
  | nil => exact h c
  | cons x changes ih => exact ih (get_change h x)

theorem observe_after (changes : List Change) :
    (after changes).observe = (Bindings.after changes).observe := by
  have hempty (c : Category) : ({} : BindingMap).get c = (({} : Bindings).get c).map .scalar := by
    cases c <;> rfl
  exact observe_eq (get_foldl_change hempty changes)

end BindingMap

/-! ## Independent lists -/

/-- A store, as it is seen after any changes to an empty one, keeps a list of scalars for every
category. Changes of different categories do not meet, a list is added as its items are, and a
change that is taken back is not seen, whatever is changed later. -/
structure KeepsLists (observe : List Change → Observation) : Prop where
  get (changes : List Change) (c : Category) :
    (observe changes).get c = (Change.replay (changes.filter (·.category = c))).map .scalar
  flat (changes : List Change) :
    (observe changes).flat = Category.all.flatMap (observe changes).get
  size (changes : List Change) : (observe changes).size = (observe changes).flat.length
  isEmpty (changes : List Change) :
    (observe changes).isEmpty = true ↔ (observe changes).flat = []
  scalar (changes : List Change) (c : Category) (v : Value) (hv : v ∈ (observe changes).get c) :
    ∀ items, v ≠ .list items
  exchange (changes further : List Change) {x y : Change} (h : x.category ≠ y.category) :
    observe (changes ++ x :: y :: further) = observe (changes ++ y :: x :: further)
  list (changes further : List Change) (c : Category) (vs : List Value) :
    observe (changes ++ .add c (.list vs) :: further) =
      observe (changes ++ .extend c vs :: further)
  rollBack (changes further : List Change) (c : Category) (vs : List Value) :
    observe (changes ++ .extend c vs ::
      .truncate c ((observe changes).get c).length :: further) = observe (changes ++ further)

theorem Bindings.keepsLists : KeepsLists fun changes => (after changes).observe where
  get changes c := congrArg (List.map Value.scalar) (get_after changes c)
  flat changes := List.map_flatMap
  size changes := by
    rw [observe, List.length_map, length_toList]
  isEmpty changes := by
    simp [observe, isEmpty, ← length_toList]
  scalar changes c v hv items := by
    obtain ⟨s, -, rfl⟩ := List.mem_map.mp hv
    exact nofun
  exchange changes further x y h := by
    simp only [after_append, List.foldl_cons, change_comm _ h]
  list changes further c vs := by
    simp only [after_append, List.foldl_cons, change, add_list]
  rollBack changes further c vs := by
    simp only [after_append, List.foldl_cons, change, observe, List.length_map, truncate_extend]

/-- The bindings of a query and a map with entries on demand both keep independent lists, where the
scalars of a value are those at its leaves, from left to right. -/
theorem bindings_keep_independent_lists :
    (KeepsLists fun changes => (Bindings.after changes).observe) ∧
    (KeepsLists fun changes => (BindingMap.after changes).observe) ∧
    ∀ (v : Value) (scalars : List Scalar), v.Leaves scalars ↔ v.scalars = scalars := by
  refine ⟨Bindings.keepsLists, ?_, fun v scalars => Value.leaves_iff⟩
  rw [funext BindingMap.observe_after]
  exact Bindings.keepsLists

/-- The entry of values that were taken back stays. -/
example :
    (BindingMap.after [.add .filter (.scalar .null), .truncate .filter 0]).entries.toList =
      [(.filter, [])] := rfl

end SqlCompose
