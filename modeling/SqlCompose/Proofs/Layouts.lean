import Mathlib.Data.List.Forall2
import Mathlib.Data.List.Perm.Basic
import SqlCompose.Json.Record
import SqlCompose.Proofs.Documents

/-!
# Records in any layout

An object may list the fields of a record in any order, among keys that name no
field, and leave out what has a default. What stands for a value is a relation
between values and documents; the relations for options, lists and records are
made from those of their parts, and so are the proofs that they are read back.
-/

namespace SqlCompose.Json.Document

/-! ## Slots of an object -/

/-- The fields that are listed, each with what it is given. -/
def given (names : List String) (slots : List (Option Document)) : List (String × Document) :=
  (names.zip slots).filterMap fun (name, slot) => slot.map fun d => (name, d)

/-- An object that lists fields in any order among keys that name none of them. A field whose slot
is empty is left out. -/
inductive Lists (names : List String) (slots : List (Option Document)) : Document → Prop where
  | mk {entries extras : List (String × Document)} (hextras : ∀ e ∈ extras, e.1 ∉ names)
    (hentries : entries.Perm (given names slots ++ extras)) :
    Lists names slots (record entries)

theorem keys?_record (entries : List (String × Document)) :
    keys? (entries.map fun (key, d) => (some key, d)) = some entries := by
  induction entries with
  | nil => rfl
  | cons e entries ih =>
    rw [keys?] at ih ⊢
    rw [List.map_cons, List.mapM_cons, ih]
    rfl

theorem given_subset (names : List String) (slots : List (Option Document)) :
    ∀ e ∈ given names slots, e.1 ∈ names := by
  intro e he
  simp only [given, List.mem_filterMap, Option.map_eq_some_iff] at he
  obtain ⟨⟨name, slot⟩, hmem, d, -, rfl⟩ := he
  exact (List.of_mem_zip hmem).1

/-- Each field is given once. -/
theorem filter_given {names : List String} {slots : List (Option Document)} {name : String}
    {slot : Option Document} (hnames : names.Nodup) (hmem : (name, slot) ∈ names.zip slots) :
    (given names slots).filter (·.1 == name) = (slot.map fun d => (name, d)).toList := by
  induction names generalizing slots with
  | nil => simp at hmem
  | cons name' names ih =>
    cases slots with
    | nil => simp at hmem
    | cons slot' slots =>
      obtain ⟨hname', hnames⟩ := List.nodup_cons.mp hnames
      have hgiven : given (name' :: names) (slot' :: slots) =
          (slot'.map fun d => (name', d)).toList ++ given names slots := by
        cases slot' <;> rfl
      rw [List.zip_cons_cons, List.mem_cons] at hmem
      rw [hgiven, List.filter_append]
      rcases hmem with heq | hmem
      · obtain ⟨rfl, rfl⟩ := Prod.mk.inj heq
        have hrest : (given names slots).filter (·.1 == name) = [] := by
          rw [List.filter_eq_nil_iff]
          intro e he heq
          exact hname' (beq_iff_eq.mp heq ▸ given_subset names slots e he)
        rw [hrest, List.append_nil]
        cases slot <;> simp
      · have hne : name' ≠ name := fun h => hname' (h ▸ (List.of_mem_zip hmem).1)
        rw [ih hnames hmem]
        cases slot' <;> simp [hne]

theorem slot?_eq {entries : List (String × Document)} {name : String} {slot : Option Document}
    (h : entries.filter (·.1 == name) = (slot.map fun d => (name, d)).toList) :
    slot? entries name = some slot := by
  rw [slot?, h]
  cases slot <;> rfl

theorem mapM_eq_some {α β : Type} {f : α → Option β} {as : List α} {bs : List β}
    (h : List.Forall₂ (fun a b => f a = some b) as bs) : as.mapM f = some bs := by
  induction h with
  | nil => rfl
  | cons hab _ ih =>
    rw [List.mapM_cons, hab, ih]
    rfl

theorem forall₂_of_mapM {α β : Type} {f : α → Option β} {as : List α} {bs : List β}
    (h : as.mapM f = some bs) : List.Forall₂ (fun a b => f a = some b) as bs := by
  induction as generalizing bs with
  | nil =>
    obtain rfl := Option.some.inj h
    exact .nil
  | cons a as ih =>
    simp only [List.mapM_cons, Option.bind_eq_bind, Option.bind_eq_some_iff, Option.pure_def,
      Option.some.injEq] at h
    obtain ⟨b, hb, bs, hbs, rfl⟩ := h
    exact .cons hb (ih hbs)

theorem map_fst_of_keys? {fields : List (Option String × Document)}
    {entries : List (String × Document)} (h : keys? fields = some entries) :
    entries.map (some ·.1) = fields.map (·.1) := by
  have hall := forall₂_of_mapM h
  clear h
  induction hall with
  | nil => rfl
  | cons hfield _ ih =>
    obtain ⟨name, hname, rfl⟩ := Option.map_eq_some_iff.mp hfield
    rw [List.map_cons, List.map_cons, ih, hname]

/-- A field that an object does not name is given nothing. -/
theorem eq_none_of_slots? {fields : List (Option String × Document)} {names : List String}
    {slots : List (Option Document)} {name : String} {slot : Option Document}
    (h : slots? names (.object fields) = some slots) (hmem : (name, slot) ∈ names.zip slots)
    (hname : some name ∉ fields.map (·.1)) : slot = none := by
  rw [slots?, Option.bind_eq_bind, Option.bind_eq_some_iff] at h
  obtain ⟨entries, hentries, h⟩ := h
  have hslot := (List.forall₂_iff_zip.mp (forall₂_of_mapM h)).2 hmem
  have hnone : entries.filter (·.1 == name) = [] := by
    rw [List.filter_eq_nil_iff]
    intro e he heq
    rw [← map_fst_of_keys? hentries] at hname
    exact hname (beq_iff_eq.mp heq ▸ List.mem_map_of_mem he)
  rw [slot?, hnone] at hslot
  exact (Option.some.inj hslot).symm

theorem eq_default_of_slots? {α : Type} {fields : List (Option String × Document)}
    {names : List String} {slots : List (Option Document)} {name : String}
    {slot : Option Document} {read : Document → Option α} {a fallback : α}
    (h : slots? names (.object fields) = some slots) (hmem : (name, slot) ∈ names.zip slots)
    (hname : some name ∉ fields.map (·.1)) (hread : defaulted read fallback slot = some a) :
    a = fallback := by
  rw [eq_none_of_slots? h hmem hname] at hread
  exact (Option.some.inj hread).symm

/-- What an object lists is found in its slots, in the order of the fields. -/
theorem Lists.slots?_eq {names : List String} {slots : List (Option Document)} {d : Document}
    (h : Lists names slots d) (hnames : names.Nodup) (hlength : names.length = slots.length) :
    d.slots? names = some slots := by
  obtain ⟨hextras, hentries⟩ := h
  rename_i entries extras
  rw [record, slots?, keys?_record]
  refine mapM_eq_some (List.forall₂_iff_zip.mpr ⟨hlength, ?_⟩)
  intro name slot hmem
  refine slot?_eq ?_
  have hperm := hentries.filter (·.1 == name)
  have hnone : extras.filter (·.1 == name) = [] := by
    rw [List.filter_eq_nil_iff]
    intro e he heq
    exact hextras e he (beq_iff_eq.mp heq ▸ (List.of_mem_zip hmem).1)
  rw [List.filter_append, hnone, List.append_nil, filter_given hnames hmem] at hperm
  cases slot with
  | none => exact hperm.eq_nil
  | some d => exact hperm.eq_singleton

theorem lists_zip (names : List String) (docs : List Document) :
    Lists names (docs.map some) (record (names.zip docs)) := by
  have hgiven : given names (docs.map some) = names.zip docs := by
    rw [given, List.zip_map_right, List.filterMap_map]
    exact List.filterMap_some
  refine .mk (List.forall_mem_nil _) ?_
  rw [hgiven, List.append_nil]

/-! ## Layouts of values -/

/-- A field that has to be given. -/
def Requires (lays : Document → Prop) (slot : Option Document) : Prop :=
  ∃ d, slot = some d ∧ lays d

/-- A field that may be left out if it holds its default. -/
def Allows (isDefault : Prop) (lays : Document → Prop) (slot : Option Document) : Prop :=
  Requires lays slot ∨ (isDefault ∧ slot = none)

/-- An object whose slots are what the fields of a record may be given. -/
def LaysRecord (names : List String) (fields : List (Option Document → Prop)) (d : Document) :
    Prop :=
  ∃ slots, Lists names slots d ∧ List.Forall₂ (fun field slot => field slot) fields slots

def LaysBool (b : Bool) (d : Document) : Prop :=
  d = .bool b

def LaysString (s : String) (d : Document) : Prop :=
  d = .ofString s

def LaysUInt32 (n : UInt32) (d : Document) : Prop :=
  d = .ofNat n.toNat

def LaysUInt64 (n : UInt64) (d : Document) : Prop :=
  d = .ofNat n.toNat

/-- A name of a value, alone or as the only key of an object whose value is null. -/
def LaysName {α : Type} (read : String → Option α) (a : α) (d : Document) : Prop :=
  ∃ name, read name = some a ∧ (d = .ofString name ∨ d = record [(name, .null)])

/-- Null for nothing. -/
def LaysOption {α : Type} (lays : α → Document → Prop) : Option α → Document → Prop
  | none, d => d = .null
  | some a, d => lays a d

def LaysList {α : Type} (lays : α → Document → Prop) (as : List α) (d : Document) : Prop :=
  ∃ items, d = .array items ∧ List.Forall₂ lays as items

/-! ## Layouts are read back -/

theorem LaysRecord.exists_slots {names : List String} {fields : List (Option Document → Prop)}
    {d : Document} (h : LaysRecord names fields d) (hnames : names.Nodup)
    (hlength : names.length = fields.length) : ∃ slots, d.slots? names = some slots ∧
      List.Forall₂ (fun field slot => field slot) fields slots := by
  obtain ⟨slots, hlists, hslots⟩ := h
  exact ⟨slots, hlists.slots?_eq hnames (hlength.trans hslots.length_eq), hslots⟩

theorem LaysRecord.exists_fields {names : List String} {fields : List (Option Document → Prop)}
    {d : Document} (h : LaysRecord names fields d) : ∃ entries, d = .object entries := by
  obtain ⟨slots, hlists, _⟩ := h
  cases hlists
  exact ⟨_, rfl⟩

theorem LaysBool.toBool?_eq {b : Bool} {d : Document} (h : LaysBool b d) : d.toBool? = some b := by
  rw [LaysBool] at h
  rw [h]
  rfl

theorem LaysString.toString?_eq {s : String} {d : Document} (h : LaysString s d) :
    d.toString? = some s := by
  rw [LaysString] at h
  rw [h]
  rfl

theorem toIntIn?_ofNat {n greatest : Nat} (h : n ≤ greatest) :
    (ofNat n).toIntIn? 0 greatest = some (n : Int) :=
  if_pos ⟨Int.natCast_nonneg n, Int.ofNat_le.mpr h⟩

theorem toUInt32?_ofNat (n : UInt32) : (ofNat n.toNat).toUInt32? = some n := by
  have hn := n.toNat_lt_size
  rw [toUInt32?, toIntIn?_ofNat (by omega)]
  simp

theorem toUInt64?_ofNat (n : UInt64) : (ofNat n.toNat).toUInt64? = some n := by
  have hn := n.toNat_lt_size
  rw [toUInt64?, toIntIn?_ofNat (by omega)]
  simp

theorem toInt64?_ofInt (i : Int64) : (ofInt i.toInt).toInt64? = some i := by
  have hlow := Int64.minValue_le i
  have hhigh := Int64.le_maxValue i
  rw [Int64.le_iff_toInt_le] at hlow hhigh
  simp only [toInt64?, toIntIn?, ofInt]
  rw [if_pos ⟨hlow, hhigh⟩]
  simp

theorem LaysUInt32.toUInt32?_eq {n : UInt32} {d : Document} (h : LaysUInt32 n d) :
    d.toUInt32? = some n := by
  rw [LaysUInt32] at h
  rw [h, toUInt32?_ofNat]

theorem LaysUInt64.toUInt64?_eq {n : UInt64} {d : Document} (h : LaysUInt64 n d) :
    d.toUInt64? = some n := by
  rw [LaysUInt64] at h
  rw [h, toUInt64?_ofNat]

theorem LaysName.toName?_bind {α : Type} {read : String → Option α} {a : α} {d : Document}
    (h : LaysName read a d) : d.toName?.bind read = some a := by
  obtain ⟨name, hname, rfl | rfl⟩ := h
  · exact hname
  · exact hname

variable {α : Type} {read : Document → Option α} {slot : Option Document} {d : Document}

theorem required_eq {lays : Document → Prop} {a : α} (h : Requires lays slot)
    (hread : ∀ d, lays d → read d = some a) : required read slot = some a := by
  obtain ⟨d, rfl, hd⟩ := h
  exact hread d hd

theorem defaulted_eq {isDefault : Prop} {lays : Document → Prop} {a fallback : α}
    (h : Allows isDefault lays slot) (hdefault : isDefault → a = fallback)
    (hread : ∀ d, lays d → read d = some a) : defaulted read fallback slot = some a := by
  rcases h with ⟨d, rfl, hd⟩ | ⟨h, rfl⟩
  · exact hread d hd
  · rw [hdefault h]
    rfl

theorem toOption?_eq {lays : α → Document → Prop} {o : Option α} (h : LaysOption lays o d)
    (hread : ∀ a, o = some a → ∀ d, lays a d → read d = some a) (hnull : read .null = none) :
    toOption? read d = some o := by
  cases o with
  | none =>
    obtain rfl : d = .null := h
    rfl
  | some a =>
    have hd := hread a rfl d h
    have hsome : toOption? read d = (read d).map some := by
      cases d with
      | null => rw [hnull] at hd; cases hd
      | _ => rfl
    rw [hsome, hd]
    rfl

/-- An optional field is null, left out, or given its value. -/
theorem optional_eq {lays : α → Document → Prop} {o : Option α}
    (h : Allows (o = none) (LaysOption lays o) slot)
    (hread : ∀ a, o = some a → ∀ d, lays a d → read d = some a) (hnull : read .null = none) :
    defaulted (toOption? read) none slot = some o :=
  defaulted_eq h id fun _ hd => toOption?_eq hd hread hnull

theorem toList?_eq {lays : α → Document → Prop} {as : List α} (h : LaysList lays as d)
    (hread : ∀ a ∈ as, ∀ d, lays a d → read d = some a) : toList? read d = some as := by
  obtain ⟨items, rfl, hitems⟩ := h
  refine mapM_eq_some ?_
  induction hitems with
  | nil => exact .nil
  | cons ha _ ih =>
    obtain ⟨hread, hreads⟩ := List.forall_mem_cons.mp hread
    exact .cons (hread _ ha) (ih hreads)

/-! ## Written values -/

theorem requires_some {lays : Document → Prop} {d : Document} (h : lays d) :
    Requires lays (some d) :=
  ⟨d, rfl, h⟩

theorem allows_some {isDefault : Prop} {lays : Document → Prop} {d : Document} (h : lays d) :
    Allows isDefault lays (some d) :=
  .inl (requires_some h)

/-- A record that is written with all its fields is laid out. -/
theorem laysRecord_zip {names : List String} {fields : List (Option Document → Prop)}
    {docs : List Document} (h : List.Forall₂ (fun field d => field (some d)) fields docs) :
    LaysRecord names fields (record (names.zip docs)) :=
  ⟨docs.map some, lists_zip names docs, List.forall₂_map_right_iff.mpr h⟩

theorem laysOption_ofOption {lays : α → Document → Prop} {write : α → Document} {o : Option α}
    (h : ∀ a, o = some a → lays a (write a)) : LaysOption lays o (ofOption write o) := by
  cases o with
  | none => rfl
  | some a => exact h a rfl

theorem laysList_map {lays : α → Document → Prop} {write : α → Document} {as : List α}
    (h : ∀ a ∈ as, lays a (write a)) : LaysList lays as (.array (as.map write)) := by
  refine ⟨as.map write, rfl, List.forall₂_map_right_iff.mpr ?_⟩
  exact List.forall₂_same.mpr h

theorem writesItself_zip {names : List String} {docs : List Document}
    (h : ∀ d ∈ docs, d.WritesItself) : (record (names.zip docs)).WritesItself :=
  writesItself_record fun _ he => h _ (List.of_mem_zip he).2

theorem writesItself_ofOption {write : α → Document} {o : Option α}
    (h : ∀ a, o = some a → (write a).WritesItself) : (ofOption write o).WritesItself := by
  cases o with
  | none => exact writesItself_null
  | some a => exact h a rfl

theorem writesItself_map {write : α → Document} {as : List α}
    (h : ∀ a ∈ as, (write a).WritesItself) : (Document.array (as.map write)).WritesItself :=
  writesItself_array (List.forall_mem_map.mpr h)

theorem writesItself_ofString (s : String) : (ofString s).WritesItself :=
  writesItself_string s

theorem writesItself_ofNat_lt {n : Nat} (h : n < UInt64.size) : (ofNat n).WritesItself := by
  have hleast : Int64.minValue.toInt ≤ 0 := by decide
  refine writesItself_ofInt ?_ ?_
  · omega
  · omega

theorem writesItself_ofNat (n : UInt32) : (ofNat n.toNat).WritesItself := by
  have hsizes : UInt32.size ≤ UInt64.size := by decide
  exact writesItself_ofNat_lt (n.toNat_lt_size.trans_le hsizes)

theorem writesItself_ofUInt64 (n : UInt64) : (ofNat n.toNat).WritesItself :=
  writesItself_ofNat_lt n.toNat_lt_size

theorem writesItself_ofInt64 (i : Int64) : (ofInt i.toInt).WritesItself := by
  have hlow := Int64.le_iff_toInt_le.mp (Int64.minValue_le i)
  have hhigh := Int64.le_iff_toInt_le.mp (Int64.le_maxValue i)
  have hgreatest : Int64.maxValue.toInt < UInt64.size := by decide
  exact writesItself_ofInt hlow (hhigh.trans_lt hgreatest)

end SqlCompose.Json.Document
