import SqlCompose.Proofs.Layouts
import SqlCompose.Schema.Json

/-!
# Descriptors are read back

A column, an index or a primary key is read back from every text that lays it
out, and so from the text it is written as: the descriptors can be moved between
programs that do not agree on the order of fields, on defaults or on escapes.
-/

namespace SqlCompose

open Json Document

/-! ## Layouts -/

/-- A default value: its kind and its value, which null may leave out. -/
def DefaultValue.LaidOut (v : DefaultValue) : Document → Prop :=
  LaysRecord ["kind", "value"] [
    Requires (LaysString v.kindName), Allows (v = .null) (· = v.content)]

/-- A column, in the order of its fields: those without a default have to be given. -/
def Column.LaidOut (c : Column) : Document → Prop :=
  LaysRecord fieldNames [
    Requires (LaysString c.table),
    Requires (LaysString c.name),
    Requires (LaysString c.type),
    Allows (c.nullable = false) (LaysBool c.nullable),
    Allows (c.defaultValue = none) (LaysOption DefaultValue.LaidOut c.defaultValue),
    Allows (c.length = none) (LaysOption LaysUInt32 c.length),
    Allows (c.precision = none) (LaysOption LaysUInt32 c.precision),
    Allows (c.scale = none) (LaysOption LaysUInt32 c.scale),
    Allows (c.datetimePrecision = none) (LaysOption LaysUInt32 c.datetimePrecision),
    Allows (c.collation = none) (LaysOption LaysString c.collation),
    Allows (c.comment = none) (LaysOption LaysString c.comment),
    Allows (c.marker = none) (LaysOption LaysString c.marker),
    Allows (c.options = []) (LaysList LaysString c.options)]

/-- An index; each of its columns may have a layout of its own. -/
def Index.LaidOut (i : Index) : Document → Prop :=
  LaysRecord fieldNames [
    Requires (LaysString i.table),
    Requires (LaysString i.name),
    Requires (LaysString i.kind),
    Requires (LaysList Column.LaidOut i.columns),
    Allows (i.comment = none) (LaysOption LaysString i.comment)]

def PrimaryKey.LaidOut (p : PrimaryKey) : Document → Prop :=
  LaysRecord fieldNames [
    Requires (LaysString p.table),
    Requires (LaysString p.name),
    Requires (LaysList Column.LaidOut p.columns)]

/-- The default of a column is no double. -/
def Column.HasNoFloat (c : Column) : Prop :=
  ∀ x, c.defaultValue ≠ some (.float x)

/-! ## Reading -/

namespace DefaultValue

theorem ofKind?_content {v : DefaultValue} (hv : ∀ x, v ≠ .float x) :
    ofKind? v.kindName (some v.content) = some v := by
  cases v with
  | null => rfl
  | boolean b => rfl
  | integer i => simp [ofKind?, kindName, content, toInt64?_ofInt]
  | float x => exact absurd rfl (hv x)
  | string s => rfl
  | expression sql => rfl

theorem ofDocument?_of_slots {d : Document} {kind value : Option Document}
    (hobject : ∃ fields, d = .object fields) (h : d.slots? ["kind", "value"] = some [kind, value]) :
    DefaultValue.ofDocument? d = (required toName? kind).bind (ofKind? · value) := by
  obtain ⟨fields, rfl⟩ := hobject
  rw [slots?, Option.bind_eq_bind, Option.bind_eq_some_iff] at h
  obtain ⟨keys, hkeys, h⟩ := h
  simp only [List.mapM_cons, List.mapM_nil, Option.bind_eq_bind, Option.bind_eq_some_iff,
    Option.pure_def, Option.some.injEq, List.cons.injEq] at h
  obtain ⟨kind, hkind, _, ⟨value, hvalue, _, rfl, rfl⟩, rfl, rfl, _⟩ := h
  rw [DefaultValue.ofDocument?, Option.bind_eq_bind, hkeys, Option.bind_some]
  rw [Option.bind_eq_bind, hkind, Option.bind_some, Option.bind_eq_bind, hvalue, Option.bind_some]

theorem LaidOut.ofDocument? {v : DefaultValue} {d : Document} (h : v.LaidOut d)
    (hv : ∀ x, v ≠ .float x) : DefaultValue.ofDocument? d = some v := by
  obtain ⟨slots, hread, hslots⟩ := h.exists_slots (by decide) rfl
  obtain _ | ⟨⟨kind, rfl, rfl⟩, _ | ⟨hvalue, _ | _⟩⟩ := hslots
  rw [ofDocument?_of_slots h.exists_fields hread]
  change ofKind? v.kindName _ = some v
  obtain ⟨value, rfl, rfl⟩ | ⟨rfl, rfl⟩ := hvalue
  · exact ofKind?_content hv
  · rfl

end DefaultValue

theorem Column.LaidOut.ofDocument? {c : Column} {d : Document} (h : c.LaidOut d)
    (hc : c.HasNoFloat) : Column.ofDocument? d = some c := by
  obtain ⟨slots, hread, hslots⟩ := h.exists_slots (by decide) rfl
  obtain _ | ⟨htable, _ | ⟨hname, _ | ⟨htype, _ | ⟨hnullable, _ | ⟨hdefault, _ | ⟨hlength,
    _ | ⟨hprecision, _ | ⟨hscale, _ | ⟨hdatetime, _ | ⟨hcollation, _ | ⟨hcomment, _ | ⟨hmarker,
    _ | ⟨hoptions, _ | _⟩⟩⟩⟩⟩⟩⟩⟩⟩⟩⟩⟩⟩ := hslots
  -- The slots are read one by one; which reader a slot needs follows from what it may hold.
  have hstring : ∀ {o : Option String} {slot},
      Allows (o = none) (LaysOption LaysString o) slot →
      ofDocument?.optional toString? slot = some o :=
    fun h => optional_eq h (fun _ _ _ => LaysString.toString?_eq) rfl
  have hsize : ∀ {o : Option UInt32} {slot},
      Allows (o = none) (LaysOption LaysUInt32 o) slot →
      ofDocument?.optional toUInt32? slot = some o :=
    fun h => optional_eq h (fun _ _ _ => LaysUInt32.toUInt32?_eq) rfl
  have hvalue : ∀ v, c.defaultValue = some v → ∀ d, v.LaidOut d →
      DefaultValue.ofDocument? d = some v :=
    fun v hv d hd => hd.ofDocument? fun x hx => hc x (hx ▸ hv)
  have hdefault : ofDocument?.optional DefaultValue.ofDocument? _ = some c.defaultValue :=
    optional_eq hdefault hvalue rfl
  have hoptions : defaulted (toList? toString?) [] _ = some c.options :=
    defaulted_eq hoptions id fun _ hd => toList?_eq hd fun _ _ _ => LaysString.toString?_eq
  rw [Column.ofDocument?, hread, Option.bind_eq_bind, Option.bind_some]
  dsimp only
  rw [required_eq htable fun _ => LaysString.toString?_eq,
    required_eq hname fun _ => LaysString.toString?_eq,
    required_eq htype fun _ => LaysString.toString?_eq,
    defaulted_eq hnullable id fun _ => LaysBool.toBool?_eq, hdefault, hsize hlength,
    hsize hprecision, hsize hscale, hsize hdatetime, hstring hcollation, hstring hcomment,
    hstring hmarker, hoptions]
  rfl

theorem laysList_columns {columns : List Column} {d : Document}
    (h : LaysList Column.LaidOut columns d) (hcolumns : ∀ c ∈ columns, c.HasNoFloat) :
    toList? Column.ofDocument? d = some columns :=
  toList?_eq h fun c hc _ hd => hd.ofDocument? (hcolumns c hc)

theorem Index.LaidOut.ofDocument? {i : Index} {d : Document} (h : i.LaidOut d)
    (hi : ∀ c ∈ i.columns, c.HasNoFloat) : Index.ofDocument? d = some i := by
  obtain ⟨slots, hread, hslots⟩ := h.exists_slots (by decide) rfl
  obtain _ | ⟨htable, _ | ⟨hname, _ | ⟨hkind, _ | ⟨hcolumns, _ | ⟨hcomment, _ | _⟩⟩⟩⟩⟩ := hslots
  rw [Index.ofDocument?, hread, Option.bind_eq_bind, Option.bind_some]
  dsimp only
  rw [required_eq htable fun _ => LaysString.toString?_eq,
    required_eq hname fun _ => LaysString.toString?_eq,
    required_eq hkind fun _ => LaysString.toString?_eq,
    required_eq hcolumns fun _ hd => laysList_columns hd hi,
    optional_eq hcomment (fun _ _ _ => LaysString.toString?_eq) rfl]
  rfl

theorem PrimaryKey.LaidOut.ofDocument? {p : PrimaryKey} {d : Document} (h : p.LaidOut d)
    (hp : ∀ c ∈ p.columns, c.HasNoFloat) : PrimaryKey.ofDocument? d = some p := by
  obtain ⟨slots, hread, hslots⟩ := h.exists_slots (by decide) rfl
  obtain _ | ⟨htable, _ | ⟨hname, _ | ⟨hcolumns, _ | _⟩⟩⟩ := hslots
  rw [PrimaryKey.ofDocument?, hread, Option.bind_eq_bind, Option.bind_some]
  dsimp only
  rw [required_eq htable fun _ => LaysString.toString?_eq,
    required_eq hname fun _ => LaysString.toString?_eq,
    required_eq hcolumns fun _ hd => laysList_columns hd hp]
  rfl

/-! ## Writing -/

namespace DefaultValue

theorem toDocument_eq {v : DefaultValue} (hv : v ≠ .null) :
    v.toDocument = record (["kind", "value"].zip [.ofString v.kindName, v.content]) := by
  cases v with
  | null => exact absurd rfl hv
  | _ => rfl

theorem laidOut_toDocument (v : DefaultValue) : v.LaidOut v.toDocument := by
  by_cases hv : v = .null
  · obtain rfl := hv
    exact ⟨[some (.ofString "null"), none], .mk (List.forall_mem_nil _) (.refl _),
      .cons (requires_some rfl) (.cons (.inr ⟨rfl, rfl⟩) .nil)⟩
  · rw [toDocument_eq hv]
    exact laysRecord_zip (.cons (requires_some rfl) (.cons (allows_some rfl) .nil))

theorem writesItself_content {v : DefaultValue} (hv : ∀ x, v ≠ .float x) :
    v.content.WritesItself := by
  cases v with
  | null => exact writesItself_null
  | boolean b => exact writesItself_bool b
  | integer i => exact writesItself_ofInt64 i
  | float x => exact absurd rfl (hv x)
  | string s => exact writesItself_ofString s
  | expression sql => exact writesItself_ofString sql

theorem writesItself {v : DefaultValue} (hv : ∀ x, v ≠ .float x) : v.toDocument.WritesItself := by
  by_cases hnull : v = .null
  · obtain rfl := hnull
    exact writesItself_record (by simpa using writesItself_ofString "null")
  · rw [toDocument_eq hnull]
    refine writesItself_zip ?_
    simpa using ⟨writesItself_ofString v.kindName, writesItself_content hv⟩

end DefaultValue

theorem Column.laidOut_toDocument (c : Column) : c.LaidOut c.toDocument := by
  have hstring : ∀ {o : Option String}, LaysOption LaysString o (toDocument.text o) :=
    laysOption_ofOption fun _ _ => rfl
  have hsize : ∀ {o : Option UInt32}, LaysOption LaysUInt32 o (toDocument.size o) :=
    laysOption_ofOption fun _ _ => rfl
  refine laysRecord_zip ?_
  exact .cons (requires_some rfl) <| .cons (requires_some rfl) <| .cons (requires_some rfl) <|
    .cons (allows_some rfl) <|
    .cons (allows_some (laysOption_ofOption fun v _ => v.laidOut_toDocument)) <|
    .cons (allows_some hsize) <| .cons (allows_some hsize) <| .cons (allows_some hsize) <|
    .cons (allows_some hsize) <| .cons (allows_some hstring) <| .cons (allows_some hstring) <|
    .cons (allows_some hstring) <| .cons (allows_some (laysList_map fun _ _ => rfl)) .nil

theorem Column.writesItself {c : Column} (hc : c.HasNoFloat) : c.toDocument.WritesItself := by
  have hstring : ∀ {o : Option String}, (toDocument.text o).WritesItself :=
    writesItself_ofOption fun s _ => writesItself_ofString s
  have hsize : ∀ {o : Option UInt32}, (toDocument.size o).WritesItself :=
    writesItself_ofOption fun n _ => writesItself_ofNat n
  have hdefault : (ofOption DefaultValue.toDocument c.defaultValue).WritesItself :=
    writesItself_ofOption fun v hv => DefaultValue.writesItself fun x hx => hc x (hx ▸ hv)
  refine writesItself_zip ?_
  simp only [List.forall_mem_cons]
  exact ⟨writesItself_ofString _, writesItself_ofString _, writesItself_ofString _,
    writesItself_bool _, hdefault, hsize, hsize, hsize, hsize, hstring, hstring, hstring,
    writesItself_map fun s _ => writesItself_ofString s, List.forall_mem_nil _⟩

theorem Index.laidOut_toDocument (i : Index) : i.LaidOut i.toDocument :=
  laysRecord_zip <| .cons (requires_some rfl) <| .cons (requires_some rfl) <|
    .cons (requires_some rfl) <|
    .cons (requires_some (laysList_map fun c _ => c.laidOut_toDocument)) <|
    .cons (allows_some (laysOption_ofOption fun _ _ => rfl)) .nil

theorem Index.writesItself {i : Index} (hi : ∀ c ∈ i.columns, c.HasNoFloat) :
    i.toDocument.WritesItself := by
  refine writesItself_zip ?_
  simp only [List.forall_mem_cons]
  exact ⟨writesItself_ofString _, writesItself_ofString _, writesItself_ofString _,
    writesItself_map fun c hc => Column.writesItself (hi c hc),
    writesItself_ofOption fun s _ => writesItself_ofString s, List.forall_mem_nil _⟩

theorem PrimaryKey.laidOut_toDocument (p : PrimaryKey) : p.LaidOut p.toDocument :=
  laysRecord_zip <| .cons (requires_some rfl) <| .cons (requires_some rfl) <|
    .cons (requires_some (laysList_map fun c _ => c.laidOut_toDocument)) .nil

theorem PrimaryKey.writesItself {p : PrimaryKey} (hp : ∀ c ∈ p.columns, c.HasNoFloat) :
    p.toDocument.WritesItself := by
  refine writesItself_zip ?_
  simp only [List.forall_mem_cons]
  exact ⟨writesItself_ofString _, writesItself_ofString _,
    writesItself_map fun c hc => Column.writesItself (hp c hc), List.forall_mem_nil _⟩

/-! ## Every layout -/

/-- A value is read back from every text that lays it out and from what it is written as. -/
structure Survives {α : Type} (read : Document → Option α) (write : α → Document)
    (LaidOut : α → Document → Prop) (a : α) : Prop where
  laidOut (d : Document) (text : String) (hd : LaidOut a d) (htext : d.Spells text) :
    (Document.ofString? text).bind read = some a
  written : (Document.ofString? (write a).write).bind read = some a

theorem Survives.of_reads {α : Type} {read : Document → Option α} {write : α → Document}
    {LaidOut : α → Document → Prop} {a : α} (hread : ∀ d, LaidOut a d → read d = some a)
    (hlaid : LaidOut a (write a)) (hwrite : (write a).WritesItself) :
    Survives read write LaidOut a := by
  have hlaidOut : ∀ d text, LaidOut a d → d.Spells text →
      (Document.ofString? text).bind read = some a := by
    intro d text hd htext
    rw [htext.ofString?]
    exact hread d hd
  exact ⟨hlaidOut, hlaidOut _ _ hlaid hwrite⟩

/-- Descriptors without doubles are read back from every layout. -/
theorem descriptors_survive :
    (∀ c : Column, c.HasNoFloat →
      Survives Column.ofDocument? Column.toDocument Column.LaidOut c) ∧
    (∀ i : Index, (∀ c ∈ i.columns, c.HasNoFloat) →
      Survives Index.ofDocument? Index.toDocument Index.LaidOut i) ∧
    (∀ p : PrimaryKey, (∀ c ∈ p.columns, c.HasNoFloat) →
      Survives PrimaryKey.ofDocument? PrimaryKey.toDocument PrimaryKey.LaidOut p) := by
  refine ⟨fun c hc => ?_, fun i hi => ?_, fun p hp => ?_⟩
  · exact .of_reads (fun d hd => hd.ofDocument? hc) c.laidOut_toDocument (Column.writesItself hc)
  · exact .of_reads (fun d hd => hd.ofDocument? hi) i.laidOut_toDocument (Index.writesItself hi)
  · exact .of_reads (fun d hd => hd.ofDocument? hp) p.laidOut_toDocument
      (PrimaryKey.writesItself hp)

/-- The fields of a key in reverse order after an unknown one, with blanks and other escapes than
the writer's. In what is written, no default, the default null and an empty comment differ. -/
theorem descriptors_survive_reversed :
    let text := "\x7b \"x\":true,\"columns\": [],\"n\\u0061me\":\"\"," ++
      "\"table_name\":\"\\ud83d\\uDE00\\/\"\x7d"
    let p : PrimaryKey := { table := "😀/", name := "", columns := [] }
    let c : Column := { table := "t", name := "c", type := "text" }
    let i : Index := {
      table := "t", name := "i", kind := ""
      columns := [c, c.withDefault .null, c.withDefault (.string ""), c.withComment ""] }
    (Document.ofString? text).bind PrimaryKey.ofDocument? = some p ∧
    (Document.ofString? c.toDocument.write).bind Column.ofDocument? = some c ∧
    (Document.ofString? i.toDocument.write).bind Index.ofDocument? = some i := by
  intro text p c i
  obtain ⟨hcolumns, hindexes, hkeys⟩ := descriptors_survive
  have hc : c.HasNoFloat := by
    intro x h
    cases h
  have hi : ∀ c ∈ i.columns, c.HasNoFloat := by
    simp [i, c, Column.HasNoFloat, Column.withDefault, Column.withComment]
  let unknown : String × Document := ("x", .bool true)
  let d : Document := record [unknown, ("columns", .array []), ("name", .ofString ""),
    ("table_name", .ofString "😀/")]
  have hd : p.LaidOut d := by
    have hunknown : ∀ e ∈ [unknown], e.1 ∉ PrimaryKey.fieldNames := by
      simp [unknown, PrimaryKey.fieldNames]
    have hentries := List.reverse_perm [("table_name", .ofString "😀/"), ("name", .ofString ""),
      ("columns", .array []), unknown]
    exact ⟨[some (.ofString "😀/"), some (.ofString ""), some (.array [])],
      .mk hunknown hentries, .cons (requires_some rfl) (.cons (requires_some rfl)
        (.cons (requires_some ⟨[], rfl, .nil⟩) .nil))⟩
  have hname : Token.Spells (.text (some "name")) "\"n\\u0061me\"".toList :=
    .text [.plain 'n' (by decide), .numeric '0' '0' '6' '1' 0x61 rfl, .plain 'm' (by decide),
      .plain 'e' (by decide)]
  have htable : Token.Spells (.text (some "😀/")) "\"\\ud83d\\uDE00\\/\"".toList :=
    .text [.numeric 'd' '8' '3' 'd' 0xD83D rfl, .numeric 'D' 'E' '0' '0' 0xDE00 rfl,
      .escaped '/' '/' rfl]
  have hblank : Token.isBlank ' ' := rfl
  have hnames := Token.SpellsAll.cons .comma (.cons hname (.cons .colon
    (.cons (spells_writeString "") (.cons .comma (.cons (spells_writeString "table_name")
      (.cons .colon (.cons htable (.cons .closeObject .nil))))))))
  have hall := Token.SpellsAll.cons .openObject (.blank hblank (.cons (spells_writeString "x")
    (.cons .colon (.cons .true (.cons .comma (.cons (spells_writeString "columns")
      (.cons .colon (.blank hblank (.cons .openArray (.cons .closeArray hnames))))))))))
  have hspells : ∀ cs, Token.SpellsAll d.tokens cs → cs = text.toList → d.Spells text := by
    rintro cs h rfl
    exact h
  have htext : d.Spells text := hspells _ hall (by simp only [text]; decide +kernel)
  exact ⟨(hkeys p (List.forall_mem_nil _)).laidOut d text hd htext, (hcolumns c hc).written,
    (hindexes i hi).written⟩

end SqlCompose
