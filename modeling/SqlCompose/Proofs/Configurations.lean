import SqlCompose.Config
import SqlCompose.Proofs.Descriptors

/-!
# Configurations are read in one normal form

The order of the fields, unknown fields, fields that are left out and the further name of
PostgreSQL leave no trace in a configuration that is read. No text is read as a configuration
whose default operator is blank, and every other configuration is read back from what it is
written as.
-/

namespace SqlCompose

open Json Document

namespace Config

variable {c : Config} {d : Document} {text : String}

/-- The reader of a field that holds a name. -/
theorem named_eq {α : Type} {read : String → Option α} {a : α} (h : LaysName read a d) :
    ofDocument?.named read d = some a :=
  h.toName?_bind

/-- A configuration: every field may be left out if it holds its default. -/
def LaidOut (c : Config) : Document → Prop :=
  LaysRecord fieldNames [
    Allows (c.dialect = .postgres) (LaysName DialectName.ofName? c.dialect),
    Allows (c.operator = "=") (LaysString c.operator),
    Allows (c.connective = .and) (LaysName Connective.ofName? c.connective),
    Allows (c.offset = 1) (LaysUInt64 c.offset)]

/-! ## Reading -/

/-- What is read from the slots of a document. -/
theorem ofDocument?_eq_some_iff : ofDocument? d = some c ↔
    ∃ dialect operator connective offset,
      d.slots? fieldNames = some [dialect, operator, connective, offset] ∧
      defaulted (ofDocument?.named DialectName.ofName?) .postgres dialect = some c.dialect ∧
      defaulted toString? "=" operator = some c.operator ∧
      defaulted (ofDocument?.named Connective.ofName?) .and connective = some c.connective ∧
      defaulted toUInt64? 1 offset = some c.offset := by
  constructor
  · intro h
    rw [ofDocument?, Option.bind_eq_bind, Option.bind_eq_some_iff] at h
    obtain ⟨slots, hslots, h⟩ := h
    split at h
    · simp only [Option.bind_eq_bind, Option.bind_eq_some_iff, Option.pure_def,
        Option.some.injEq] at h
      obtain ⟨_, hdialect, _, hoperator, _, hconnective, _, hoffset, rfl⟩ := h
      exact ⟨_, _, _, _, hslots, hdialect, hoperator, hconnective, hoffset⟩
    · cases h
  · rintro ⟨dialect, operator, connective, offset, hslots, hdialect, hoperator, hconnective,
      hoffset⟩
    rw [ofDocument?, hslots, Option.bind_eq_bind, Option.bind_some]
    dsimp only
    rw [hdialect, hoperator, hconnective, hoffset]
    rfl

theorem LaidOut.ofDocument? (h : c.LaidOut d) : Config.ofDocument? d = some c := by
  obtain ⟨slots, hread, hslots⟩ := h.exists_slots (by decide) rfl
  obtain _ | ⟨hdialect, _ | ⟨hoperator, _ | ⟨hconnective, _ | ⟨hoffset, _ | _⟩⟩⟩⟩ := hslots
  refine ofDocument?_eq_some_iff.mpr ⟨_, _, _, _, hread, ?_, ?_, ?_, ?_⟩
  · exact defaulted_eq hdialect id fun _ => named_eq
  · exact defaulted_eq hoperator id fun _ => LaysString.toString?_eq
  · exact defaulted_eq hconnective id fun _ => named_eq
  · exact defaulted_eq hoffset id fun _ => LaysUInt64.toUInt64?_eq

theorem validate_eq_ok_iff {c' : Config} : c'.validate = .ok c ↔
    c' = c ∧ ∃ char ∈ c'.operator.toList, char.toNat ∉ Text.whiteSpace := by
  rw [← Text.isBlank_eq_false_iff, validate]
  cases Text.isBlank c'.operator <;> simp

theorem validate_eq_error_iff : c.validate = .error .emptyDefaultOperator ↔
    ∀ char ∈ c.operator.toList, char.toNat ∈ Text.whiteSpace := by
  rw [← Text.isBlank_iff, validate]
  cases Text.isBlank c.operator <;> simp

theorem parse_eq_ok_iff : parse text = .ok c ↔
    (Document.ofString? text).bind Config.ofDocument? = some c ∧ c.validate = .ok c := by
  unfold parse
  cases (Document.ofString? text).bind Config.ofDocument? with
  | none => simp
  | some c' =>
    constructor
    · intro h
      obtain rfl := (validate_eq_ok_iff.mp h).1
      exact ⟨rfl, h⟩
    · rintro ⟨hread, h⟩
      cases hread
      exact h

/-- Every field that the object of a text does not name is read as its default. -/
theorem eq_default_of_parse {fields : List (Option String × Document)}
    (htext : Document.ofString? text = some (.object fields)) (h : parse text = .ok c) :
    (some "dialect" ∉ fields.map (·.1) → c.dialect = .postgres) ∧
    (some "operator" ∉ fields.map (·.1) → c.operator = "=") ∧
    (some "connective" ∉ fields.map (·.1) → c.connective = .and) ∧
    (some "offset" ∉ fields.map (·.1) → c.offset = 1) := by
  have hread := (parse_eq_ok_iff.mp h).1
  rw [htext, Option.bind_some, ofDocument?_eq_some_iff] at hread
  obtain ⟨dialect, operator, connective, offset, hslots, hdialect, hoperator, hconnective,
    hoffset⟩ := hread
  refine ⟨fun hname => ?_, fun hname => ?_, fun hname => ?_, fun hname => ?_⟩
  · exact eq_default_of_slots? hslots (by simp [fieldNames]) hname hdialect
  · exact eq_default_of_slots? hslots (by simp [fieldNames]) hname hoperator
  · exact eq_default_of_slots? hslots (by simp [fieldNames]) hname hconnective
  · exact eq_default_of_slots? hslots (by simp [fieldNames]) hname hoffset

/-! ## Writing -/

theorem laidOut_toDocument (c : Config) : c.LaidOut c.toDocument := by
  have hdialect : LaysName DialectName.ofName? c.dialect (.ofString c.dialect.name) :=
    ⟨_, DialectName.ofName?_name c.dialect, .inl rfl⟩
  have hconnective : LaysName Connective.ofName? c.connective (.ofString c.connective.name) :=
    ⟨_, Connective.ofName?_of_name c.connective, .inl rfl⟩
  refine laysRecord_zip ?_
  exact .cons (allows_some hdialect) <| .cons (allows_some rfl) <|
    .cons (allows_some hconnective) <| .cons (allows_some rfl) .nil

theorem writesItself (c : Config) : c.toDocument.WritesItself := by
  refine writesItself_zip ?_
  simp only [List.forall_mem_cons]
  exact ⟨writesItself_ofString _, writesItself_ofString _, writesItself_ofString _,
    writesItself_ofUInt64 _, List.forall_mem_nil _⟩

theorem survives (c : Config) : Survives Config.ofDocument? Config.toDocument Config.LaidOut c :=
  .of_reads (fun _ hd => hd.ofDocument?) c.laidOut_toDocument c.writesItself

theorem LaidOut.parse_eq (h : c.LaidOut d) (htext : d.Spells text) :
    parse text = c.validate := by
  rw [parse, c.survives.laidOut d text h htext]

theorem parse_write (c : Config) : parse c.write = c.validate := by
  rw [parse, write, c.survives.written]

end Config

/-- What a configuration is written as is read back unless its operator is nothing but white space,
which is an error, and so is every other text that lays it out. A configuration that is read is
valid, holds the defaults of new builders in the fields that an object leaves out, and is read back
from what it is written as. -/
theorem configurations_are_read_in_normal_form :
    (∀ c : Config, (∃ char ∈ c.operator.toList, char.toNat ∉ Text.whiteSpace) →
      Config.parse c.write = .ok c) ∧
    (∀ c : Config, (∀ char ∈ c.operator.toList, char.toNat ∈ Text.whiteSpace) →
      Config.parse c.write = .error .emptyDefaultOperator) ∧
    (∀ (c : Config) (d : Document) (text : String), c.LaidOut d → d.Spells text →
      Config.parse text = Config.parse c.write) ∧
    ∀ (text : String) (c : Config), Config.parse text = .ok c →
      c.validate = .ok c ∧ Config.parse c.write = .ok c ∧
      ∀ fields, Document.ofString? text = some (.object fields) →
        (some "dialect" ∉ fields.map (·.1) → c.dialect = .postgres) ∧
        (some "operator" ∉ fields.map (·.1) → c.options.operator = ({} : Options).operator) ∧
        (some "connective" ∉ fields.map (·.1) →
          c.options.connective = ({} : Options).connective) ∧
        (some "offset" ∉ fields.map (·.1) → c.options.offset = ({} : Options).offset) := by
  refine ⟨?_, ?_, ?_, ?_⟩
  · intro c hmore
    rw [Config.parse_write]
    exact Config.validate_eq_ok_iff.mpr ⟨rfl, hmore⟩
  · intro c hwhite
    rw [Config.parse_write]
    exact Config.validate_eq_error_iff.mpr hwhite
  · intro c d text hd htext
    rw [hd.parse_eq htext, Config.parse_write]
  · intro text c h
    have hvalid := (Config.parse_eq_ok_iff.mp h).2
    refine ⟨hvalid, (Config.parse_write c).trans hvalid, ?_⟩
    intro fields hfields
    obtain ⟨hdialect, hoperator, hconnective, hoffset⟩ := Config.eq_default_of_parse hfields h
    refine ⟨hdialect, hoperator, hconnective, fun hname => ?_⟩
    rw [Config.options, hoffset hname]
    rfl

/-- The fields in reverse order after an unknown one, the connective as a key, the further name of
PostgreSQL and no operator. An operator of white space is refused. -/
theorem configurations_are_read_in_normal_form_postgresql :
    let unknown : String × Document := ("x", .bool true)
    let d : Document := record [unknown, ("offset", .ofNat 3),
      ("connective", record [("or", .null)]), ("dialect", .ofString "postgresql")]
    let c : Config := { connective := .or, offset := 3 }
    let blank : Config := { operator := "\u2003" }
    Config.parse d.write = .ok c ∧ c.validate = .ok c ∧ Config.parse c.write = .ok c ∧
    c.options.operator = ({} : Options).operator ∧
    Config.parse blank.write = .error .emptyDefaultOperator := by
  intro unknown d c blank
  obtain ⟨hwrite, hblank, hlaid, hread⟩ := configurations_are_read_in_normal_form
  have hd : c.LaidOut d := by
    have hunknown : ∀ e ∈ [unknown], e.1 ∉ Config.fieldNames := by
      simp [unknown, Config.fieldNames]
    have hentries := List.reverse_perm [("dialect", .ofString "postgresql"),
      ("connective", record [("or", .null)]), ("offset", .ofNat 3), unknown]
    refine ⟨[some (.ofString "postgresql"), none, some (record [("or", .null)]), some (.ofNat 3)],
      .mk hunknown hentries, ?_⟩
    have hdialect : LaysName DialectName.ofName? c.dialect (.ofString "postgresql") :=
      ⟨"postgresql", rfl, .inl rfl⟩
    have hconnective : LaysName Connective.ofName? c.connective (record [("or", .null)]) :=
      ⟨"or", rfl, .inr rfl⟩
    exact .cons (allows_some hdialect) <| .cons (.inr ⟨rfl, rfl⟩) <|
      .cons (allows_some hconnective) <| .cons (allows_some rfl) .nil
  have htext : d.WritesItself := by
    refine writesItself_record ?_
    simp only [List.forall_mem_cons]
    exact ⟨writesItself_bool true, writesItself_ofUInt64 3,
      writesItself_record (by simpa using writesItself_null), writesItself_ofString _,
      List.forall_mem_nil _⟩
  have hc : Config.parse d.write = .ok c := by
    rw [hlaid c d d.write hd htext]
    exact hwrite c (by simp [c, Text.whiteSpace])
  obtain ⟨hvalid, hback, hdefaults⟩ := hread d.write c hc
  obtain ⟨-, hoperator, -⟩ := hdefaults _ htext.ofString?
  have hwhite : ∀ char ∈ "\u2003".toList, char.toNat ∈ Text.whiteSpace := by
    simp [Text.whiteSpace]
  exact ⟨hc, hvalid, hback, hoperator (by decide), hblank blank hwhite⟩

end SqlCompose
