import SqlCompose.Json.Document
import SqlCompose.Proofs.Tokens

/-!
# Documents are read as they are spelled

A document determines its tokens. Every text that spells them is read as the
document, and what the document is written as is such a text.
-/

namespace SqlCompose.Json.Document

open Text Token

/-! ## The tokens of a document -/

mutual

def tokens : Document → List Token
  | .null => [.null]
  | .bool b => [.bool b]
  | .number n => [.number n]
  | .string t => [.text t]
  | .array items => .openArray :: itemTokens items
  | .object fields => .openObject :: fieldTokens fields

/-- The tokens after the opening bracket. -/
def itemTokens : List Document → List Token
  | [] => [.closeArray]
  | d :: ds => d.tokens ++ furtherItemTokens ds

def furtherItemTokens : List Document → List Token
  | [] => [.closeArray]
  | d :: ds => .comma :: (d.tokens ++ furtherItemTokens ds)

/-- The tokens after the opening brace. -/
def fieldTokens : List (Option String × Document) → List Token
  | [] => [.closeObject]
  | (key, d) :: fields => .text key :: .colon :: (d.tokens ++ furtherFieldTokens fields)

def furtherFieldTokens : List (Option String × Document) → List Token
  | [] => [.closeObject]
  | (key, d) :: fields =>
    .comma :: .text key :: .colon :: (d.tokens ++ furtherFieldTokens fields)

end

/-- A text that spells the tokens of a document. -/
def Spells (d : Document) (text : String) : Prop :=
  SpellsAll d.tokens text.toList

/-! ## Words and numerals are separated

A mark stands between any two values, so that no blanks are needed anywhere. -/

/-- Tokens that may follow a value. -/
def Follows (ts : List Token) : Prop :=
  (∀ t ∈ ts.head?, ¬ t.isBare) ∧ Separated ts

theorem follows_cons {t : Token} {ts : List Token} (h : ¬ t.isBare) (hts : Separated ts) :
    Follows (t :: ts) :=
  ⟨fun _ ht => Option.some.inj ht ▸ h, List.isChain_cons.mpr ⟨fun _ _ hu => h hu.1, hts⟩⟩

theorem Follows.separated_cons {t : Token} {ts : List Token} (h : Follows ts) :
    Separated (t :: ts) :=
  List.isChain_cons.mpr ⟨fun u hu hbare => h.1 u hu hbare.2, h.2⟩

mutual

theorem separated_tokens {rest : List Token} (h : Follows rest) :
    (d : Document) → Separated (d.tokens ++ rest)
  | .null | .bool _ | .number _ | .string _ => h.separated_cons
  | .array [] => (follows_cons (by decide) (follows_cons (by decide) h.2).2).2
  | .array (d :: ds) => by
    rw [tokens, itemTokens, List.cons_append, List.append_assoc]
    exact (follows_cons (by decide) (separated_tokens (follows_furtherItems h.2 ds) d)).2
  | .object [] => (follows_cons (by decide) (follows_cons (by decide) h.2).2).2
  | .object ((key, d) :: fields) => by
    rw [tokens, fieldTokens, List.cons_append, List.cons_append, List.cons_append,
      List.append_assoc]
    have hd := separated_tokens (follows_furtherFields h.2 fields) d
    exact (follows_cons (by decide) (follows_cons (by simp [isBare])
      (follows_cons (by decide) hd).2).2).2

theorem follows_furtherItems {rest : List Token} (h : Separated rest) :
    (ds : List Document) → Follows (furtherItemTokens ds ++ rest)
  | [] => follows_cons (by decide) h
  | d :: ds => by
    rw [furtherItemTokens, List.cons_append, List.append_assoc]
    exact follows_cons (by decide) (separated_tokens (follows_furtherItems h ds) d)

theorem follows_furtherFields {rest : List Token} (h : Separated rest) :
    (fields : List (Option String × Document)) → Follows (furtherFieldTokens fields ++ rest)
  | [] => follows_cons (by decide) h
  | (key, d) :: fields => by
    rw [furtherFieldTokens, List.cons_append, List.cons_append, List.cons_append,
      List.append_assoc]
    have hd := separated_tokens (follows_furtherFields h fields) d
    exact follows_cons (by decide) (follows_cons (by simp [isBare])
      (follows_cons (by decide) hd).2).2

end

/-! ## The tokens are read -/

theorem run?_firstItem (d : Document) (frames : List Frame) (rest : List Token) :
    State.run? (.firstItem frames) (d.tokens ++ rest) =
      State.run? (.value (.item [] :: frames)) (d.tokens ++ rest) := by
  cases d <;> rfl

mutual

/-- A value is read after any containers that are still open. -/
theorem run?_tokens (frames : List Frame) (rest : List Token) :
    (d : Document) → State.run? (.value frames) (d.tokens ++ rest) =
      State.run? (State.place d frames) rest
  | .null | .bool _ | .number _ | .string _ => rfl
  | .array [] => rfl
  | .array (d :: ds) => by
    rw [tokens, itemTokens, List.cons_append, List.append_assoc]
    change State.run? (.firstItem frames) _ = _
    rw [run?_firstItem, run?_tokens]
    exact run?_furtherItemTokens [d] frames rest ds
  | .object [] => rfl
  | .object ((key, d) :: fields) => by
    rw [tokens, fieldTokens, List.cons_append, List.cons_append, List.cons_append,
      List.append_assoc]
    change State.run? (.value (.field [] key :: frames)) _ = _
    rw [run?_tokens]
    exact run?_furtherFieldTokens [(key, d)] frames rest fields

theorem run?_furtherItemTokens (before : List Document) (frames : List Frame)
    (rest : List Token) :
    (ds : List Document) → State.run? (.afterItem before frames) (furtherItemTokens ds ++ rest) =
      State.run? (State.place (.array (before.reverse ++ ds)) frames) rest
  | [] => by
    rw [List.append_nil]
    rfl
  | d :: ds => by
    rw [furtherItemTokens, List.cons_append, List.append_assoc]
    change State.run? (.value (.item before :: frames)) _ = _
    rw [run?_tokens, State.place, run?_furtherItemTokens, List.reverse_cons, List.append_assoc]
    rfl

theorem run?_furtherFieldTokens (before : List (Option String × Document)) (frames : List Frame)
    (rest : List Token) :
    (fields : List (Option String × Document)) →
      State.run? (.afterField before frames) (furtherFieldTokens fields ++ rest) =
        State.run? (State.place (.object (before.reverse ++ fields)) frames) rest
  | [] => by
    rw [List.append_nil]
    rfl
  | (key, d) :: fields => by
    rw [furtherFieldTokens, List.cons_append, List.cons_append, List.cons_append,
      List.append_assoc]
    change State.run? (.value (.field before key :: frames)) _ = _
    rw [run?_tokens, State.place, run?_furtherFieldTokens, List.reverse_cons, List.append_assoc]
    rfl

end

/-- Every text that spells a document is read as the document. -/
theorem Spells.ofString? {d : Document} {text : String} (h : d.Spells text) :
    Document.ofString? text = some d := by
  have hfollows : Follows [] := ⟨fun _ ht => (nomatch ht), List.isChain_nil⟩
  have htokens : Separated d.tokens := by
    have h := separated_tokens hfollows d
    rwa [List.append_nil] at h
  have hrun : State.run? (.value []) d.tokens = some (.complete d) := by
    have h := run?_tokens [] [] d
    rwa [List.append_nil] at h
  rw [Document.ofString?, Token.ofString?_spelled htokens h, Option.bind_some, ofTokens?, hrun]

/-! ## The written text -/

theorem spellsAll_append {ts us : List Token} {cs ds : List Char} (h : SpellsAll ts cs)
    (h' : SpellsAll us ds) : SpellsAll (ts ++ us) (cs ++ ds) := by
  induction h with
  | nil => exact h'
  | blank hc _ ih => exact .blank hc ih
  | cons ht _ ih =>
    rw [List.append_assoc]
    exact .cons ht ih

theorem spellsAll_singleton {t : Token} {cs : List Char} (h : Token.Spells t cs) :
    SpellsAll [t] cs := by
  have hcs := SpellsAll.cons h .nil
  rwa [List.append_nil] at hcs

/-- What a document is written as spells it. -/
def WritesItself (d : Document) : Prop :=
  d.Spells d.write

theorem writesItself_null : WritesItself .null :=
  spellsAll_singleton .null

theorem writesItself_bool (b : Bool) : WritesItself (.bool b) := by
  cases b with
  | true => exact spellsAll_singleton .true
  | false => exact spellsAll_singleton .false

theorem writesItself_ofInt {i : Int} (hlow : Int64.minValue.toInt ≤ i) (hhigh : i < UInt64.size) :
    WritesItself (.number (.int i)) := by
  obtain ⟨n, hn, hvalue⟩ := Numeral.exists_spells_toString hlow hhigh
  have h := spellsAll_singleton (.number hn)
  rw [hvalue] at h
  exact h

theorem unitOf?_hexDigits {n : Nat} (h : n < 0x20) :
    unitOf? '0' '0' (hexDigit (n / 16)) (hexDigit (n % 16)) = some n := by
  interval_cases n <;> rfl

/-- The piece that a character is written as. -/
theorem exists_piece (c : Char) : ∃ p : Piece, p.chars = escapeChar c ∧
    ∀ ps, Piece.textAfter? none (p :: ps) = (Piece.textAfter? none ps).map (c :: ·) := by
  rw [escapeChar]
  split_ifs with hquote hslash hback htab hline hfeed hreturn hcontrol
  · exact ⟨.escaped '\x22' c (by rw [hquote]; rfl), rfl, fun _ => rfl⟩
  · exact ⟨.escaped '\\' c (by rw [hslash]; rfl), rfl, fun _ => rfl⟩
  · exact ⟨.escaped 'b' c (by rw [hback]; rfl), rfl, fun _ => rfl⟩
  · exact ⟨.escaped 't' c (by rw [htab]; rfl), rfl, fun _ => rfl⟩
  · exact ⟨.escaped 'n' c (by rw [hline]; rfl), rfl, fun _ => rfl⟩
  · exact ⟨.escaped 'f' c (by rw [hfeed]; rfl), rfl, fun _ => rfl⟩
  · exact ⟨.escaped 'r' c (by rw [hreturn]; rfl), rfl, fun _ => rfl⟩
  · refine ⟨.numeric _ _ _ _ c.toNat (unitOf?_hexDigits hcontrol), rfl, fun ps => ?_⟩
    have hlead : ¬ Piece.IsLead c.toNat := fun h => by have := h.1; omega
    have htrail : ¬ Piece.IsTrail c.toNat := fun h => by have := h.1; omega
    rw [Piece.textAfter?, if_neg hlead, if_neg htrail, Char.ofNat_toNat]
  · exact ⟨.plain c ⟨hquote, hslash, hcontrol⟩, rfl, fun _ => rfl⟩

theorem exists_pieces (cs : List Char) : ∃ ps : List Piece,
    ps.flatMap Piece.chars = cs.flatMap escapeChar ∧ Piece.textAfter? none ps = some cs := by
  induction cs with
  | nil => exact ⟨[], rfl, rfl⟩
  | cons c cs ih =>
    obtain ⟨p, hp, htext⟩ := exists_piece c
    obtain ⟨ps, hps, htexts⟩ := ih
    exact ⟨p :: ps, by simp [hp, hps], by rw [htext, htexts]; rfl⟩

theorem spells_writeString (s : String) :
    Token.Spells (.text (some s)) (writeString s).toList := by
  obtain ⟨ps, hps, htext⟩ := exists_pieces s.toList
  have h := Token.Spells.text ps
  rw [hps, Piece.text?, htext] at h
  simpa [writeString] using h

theorem writesItself_string (s : String) : WritesItself (.string (some s)) :=
  spellsAll_singleton (spells_writeString s)

theorem writeItems_eq (items : List Document) : writeItems items = items.map write := by
  induction items with
  | nil => rfl
  | cons d ds ih => rw [writeItems, ih, List.map_cons]

theorem writeFields_eq (fields : List (Option String × Document)) :
    writeFields fields = fields.map fun (key, d) => writeText key ++ ":" ++ d.write := by
  induction fields with
  | nil => rfl
  | cons field fields ih => rw [writeFields, ih, List.map_cons]

theorem spellsAll_furtherItems {ds : List Document} (h : ∀ d ∈ ds, d.WritesItself) :
    SpellsAll (furtherItemTokens ds)
      ((ds.flatMap fun d => [','] ++ d.write.toList) ++ [']']) := by
  induction ds with
  | nil => exact spellsAll_singleton .closeArray
  | cons d ds ih =>
    obtain ⟨hd, hds⟩ := List.forall_mem_cons.mp h
    rw [furtherItemTokens, List.flatMap_cons, List.append_assoc, List.append_assoc]
    exact .cons .comma (spellsAll_append hd (ih hds))

theorem writesItself_array {items : List Document} (h : ∀ d ∈ items, d.WritesItself) :
    WritesItself (.array items) := by
  rw [WritesItself, Spells, write, writeItems_eq, String.toList_append, String.toList_append,
    String.toList_intercalate, List.map_map]
  cases items with
  | nil => exact .cons .openArray (spellsAll_singleton .closeArray)
  | cons d ds =>
    obtain ⟨hd, hds⟩ := List.forall_mem_cons.mp h
    have htext : [','].intercalate ((d :: ds).map fun d => d.write.toList) =
        d.write.toList ++ ds.flatMap fun d => [','] ++ d.write.toList := intercalate_map_cons d ds
    change SpellsAll (.openArray :: (d.tokens ++ furtherItemTokens ds))
      (['['] ++ [','].intercalate ((d :: ds).map fun d => d.write.toList) ++ [']'])
    rw [htext, List.append_assoc, List.append_assoc]
    exact .cons .openArray (spellsAll_append hd (spellsAll_furtherItems hds))

/-- The characters of a field with a readable key. -/
def fieldChars (field : String × Document) : List Char :=
  (writeString field.1).toList ++ ([':'] ++ field.2.write.toList)

theorem spellsAll_furtherFields {fields : List (String × Document)}
    (h : ∀ field ∈ fields, field.2.WritesItself) :
    SpellsAll (furtherFieldTokens (fields.map fun (key, d) => (some key, d)))
      ((fields.flatMap fun field => [','] ++ fieldChars field) ++ ['\x7d']) := by
  induction fields with
  | nil => exact spellsAll_singleton .closeObject
  | cons field fields ih =>
    obtain ⟨hfield, hfields⟩ := List.forall_mem_cons.mp h
    rw [List.map_cons, furtherFieldTokens, List.flatMap_cons, fieldChars, List.append_assoc,
      List.append_assoc, List.append_assoc, List.append_assoc]
    exact .cons .comma (.cons (spells_writeString _) (.cons .colon
      (spellsAll_append hfield (ih hfields))))

theorem writesItself_record {fields : List (String × Document)}
    (h : ∀ field ∈ fields, field.2.WritesItself) :
    WritesItself (.object (fields.map fun (key, d) => (some key, d))) := by
  have hchars : (String.toList ∘ fun field : Option String × Document =>
      writeText field.1 ++ ":" ++ field.2.write) ∘ (fun (key, d) => (some key, d)) =
        fieldChars := by
    funext field
    simp only [Function.comp_apply, writeText, String.toList_append, List.append_assoc]
    rfl
  rw [WritesItself, Spells, write, writeFields_eq, String.toList_append, String.toList_append,
    String.toList_intercalate, List.map_map, List.map_map, hchars]
  cases fields with
  | nil => exact .cons .openObject (spellsAll_singleton .closeObject)
  | cons field fields =>
    obtain ⟨hfield, hfields⟩ := List.forall_mem_cons.mp h
    have htext : [','].intercalate ((field :: fields).map fieldChars) =
        fieldChars field ++ fields.flatMap fun field => [','] ++ fieldChars field :=
      intercalate_map_cons field fields
    change SpellsAll (.openObject :: .text (some field.1) :: .colon :: (field.2.tokens ++
      furtherFieldTokens (fields.map fun (key, d) => (some key, d))))
      (['\x7b'] ++ [','].intercalate ((field :: fields).map fieldChars) ++ ['\x7d'])
    rw [htext, fieldChars, List.append_assoc, List.append_assoc, List.append_assoc,
      List.append_assoc]
    exact .cons .openObject (.cons (spells_writeString _) (.cons .colon
      (spellsAll_append hfield (spellsAll_furtherFields hfields))))

end SqlCompose.Json.Document
