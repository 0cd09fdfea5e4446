import SqlCompose.Proofs.Operators
import SqlCompose.Proofs.QuotedNames
import SqlCompose.Query.Render

/-!
# Names in a statement

A name without a blank or an opening parenthesis is written part by part, and the
parts can be read back whatever quote characters, dots or keywords they hold. The
same goes for a select list and for the whole of a statement up to its conditions.
-/

namespace SqlCompose

open Text (Begins)

namespace Dialect

@[simp] theorem wrap_star (d : Dialect) : d.wrap "*" = "*" := by
  have h : "*".toList.splitOn '.' = [['*']] := by decide
  have hplain : isExpression "*" = false := by decide
  rw [wrap, hplain, h]
  simp [wrapPart]

end Dialect

namespace Dialect.Legible

variable {d : Dialect} {mark : Char} (hd : d.Legible mark) {r s : List Char}
include hd

theorem quote_ne {c : Char} (hc : c ∈ ['*', '.', ',', ' ', '(', ')', 'S']) : c ≠ d.quote := by
  rintro rfl
  exact hd.quote hc

/-- A name ends where a blank or a closing parenthesis stands. -/
theorem ends_name (hr : Begins (fun c => c = ' ' ∨ c = ')') r) :
    Begins (fun c => c ≠ d.quote ∧ c ≠ '.') r := by
  refine hr.mono ?_
  rintro c (rfl | rfl)
  · exact ⟨hd.quote_ne (by decide), by decide⟩
  · exact ⟨hd.quote_ne (by decide), by decide⟩

/-- Every dot, star and quote character of a name is read back. -/
theorem wrap_append_inj {a b : String} (ha : PlainName a) (hb : PlainName b)
    (hr : Begins (fun c => c ≠ d.quote ∧ c ≠ '.') r)
    (hs : Begins (fun c => c ≠ d.quote ∧ c ≠ '.') s)
    (h : (d.wrap a).toList ++ r = (d.wrap b).toList ++ s) : a = b ∧ r = s :=
  (wrap_append_eq_iff (hd.quote_ne (by decide)).symm (hd.quote_ne (by decide)).symm ha hb hr hs).mp h

end Dialect.Legible

/-- A name begins with a quote character or a star. -/
theorem Dialect.wrap_eq_cons (d : Dialect) {name : String} (h : PlainName name) :
    ∃ c t, (d.wrap name).toList = c :: t ∧ (c = d.quote ∨ c = '*') := by
  obtain ⟨part, parts, hparts⟩ := List.exists_cons_of_ne_nil (List.splitOn_ne_nil '.' name.toList)
  rw [toList_wrap d h, hparts, Text.intercalate_map_cons, toList_wrapPart]
  split
  · exact ⟨_, _, rfl, .inr rfl⟩
  · exact ⟨_, _, rfl, .inl rfl⟩

/-- What is written for a name cannot be taken for what is put in parentheses. -/
theorem Dialect.Legible.wrap_ne_parenthesis {d : Dialect} {mark : Char} (hd : d.Legible mark)
    {name : String} (h : PlainName name) (r s : List Char) :
    (d.wrap name).toList ++ r ≠ '(' :: s := by
  intro heq
  obtain ⟨c, t, hname, hc⟩ := d.wrap_eq_cons h
  rw [hname, List.cons_append, List.cons.injEq] at heq
  rcases hc with rfl | rfl
  · exact hd.quote_ne (by decide) heq.1.symm
  · exact absurd heq.1 (by decide)

/-! ## Select lists and headings -/

namespace Query

/-- A select list with a star in the place of no column. -/
def selected (columns : List String) : List String :=
  if columns.isEmpty then ["*"] else columns

theorem selected_ne_nil (columns : List String) : selected columns ≠ [] := by
  unfold selected
  split
  · simp
  · next h => simpa using h

@[simp] theorem selected_selected (columns : List String) :
    selected (selected columns) = selected columns := by
  have h := selected_ne_nil columns
  rw [selected, if_neg (by simpa using h)]

theorem plainName_selected {columns : List String} (h : ∀ c ∈ columns, PlainName c) :
    ∀ c ∈ selected columns, PlainName c := by
  unfold selected
  split
  · rw [List.forall_mem_singleton]
    exact ⟨by decide, by decide⟩
  · exact h

theorem selectList_eq (d : Dialect) (columns : List String) :
    selectList d columns = ", ".intercalate ((selected columns).map d.wrap) := by
  unfold selectList selected
  split
  · simp
  · rfl

@[simp] theorem heading_selected (d : Dialect) (columns : List String) (table : Option String) :
    heading d (selected columns) table = heading d columns table := by
  simp only [heading, selectList_eq, selected_selected]

/-- What may follow the heading of a statement: its conditions, its limit or its end. -/
def FollowsHeading (r : List Char) : Prop :=
  Begins (fun c => c = ' ' ∨ c = ')') r ∧ ¬ " FROM ".toList <+: r

end Query

namespace Dialect.Legible

variable {d : Dialect} {mark : Char} (hd : d.Legible mark) {r s : List Char}
include hd

theorem selectList_append_inj {columns columns' : List String} (hc : ∀ c ∈ columns, PlainName c)
    (hc' : ∀ c ∈ columns', PlainName c) (hr : Begins (fun c => c = ' ' ∨ c = ')') r)
    (hs : Begins (fun c => c = ' ' ∨ c = ')') s)
    (h : (Query.selectList d columns).toList ++ r = (Query.selectList d columns').toList ++ s) :
    Query.selected columns = Query.selected columns' ∧ r = s := by
  have hcomma : ∀ {t : List Char}, Begins (fun c => c = ' ' ∨ c = ')') t → ¬ [',', ' '] <+: t := by
    rintro t ht ⟨u, rfl⟩
    exact absurd (ht ',' rfl) (by decide)
  have hsep : ∀ t, Begins (fun c => c ≠ d.quote ∧ c ≠ '.') ([',', ' '] ++ t) := by
    intro t
    rw [List.cons_append, Text.begins_cons]
    exact ⟨hd.quote_ne (by decide), by decide⟩
  simp only [Query.selectList_eq, String.toList_intercalate, List.map_map] at h
  exact Text.intercalate_append_inj (fun ha hb hr hs h => hd.wrap_append_inj ha hb hr hs h) hsep
    (Query.selected_ne_nil _) (Query.selected_ne_nil _)
    (Query.plainName_selected hc) (Query.plainName_selected hc')
    (hd.ends_name hr) (hd.ends_name hs) (hcomma hr) (hcomma hs) h

theorem heading_append_inj {columns columns' : List String} {table table' : Option String}
    (hc : ∀ c ∈ columns, PlainName c) (hc' : ∀ c ∈ columns', PlainName c)
    (ht : ∀ t ∈ table, PlainName t) (ht' : ∀ t ∈ table', PlainName t)
    (hr : Query.FollowsHeading r) (hs : Query.FollowsHeading s)
    (h : (Query.heading d columns table).toList ++ r =
      (Query.heading d columns' table').toList ++ s) :
    Query.selected columns = Query.selected columns' ∧ table = table' ∧ r = s := by
  have hbegins : ∀ {t : List Char} (table : Option String), Query.FollowsHeading t →
      Begins (fun c => c = ' ' ∨ c = ')')
        (((table.map fun t => " FROM " ++ d.wrap t).getD "").toList ++ t) := by
    intro t table ht
    cases table with
    | none => exact ht.1
    | some name => simp
  simp only [Query.heading, String.toList_append, List.append_assoc,
    List.append_cancel_left_eq] at h
  obtain ⟨hcolumns, h⟩ := hd.selectList_append_inj hc hc' (hbegins table hr) (hbegins table' hs) h
  refine ⟨hcolumns, ?_⟩
  cases table with
  | none =>
    cases table' with
    | none => exact ⟨rfl, h⟩
    | some name =>
      simp only [Option.map_some, Option.getD_some, String.toList_append, List.append_assoc] at h
      exact absurd ⟨_, h.symm⟩ hr.2
  | some name =>
    cases table' with
    | none =>
      simp only [Option.map_some, Option.getD_some, String.toList_append, List.append_assoc] at h
      exact absurd ⟨_, h⟩ hs.2
    | some name' =>
      simp only [Option.map_some, Option.getD_some, String.toList_append, List.append_assoc,
        List.append_cancel_left_eq] at h
      obtain ⟨rfl, rfl⟩ := hd.wrap_append_inj (ht name rfl) (ht' name' rfl)
        (hd.ends_name hr.1) (hd.ends_name hs.1) h
      exact ⟨rfl, rfl⟩

end Dialect.Legible

/-- A limit is read back before the end of its statement. -/
theorem Query.ending_append_inj {limit limit' : Option Nat} {r s : List Char}
    (hr : Begins (· = ')') r) (hs : Begins (· = ')') s)
    (h : (Query.ending limit).toList ++ r = (Query.ending limit').toList ++ s) :
    limit = limit' ∧ r = s := by
  have hdigit : ∀ {t : List Char}, Begins (· = ')') t → Begins (¬ ·.isDigit) t := by
    intro t ht
    refine ht.mono ?_
    rintro c rfl
    decide
  cases limit with
  | none =>
    cases limit' with
    | none => exact ⟨rfl, h⟩
    | some n =>
      simp [Query.ending] at h
      rw [h, Text.begins_cons] at hr
      exact absurd hr (by decide)
  | some m =>
    cases limit' with
    | none =>
      simp [Query.ending] at h
      rw [← h, Text.begins_cons] at hs
      exact absurd hs (by decide)
    | some n =>
      simp only [Query.ending, Option.map_some, Option.getD_some, String.toList_append,
        List.append_assoc, List.append_cancel_left_eq] at h
      obtain ⟨rfl, rfl⟩ := Text.toString_append_inj (hdigit hr) (hdigit hs) h
      exact ⟨rfl, rfl⟩

end SqlCompose
