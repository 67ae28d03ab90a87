import SchemaTypes.Proofs.Declaration.Roles

/-!
# Complete statements

A statement is complete if a column follows `SELECT` and a column with its placeholder follows `SET`
and `WHERE`. Updates and conditions are left out where they would be over no column. Selections are
not: in a class without declared columns they select nothing.
-/

set_option autoImplicit false

namespace SchemaTypes

namespace Sql

def startsColumn : List Token → Bool
  | .name _ :: _ => true
  | _ => false

def startsBinding : List Token → Bool
  | .name _ :: .sign '=' :: .sign '?' :: _ => true
  | _ => false

/-- What stands after the word starts so, wherever the word stands. -/
def follows (starts : List Token → Bool) (word : String) : List Token → Bool
  | [] => true
  | t :: ts => (t != .word word || starts ts) && follows starts word ts

def selects : List Token → Bool := follows startsColumn "SELECT"

def sets : List Token → Bool := follows startsBinding "SET"

def asks : List Token → Bool := follows startsBinding "WHERE"

/-- The statement selects and sets at least one column and asks for one in its condition, if it has
these parts. -/
def complete (ts : List Token) : Bool := selects ts && sets ts && asks ts

section Follows
variable {starts : List Token → Bool} {word : String} {ts us : List Token}

theorem follows_without (h : .word word ∉ ts) : follows starts word ts = true := by
  induction ts with
  | nil => rfl
  | cons t ts ih =>
    rw [List.mem_cons, not_or] at h
    simp [follows, ih h.2, Ne.symm h.1]

/-- What the only place of a word in a statement comes to. -/
theorem follows_once (ht : .word word ∉ ts) (hu : .word word ∉ us) :
    follows starts word (ts ++ .word word :: us) = starts us := by
  induction ts with
  | nil => simp [follows, follows_without hu]
  | cons t ts ih =>
    rw [List.mem_cons, not_or] at ht
    simp [follows, ih ht.2, Ne.symm ht.1]

end Follows

theorem word_not_listed (word : String) (names : List String) : .word word ∉ listed names := by
  intro h
  rcases mem_listed h with hc | ⟨n, hn⟩
  · cases hc
  · cases hn

theorem mem_bindings {separator x : Token} {names : List String}
    (h : x ∈ [separator].intercalate (names.map bound)) :
    x = separator ∨ (∃ n, x = .name n) ∨ x = .sign '=' ∨ x = .sign '?' := by
  rcases mem_of_intercalate h with hs | ⟨part, hp, hx⟩
  · exact .inl (List.mem_singleton.mp hs)
  · obtain ⟨n, -, rfl⟩ := List.mem_map.mp hp
    rcases (by simpa [bound] using hx : x = .name n ∨ x = .sign '=' ∨ x = .sign '?') with hx | hx
    · exact .inr (.inl ⟨n, hx⟩)
    · exact .inr (.inr hx)

theorem intercalate_starts (separator part : List Token) (parts : List (List Token)) :
    ∃ ts, separator.intercalate (part :: parts) = part ++ ts := by
  cases parts with
  | nil => exact ⟨[], by simp⟩
  | cons next parts =>
    exact ⟨separator ++ separator.intercalate (next :: parts), by
      rw [List.intercalate_cons_cons, List.append_assoc]⟩

theorem starts_listed (names : List String) {ts : List Token} (h : startsColumn ts = false) :
    startsColumn (listed names ++ ts) = true ↔ names ≠ [] := by
  cases names with
  | nil => simp [listed, h]
  | cons n names =>
    obtain ⟨us, hu⟩ := intercalate_starts [.sign ','] [.name n] (names.map fun n => [.name n])
    rw [listed, List.map_cons, hu]
    simp [startsColumn]

theorem starts_bindings (separator : Token) (names : List String) {ts : List Token}
    (h : startsBinding ts = false) :
    startsBinding ([separator].intercalate (names.map bound) ++ ts) = true ↔ names ≠ [] := by
  cases names with
  | nil => simp [h]
  | cons n names =>
    obtain ⟨us, hu⟩ := intercalate_starts [separator] (bound n) (names.map bound)
    rw [List.map_cons, hu]
    simp [startsBinding, bound]

theorem word_not_bound {separator : Token} {word : String} (hw : separator ≠ .word word)
    (names : List String) : .word word ∉ [separator].intercalate (names.map bound) := by
  intro h
  rcases mem_bindings h with hs | ⟨n, hn⟩ | hs | hs
  · exact hw hs.symm
  · cases hn
  · cases hs
  · cases hs

theorem word_not_placed (word : String) (names : List String) :
    .word word ∉ placeholders names := by
  intro h
  rcases mem_of_intercalate h with hs | ⟨part, hp, hx⟩
  · cases List.mem_singleton.mp hs
  · obtain ⟨n, -, rfl⟩ := List.mem_map.mp hp
    cases List.mem_singleton.mp hx

theorem word_in_condition {word : String} {key : List String} (h : .word word ∈ condition key) :
    word ∈ ["WHERE", "AND"] := by
  rcases List.mem_append.mp h with hw | hb
  · simp only [List.mem_singleton, Token.word.injEq] at hw
    simp [hw]
  · by_cases ha : word = "AND"
    · simp [ha]
    · exact absurd hb (word_not_bound (by simp [Ne.symm ha]) key)

theorem selects_selection (table : String) (columns : List String) {rest : List Token}
    (hr : .word "SELECT" ∉ rest) :
    selects (selection table columns ++ rest) = true ↔ columns ≠ [] := by
  have hu : .word "SELECT" ∉ listed columns ++ ([.word "FROM", .name table] ++ rest) := by
    simp [word_not_listed, hr]
  have hs : selection table columns ++ rest =
      [] ++ .word "SELECT" :: (listed columns ++ ([.word "FROM", .name table] ++ rest)) := by
    simp [selection]
  rw [hs, selects, follows_once List.not_mem_nil hu]
  exact starts_listed columns rfl

theorem asks_condition {front : List Token} (hf : .word "WHERE" ∉ front) (key : List String) :
    asks (front ++ condition key) = true ↔ key ≠ [] := by
  have hu : .word "WHERE" ∉ [.word "AND"].intercalate (key.map bound) :=
    word_not_bound (by decide) key
  have hs : startsBinding ([.word "AND"].intercalate (key.map bound) ++ []) = true ↔ key ≠ [] :=
    starts_bindings (.word "AND") key rfl
  rw [List.append_nil] at hs
  rw [asks, condition, List.singleton_append, follows_once hf hu, hs]

theorem sets_update (table : String) (columns key : List String) :
    sets (update table columns key) = true ↔ columns ≠ [] := by
  have hu : .word "SET" ∉ assigned columns ++ condition key := by
    intro h
    rcases List.mem_append.mp h with h | h
    · exact word_not_bound (by decide) columns h
    · exact absurd (word_in_condition h) (by decide)
  have hs : update table columns key =
      [.word "UPDATE", .name table] ++ .word "SET" :: (assigned columns ++ condition key) := by
    simp [update]
  rw [hs, sets, follows_once (by simp) hu]
  exact starts_bindings (.sign ',') columns rfl

end Sql

namespace Statement
open Sql

def selected? : Statement → Option (List String)
  | selectAll _ columns => some columns
  | selectByKey _ columns _ => some columns
  | _ => none

def set? : Statement → Option (List String)
  | updateByKey _ columns _ => some columns
  | _ => none

def key? : Statement → Option (List String)
  | selectByKey _ _ key => some key
  | updateByKey _ _ key => some key
  | deleteByKey _ key => some key
  | _ => none

def words : Statement → List String
  | table _ => []
  | selectAll _ _ => ["SELECT", "FROM"]
  | insert _ _ => ["INSERT", "INTO", "VALUES"]
  | selectByKey _ _ _ => ["SELECT", "FROM", "WHERE", "AND"]
  | updateByKey _ _ _ => ["UPDATE", "SET", "WHERE", "AND"]
  | deleteByKey _ _ => ["DELETE", "FROM", "WHERE", "AND"]

theorem words_of_tokens {s : Statement} {word : String} (h : .word word ∈ s.tokens) :
    word ∈ s.words := by
  cases s with
  | table t => simp [tokens] at h
  | selectAll t columns => simpa [tokens, selection, word_not_listed, words] using h
  | insert t columns =>
    simpa [tokens, insertion, word_not_listed, word_not_placed, words] using h
  | selectByKey t columns key =>
    rcases List.mem_append.mp h with h | h
    · have hs : word = "SELECT" ∨ word = "FROM" := by
        simpa [selection, word_not_listed] using h
      rcases hs with rfl | rfl <;> simp [words]
    · exact List.mem_append_right ["SELECT", "FROM"] (word_in_condition h)
  | updateByKey t columns key =>
    rcases List.mem_append.mp h with h | h
    · have hs : word = "UPDATE" ∨ word = "SET" := by
        simpa [assigned, word_not_bound] using h
      rcases hs with rfl | rfl <;> simp [words]
    · exact List.mem_append_right ["UPDATE", "SET"] (word_in_condition h)
  | deleteByKey t key =>
    rcases List.mem_append.mp h with h | h
    · have hs : word = "DELETE" ∨ word = "FROM" := by simpa using h
      rcases hs with rfl | rfl <;> simp [words]
    · exact List.mem_append_right ["DELETE", "FROM"] (word_in_condition h)

/-- A statement without the word lacks the part that the word begins. -/
theorem unused_iff {s : Statement} {word : String} {part : Option (List String)}
    (hw : word ∉ s.words) (hp : part = none) (starts : List Token → Bool) :
    follows starts word s.tokens = true ↔ part ≠ some [] := by
  have hn : .word word ∉ s.tokens := fun h => hw (words_of_tokens h)
  exact iff_of_true (follows_without hn) (by simp [hp])

theorem selects_iff (s : Statement) : selects s.tokens = true ↔ s.selected? ≠ some [] := by
  cases s with
  | selectAll t columns =>
    have hs := selects_selection t columns List.not_mem_nil
    simpa [tokens, selected?] using hs
  | selectByKey t columns key =>
    have hw : .word "SELECT" ∉ condition key := fun h => absurd (word_in_condition h) (by decide)
    have hs := selects_selection t columns hw
    simpa [tokens, selected?] using hs
  | table t => exact unused_iff (by simp [words]) rfl _
  | insert t columns => exact unused_iff (by simp [words]) rfl _
  | updateByKey t columns key => exact unused_iff (by simp [words]) rfl _
  | deleteByKey t key => exact unused_iff (by simp [words]) rfl _

theorem sets_iff (s : Statement) : sets s.tokens = true ↔ s.set? ≠ some [] := by
  cases s with
  | updateByKey t columns key => simp [tokens, set?, sets_update]
  | table t => exact unused_iff (by simp [words]) rfl _
  | selectAll t columns => exact unused_iff (by simp [words]) rfl _
  | insert t columns => exact unused_iff (by simp [words]) rfl _
  | selectByKey t columns key => exact unused_iff (by simp [words]) rfl _
  | deleteByKey t key => exact unused_iff (by simp [words]) rfl _

theorem asks_iff (s : Statement) : asks s.tokens = true ↔ s.key? ≠ some [] := by
  cases s with
  | selectByKey t columns key =>
    have hf : Token.word "WHERE" ∉ selection t columns := by simp [selection, word_not_listed]
    simpa [tokens, key?] using asks_condition hf key
  | updateByKey t columns key =>
    have hf : Token.word "WHERE" ∉ [.word "UPDATE", .name t, .word "SET"] ++ assigned columns := by
      simp [assigned, word_not_bound]
    simpa [tokens, update, key?] using asks_condition hf key
  | deleteByKey t key =>
    have hf : Token.word "WHERE" ∉ [.word "DELETE", .word "FROM", .name t] := by simp
    simpa [tokens, deletion, key?] using asks_condition hf key
  | table t => exact unused_iff (by simp [words]) rfl _
  | selectAll t columns => exact unused_iff (by simp [words]) rfl _
  | insert t columns => exact unused_iff (by simp [words]) rfl _

theorem selected_none_iff (s : Statement) :
    s.selected? = none ↔ .word "SELECT" ∉ s.tokens := by
  cases s with
  | selectAll t columns => simp [selected?, tokens, selection]
  | selectByKey t columns key => simp [selected?, tokens, selection]
  | table t => exact iff_of_true rfl (mt words_of_tokens (by simp [words]))
  | insert t columns => exact iff_of_true rfl (mt words_of_tokens (by simp [words]))
  | updateByKey t columns key => exact iff_of_true rfl (mt words_of_tokens (by simp [words]))
  | deleteByKey t key => exact iff_of_true rfl (mt words_of_tokens (by simp [words]))

theorem fields_eq_nil {columns : List Column} : fields columns = [] ↔ columns = [] :=
  List.map_eq_nil_iff

theorem parts_of_columns {table : String} {all shown : List Column} {s : Statement}
    (h : s ∈ ofColumns table all shown) :
    (∀ columns, s.selected? = some columns → columns = fields shown) ∧
    s.set? ≠ some [] ∧ s.key? ≠ some [] := by
  rcases mem_of_columns_iff.mp h with rfl | rfl | rfl | ⟨hk, h⟩
  · simp [selected?, set?, key?]
  · simp [selected?, set?, key?]
  · simp [selected?, set?, key?]
  · rcases mem_by_key_iff.mp h with rfl | ⟨hr, rfl⟩ | rfl
    · simp [selected?, set?, key?, fields_eq_nil, hk]
    · simp [selected?, set?, key?, fields_eq_nil, hk, hr]
    · simp [selected?, set?, key?, fields_eq_nil, hk]

theorem selects_of_columns {table : String} {all shown : List Column} {s : Statement}
    (h : s ∈ ofColumns table all shown) :
    selects s.tokens = true ↔ shown ≠ [] ∨ .word "SELECT" ∉ s.tokens := by
  rw [selects_iff, ← selected_none_iff]
  cases hs : s.selected? with
  | none => simp
  | some columns =>
    have hc := (parts_of_columns h).1 columns hs
    simp [hc, fields_eq_nil]

end Statement

namespace Table
open Statement

def Shows (t : Table) (c : Config) (omitted : List Matcher) : Prop :=
  ∃ column ∈ t.columns, c.declares omitted column = true

theorem shows_iff {t : Table} {c : Config} {omitted : List Matcher} {rows : TypedColumns}
    (h : c.Declares omitted t.columns rows) : t.Shows c omitted ↔ rows.map Prod.fst ≠ [] := by
  rw [h.columns_kept, Ne, List.filter_eq_nil_iff]
  simp [Shows]

/-- In a class with statements every update sets a column and every condition asks for one. A
selection has a column exactly if one is declared; so all statements are complete exactly if the
class declares a column. -/
theorem statements_complete_iff [PatternEngine] (t : Table) (c : Config) {omitted : List Matcher}
    (ho : t.omitted? = some omitted) (hs : t.hasStatements = true) :
    ∃ (rows : TypedColumns) (constants : List (String × String)),
      c.Declares omitted t.columns rows ∧
      t.render c = .ok (t.classLayout c rows (constants.map Sql.asLiteral)) ∧
      (∀ m ∈ constants, ∃ ts, Sql.tokens? m.2.toList = some ts ∧
        Sql.sets ts = true ∧ Sql.asks ts = true ∧
        (Sql.selects ts = true ↔ t.Shows c omitted ∨ .word "SELECT" ∉ ts)) ∧
      ((∀ m ∈ constants, ∀ ts, Sql.tokens? m.2.toList = some ts → Sql.complete ts = true) ↔
        t.Shows c omitted) := by
  obtain ⟨rows, hrows, hr⟩ := t.class_rendered c ho hs
  have hparts : ∀ s ∈ ofColumns t.name t.columns (rows.map Prod.fst),
      Sql.sets s.tokens = true ∧ Sql.asks s.tokens = true ∧
      (Sql.selects s.tokens = true ↔ t.Shows c omitted ∨ .word "SELECT" ∉ s.tokens) := by
    intro s hm
    obtain ⟨-, hset, hkey⟩ := parts_of_columns hm
    rw [shows_iff hrows]
    exact ⟨(sets_iff s).mpr hset, (asks_iff s).mpr hkey, selects_of_columns hm⟩
  refine ⟨rows, _, hrows, hr, ?_, ?_⟩
  · intro m hm
    obtain ⟨s, hs, rfl⟩ := List.mem_map.mp hm
    exact ⟨s.tokens, (sql_read s).all, hparts s hs⟩
  · constructor
    · intro h
      have hm : selectAll t.name (fields (rows.map Prod.fst)) ∈
          ofColumns t.name t.columns (rows.map Prod.fst) :=
        mem_of_columns_iff.mpr (.inr (.inl rfl))
      have hc := h _ (List.mem_map_of_mem hm) _ (sql_read _).all
      rw [Sql.complete, Bool.and_eq_true, Bool.and_eq_true] at hc
      rcases (hparts _ hm).2.2.mp hc.1.1 with hd | hw
      · exact hd
      · simp [tokens, Sql.selection] at hw
    · intro hd m hm ts ht
      obtain ⟨s, hs, rfl⟩ := List.mem_map.mp hm
      obtain rfl : s.tokens = ts := Option.some.inj ((sql_read s).all.symm.trans ht)
      obtain ⟨hset, hask, hsel⟩ := hparts s hs
      simp [Sql.complete, hset, hask, hsel.mpr (.inl hd)]

theorem seats_complete :
    ∃ (rows : TypedColumns) (constants : List (String × String)),
      seats.render {} = .ok (seats.classLayout {} rows (constants.map Sql.asLiteral)) ∧
      ∀ m ∈ constants, ∀ ts, Sql.tokens? m.2.toList = some ts → Sql.complete ts = true := by
  obtain ⟨rows, constants, -, hr, -, hc⟩ :=
    statements_complete_iff seats {} (show seats.omitted? = some _ from rfl) (by decide)
  refine ⟨rows, constants, hr, hc.mpr ?_⟩
  exact ⟨.ofListing "guest" "varchar(64)" "YES" none none none, by simp [seats], by decide +kernel⟩

def events : Table where
  name := "events"
  kind := .classDecl
  database := "shop"
  suffix := "model"
  connector := "-"
  file := "events"
  omitPatterns := []
  withConstructor := false
  withStatements := true
  columns :=
    [ .ofListing "id" "binary(16)" "NO" (some "PRI") none none,
      .ofListing "payload" "json" "YES" none none none ]

theorem nothing_selected :
    events.hasStatements = true ∧ events.omitted? = some [] ∧
    events.render {} = .ok ("export class EventsModel \x7b\n\n" ++
      "    static readonly TABLE = \x27\x60events\x60\x27;\n" ++
      "    static readonly SELECT_ALL = \x27SELECT  FROM \x60events\x60\x27;\n" ++
      "    static readonly INSERT = \x27INSERT INTO \x60events\x60 () VALUES ()\x27;\n" ++
      "    static readonly SELECT_BY_PK = " ++
        "\x27SELECT  FROM \x60events\x60 WHERE \x60id\x60 = ?\x27;\n" ++
      "    static readonly DELETE_BY_PK = " ++
        "\x27DELETE FROM \x60events\x60 WHERE \x60id\x60 = ?\x27;\n\x7d\n") ∧
    (Sql.tokens? "SELECT  FROM \x60events\x60".toList).map Sql.complete = some false ∧
    (Sql.tokens? "SELECT  FROM \x60events\x60 WHERE \x60id\x60 = ?".toList).map Sql.complete =
      some false :=
  ⟨by decide, rfl, congrArg Except.ok (by decide +kernel), by decide +kernel, by decide +kernel⟩

end Table

end SchemaTypes
