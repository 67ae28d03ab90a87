import SchemaTypes.Proofs.Declaration.Columns
import SchemaTypes.Proofs.Text.Literals
import SchemaTypes.Proofs.Text.SqlTokens

/-!
# Statements read back

The literals of the statements of a class, read as TypeScript and then as SQL, have the tokens of
their statements: the names of the table and of its columns in their places, and words and signs
that no name has a part in.
-/

set_option autoImplicit false

namespace SchemaTypes

namespace Sql

def ofLiteral? (literal : String) : Option (List Token) :=
  match Text.readLiteral literal.toList with
  | some (text, []) => tokens? text
  | _ => none

def listed (names : List String) : List Token :=
  [.sign ','].intercalate (names.map fun n => [.name n])

def placeholders (names : List String) : List Token :=
  [.sign ','].intercalate (names.map fun _ => [.sign '?'])

def bound (name : String) : List Token := [.name name, .sign '=', .sign '?']

def assigned (names : List String) : List Token := [.sign ','].intercalate (names.map bound)

def condition (names : List String) : List Token :=
  [.word "WHERE"] ++ [.word "AND"].intercalate (names.map bound)

def selection (table : String) (columns : List String) : List Token :=
  [.word "SELECT"] ++ listed columns ++ [.word "FROM", .name table]

def insertion (table : String) (columns : List String) : List Token :=
  [.word "INSERT", .word "INTO", .name table, .sign '('] ++ listed columns ++
    [.sign ')', .word "VALUES", .sign '('] ++ placeholders columns ++ [.sign ')']

def update (table : String) (columns key : List String) : List Token :=
  [.word "UPDATE", .name table, .word "SET"] ++ assigned columns ++ condition key

def deletion (table : String) (key : List String) : List Token :=
  [.word "DELETE", .word "FROM", .name table] ++ condition key

end Sql

namespace Statement
open Sql

def tokens : Statement → List Token
  | table t => [.name t]
  | selectAll t columns => selection t columns
  | insert t columns => insertion t columns
  | selectByKey t columns key => selection t columns ++ condition key
  | updateByKey t columns key => update t columns key
  | deleteByKey t key => deletion t key

theorem columns_read (columns : List String) : Reads (columnList columns) (listed columns) :=
  Reads.intercalate reads_name rfl rfl (by decide) columns

theorem placeholders_read (columns : List String) :
    Reads (placeholders columns) (Sql.placeholders columns) :=
  Reads.intercalate (fun _ => Reads.closed rfl) rfl rfl (by decide) columns

theorem binding_read (column : String) : Reads (binding column) (bound column) :=
  (reads_name column).append (Reads.closed rfl) rfl (by decide)

theorem assignments_read (columns : List String) : Reads (assignments columns) (assigned columns) :=
  Reads.intercalate binding_read rfl rfl (by decide) columns

theorem run_select : run .gap "SELECT ".toList = some ([.word "SELECT"], .gap) := rfl

theorem run_where : run .gap " WHERE ".toList = some ([.word "WHERE"], .gap) := rfl

theorem run_insert : run .gap "INSERT INTO ".toList = some ([.word "INSERT", .word "INTO"], .gap) :=
  rfl

theorem run_open : run .gap " (".toList = some ([.sign '('], .gap) := rfl

theorem run_values :
    run .gap ") VALUES (".toList = some ([.sign ')', .word "VALUES", .sign '('], .gap) := rfl

theorem run_close : run .gap ")".toList = some ([.sign ')'], .gap) := rfl

theorem run_update : run .gap "UPDATE ".toList = some ([.word "UPDATE"], .gap) := rfl

theorem run_set : run .gap " SET ".toList = some ([.word "SET"], .gap) := rfl

theorem run_delete : run .gap "DELETE FROM ".toList = some ([.word "DELETE", .word "FROM"], .gap) :=
  rfl

theorem condition_read (key : List String) : Reads (" WHERE " ++ conditions key) (condition key) :=
  Reads.after run_where (Reads.intercalate binding_read rfl rfl (by decide) key)

theorem with_condition {text : String} {ts : List Token} (h : Reads text ts)
    (key : List String) : Reads (text ++ " WHERE " ++ conditions key) (ts ++ condition key) := by
  rw [String.append_assoc]
  exact h.append (condition_read key) (starts_front _ rfl) (by decide)

theorem selection_read (t : String) (columns : List String) :
    Reads (sql (selectAll t columns)) (selection t columns) := by
  have hf := Reads.after run_from (reads_name t)
  have h := (Reads.after run_select (columns_read columns)).append hf (starts_front _ rfl)
    (by decide)
  rw [← String.append_assoc] at h
  exact h

theorem insertion_read (t : String) (columns : List String) :
    Reads (sql (insert t columns)) (insertion t columns) := by
  have hp := (placeholders_read columns).append (Reads.closed run_close) rfl (by decide)
  have hv := Reads.after run_values hp
  have hc := (columns_read columns).append hv (starts_front _ rfl) (by decide)
  have ht := (reads_name t).append (Reads.after run_open hc) (starts_front _ rfl) (by decide)
  have h := Reads.after run_insert ht
  have hi : insertion t columns =
      [.word "INSERT", .word "INTO"] ++ ([.name t] ++ ([.sign '('] ++ (listed columns ++
        ([.sign ')', .word "VALUES", .sign '('] ++
          (Sql.placeholders columns ++ [.sign ')']))))) := by
    simp [insertion]
  simp only [← String.append_assoc] at h
  rw [hi]
  exact h

theorem update_read (t : String) (columns key : List String) :
    Reads (sql (updateByKey t columns key)) (update t columns key) := by
  have ha := Reads.after run_set (assignments_read columns)
  have ht := (reads_name t).append ha (starts_front _ rfl) (by decide)
  have h := with_condition (Reads.after run_update ht) key
  simp only [← String.append_assoc] at h
  exact h

theorem deletion_read (t : String) (key : List String) :
    Reads (sql (deleteByKey t key)) (deletion t key) :=
  with_condition (Reads.after run_delete (reads_name t)) key

theorem sql_read (s : Statement) : Reads s.sql s.tokens := by
  cases s with
  | table t => exact reads_name t
  | selectAll t columns => exact selection_read t columns
  | insert t columns => exact insertion_read t columns
  | selectByKey t columns key => exact with_condition (selection_read t columns) key
  | updateByKey t columns key => exact update_read t columns key
  | deleteByKey t key => exact deletion_read t key

def names : Statement → List String
  | table t => [t]
  | selectAll t columns => t :: columns
  | insert t columns => t :: columns
  | selectByKey t columns key => t :: (columns ++ key)
  | updateByKey t columns key => t :: (columns ++ key)
  | deleteByKey t key => t :: key

section OneLine
open Text

theorem one_line_list_iff {separator : String} {write : String → String}
    (hs : OneLine separator) (hw : ∀ n, OneLine (write n) ↔ OneLine n) (names : List String) :
    OneLine (separator.intercalate (names.map write)) ↔ ∀ n ∈ names, OneLine n := by
  rw [one_line_intercalate_iff hs, List.forall_mem_map]
  simp only [hw]

@[simp]
theorem one_line_columns_iff {columns : List String} :
    OneLine (columnList columns) ↔ ∀ n ∈ columns, OneLine n :=
  one_line_list_iff (by decide) (fun _ => one_line_identifier_iff) columns

theorem one_line_binding_iff {column : String} : OneLine (binding column) ↔ OneLine column := by
  have hb : OneLine " = ?" := by decide
  simp [binding, hb]

@[simp]
theorem one_line_assignments_iff {columns : List String} :
    OneLine (assignments columns) ↔ ∀ n ∈ columns, OneLine n :=
  one_line_list_iff (by decide) (fun _ => one_line_binding_iff) columns

@[simp]
theorem one_line_conditions_iff {key : List String} :
    OneLine (conditions key) ↔ ∀ n ∈ key, OneLine n :=
  one_line_list_iff (by decide) (fun _ => one_line_binding_iff) key

@[simp]
theorem one_line_placeholders (columns : List String) : OneLine (placeholders columns) := by
  rw [placeholders, one_line_intercalate_iff (by decide)]
  simp only [List.forall_mem_map]
  exact fun _ _ => by decide

theorem one_line_words : ∀ part ∈ ["SELECT ", " FROM ", "INSERT INTO ", " (", ") VALUES (", ")",
    " WHERE ", "UPDATE ", " SET ", "DELETE FROM "], OneLine part := by
  decide

theorem one_line_selection_iff {t : String} {columns : List String} :
    OneLine (sql (selectAll t columns)) ↔ OneLine t ∧ ∀ n ∈ columns, OneLine n := by
  have hp := one_line_words
  simp only [List.forall_mem_cons] at hp
  change OneLine ("SELECT " ++ columnList columns ++ " FROM " ++ quoteIdentifier t) ↔ _
  simp [hp, and_comm]

theorem one_line_sql_iff (s : Statement) : OneLine s.sql ↔ ∀ n ∈ s.names, OneLine n := by
  have hp := one_line_words
  simp only [List.forall_mem_cons] at hp
  cases s with
  | table t =>
    change OneLine (quoteIdentifier t) ↔ _
    simp [names]
  | selectAll t columns => simp [names, one_line_selection_iff]
  | insert t columns =>
    change OneLine ("INSERT INTO " ++ quoteIdentifier t ++ " (" ++ columnList columns ++
      ") VALUES (" ++ placeholders columns ++ ")") ↔ _
    simp [names, hp]
  | selectByKey t columns key =>
    change OneLine (sql (selectAll t columns) ++ " WHERE " ++ conditions key) ↔ _
    simp [names, hp, one_line_selection_iff, or_imp, forall_and, and_assoc]
  | updateByKey t columns key =>
    change OneLine ("UPDATE " ++ quoteIdentifier t ++ " SET " ++ assignments columns ++ " WHERE " ++
      conditions key) ↔ _
    simp [names, hp, or_imp, forall_and, and_assoc]
  | deleteByKey t key =>
    change OneLine ("DELETE FROM " ++ quoteIdentifier t ++ " WHERE " ++ conditions key) ↔ _
    simp [names, hp]

end OneLine

theorem literal_read (s : Statement) (h : ∀ n ∈ s.names, Text.OneLine n) :
    ofLiteral? (Text.quoteLiteral s.sql) = some s.tokens := by
  have hq := Text.read_quoted s.sql []
  rw [List.append_nil, if_pos ((one_line_sql_iff s).mpr h)] at hq
  rw [ofLiteral?, hq]
  exact (sql_read s).all

/-- No name in a statement is of another table, of a hidden column outside the key or of no
column. -/
theorem names_of_columns {table : String} {all shown : List Column} {s : Statement}
    (h : s ∈ ofColumns table all shown) :
    s.names ⊆ table :: (fields shown ++ fields (all.filter Column.isPrimaryKey)) := by
  have hk := List.subset_append_right (fields shown) (fields (all.filter Column.isPrimaryKey))
  rcases mem_of_columns_iff.mp h with rfl | rfl | rfl | ⟨-, h⟩
  · simp [names]
  · simp [names]
  · have hi := fields_of_filter (fun c => !c.isAutoIncrement) shown
    exact List.cons_subset_cons _ (List.subset_append_of_subset_left _ hi)
  · rcases mem_by_key_iff.mp h with rfl | ⟨-, rfl⟩ | rfl
    · exact List.Subset.refl _
    · have hr := fields_of_filter (fun c => !c.isPrimaryKey) shown
      exact List.cons_subset_cons _
        (List.append_subset.mpr ⟨List.subset_append_of_subset_left _ hr, hk⟩)
    · exact List.cons_subset_cons _ hk

theorem one_line_names {table : String} {all shown : List Column} {s : Statement}
    (ht : Text.OneLine table) (hc : ∀ column ∈ all, Text.OneLine column.field)
    (hs : shown ⊆ all) (h : s ∈ ofColumns table all shown) : ∀ n ∈ s.names, Text.OneLine n := by
  intro n hn
  rcases List.mem_cons.mp (names_of_columns h hn) with rfl | hf
  · exact ht
  · rcases List.mem_append.mp hf with hf | hf
    · obtain ⟨column, hm, rfl⟩ := List.mem_map.mp hf
      exact hc column (hs hm)
    · obtain ⟨column, hm, rfl⟩ := List.mem_map.mp hf
      exact hc column (List.mem_filter.mp hm).1

end Statement

namespace Table
open Statement

/-- The statements over the declared columns by name and tokens. Statements by key need a key and
an update needs a declared column outside it. -/
def statementTokens (t : Table) (shown : List Column) : List (String × List Sql.Token) :=
  let insertable := fields (shown.filter fun c => !c.isAutoIncrement)
  let rest := fields (shown.filter fun c => !c.isPrimaryKey)
  let key := fields (t.columns.filter Column.isPrimaryKey)
  [ ("TABLE", [.name t.name]),
    ("SELECT_ALL", Sql.selection t.name (fields shown)),
    ("INSERT", Sql.insertion t.name insertable) ] ++
  (if key = [] then [] else
    [("SELECT_BY_PK", Sql.selection t.name (fields shown) ++ Sql.condition key)] ++
    (if rest = [] then [] else [("UPDATE_BY_PK", Sql.update t.name rest key)]) ++
    [("DELETE_BY_PK", Sql.deletion t.name key)])

theorem tokens_by_key (table : String) (key shown : List Column) :
    (byKey table key shown).map (fun s => (s.name, s.tokens)) =
      [("SELECT_BY_PK", Sql.selection table (fields shown) ++ Sql.condition (fields key))] ++
      (if fields (shown.filter fun c => !c.isPrimaryKey) = [] then [] else
        [("UPDATE_BY_PK",
          Sql.update table (fields (shown.filter fun c => !c.isPrimaryKey)) (fields key))]) ++
      [("DELETE_BY_PK", Sql.deletion table (fields key))] := by
  rw [byKey, List.map_append, List.map_append]
  cases shown.filter fun c => !c.isPrimaryKey <;> rfl

theorem tokens_of_columns (t : Table) (shown : List Column) :
    (ofColumns t.name t.columns shown).map (fun s => (s.name, s.tokens)) =
      t.statementTokens shown := by
  rw [ofColumns, statementTokens, List.map_append]
  generalize t.columns.filter Column.isPrimaryKey = key
  cases key with
  | nil => rfl
  | cons column columns =>
    exact congrArg (_ ++ ·) (tokens_by_key t.name (column :: columns) shown)

/-- The constants of a class with statements have literals as values. Read back, they are the
statements over the declared columns: every name is one token and no name adds another. -/
theorem statements_read_back [PatternEngine] (t : Table) (c : Config) {omitted : List Matcher}
    (ho : t.omitted? = some omitted) (hn : Text.OneLine t.name)
    (hc : ∀ column ∈ t.columns, Text.OneLine column.field) :
    ∃ (rows : TypedColumns) (constants : List (String × String)),
      c.Declares omitted t.columns rows ∧
      t.render c = .ok (t.layout c rows constants) ∧
      constants.map (fun m => (m.1, Sql.ofLiteral? m.2)) =
        (t.statementTokens (t.columns.filter (c.declares omitted))).map fun s =>
          (s.1, some s.2) := by
  obtain ⟨rows, hrows, hr⟩ := t.rendered_over c ho
  refine ⟨rows, (ofColumns t.name t.columns (rows.map Prod.fst)).map constant, hrows, hr, ?_⟩
  have hk : rows.map Prod.fst ⊆ t.columns := by
    rw [hrows.columns_kept]
    exact List.filter_sublist.subset
  rw [← hrows.columns_kept, ← tokens_of_columns, List.map_map, List.map_map]
  refine List.map_congr_left fun s hm => ?_
  change (s.name, Sql.ofLiteral? (Text.quoteLiteral s.sql)) = (s.name, some s.tokens)
  rw [literal_read s (one_line_names hn hc hk hm)]

def unruly : Table where
  name := "it\x27s, \x60?\x60 \\"
  kind := .classDecl
  database := "shop"
  suffix := "model"
  connector := "-"
  file := "unruly"
  omitPatterns := []
  withConstructor := false
  withStatements := true
  columns :=
    [ .ofListing "\x60id = ?" "int" "NO" (some "PRI") none (some "auto_increment"),
      .ofListing "a\\\x27, b)" "text" "YES" none none none ]

theorem unruly_names_read_back :
    ∃ (before : String) (constants : List (String × String)),
      unruly.render {} = .ok (
        before ++ ("\n" ++ Declaration.constantLines 4 constants) ++ "\x7d\n") ∧
      constants.map (fun m => (m.1, Sql.ofLiteral? m.2)) =
        [ ("TABLE", some [.name unruly.name]),
          ("SELECT_ALL", some [.word "SELECT", .name "\x60id = ?", .sign ',', .name "a\\\x27, b)",
            .word "FROM", .name unruly.name]),
          ("INSERT", some [.word "INSERT", .word "INTO", .name unruly.name, .sign '(',
            .name "a\\\x27, b)", .sign ')', .word "VALUES", .sign '(', .sign '?', .sign ')']),
          ("SELECT_BY_PK", some [.word "SELECT", .name "\x60id = ?", .sign ',',
            .name "a\\\x27, b)", .word "FROM", .name unruly.name, .word "WHERE",
            .name "\x60id = ?", .sign '=', .sign '?']),
          ("UPDATE_BY_PK", some [.word "UPDATE", .name unruly.name, .word "SET",
            .name "a\\\x27, b)", .sign '=', .sign '?', .word "WHERE",
            .name "\x60id = ?", .sign '=', .sign '?']),
          ("DELETE_BY_PK", some [.word "DELETE", .word "FROM", .name unruly.name, .word "WHERE",
            .name "\x60id = ?", .sign '=', .sign '?']) ] := by
  obtain ⟨rows, constants, -, hr, hm⟩ :=
    statements_read_back unruly {} (show unruly.omitted? = some [] from rfl) (by decide)
      (by decide +kernel)
  rw [layout, if_pos (by decide), if_neg (by decide), String.append_empty] at hr
  exact ⟨_, constants, hr, hm.trans (by decide +kernel)⟩

end Table

end SchemaTypes
