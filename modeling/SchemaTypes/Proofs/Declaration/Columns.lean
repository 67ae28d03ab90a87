import SchemaTypes.Declaration.Basic
import SchemaTypes.Pattern.Reader

/-!
# Declared columns

A declaration is made from the columns of its table that no pattern leaves out and whose type is
known. Property lines, the constructor's table of value types and the column list of the selection
are over the same columns in the same order.
-/

set_option autoImplicit false

namespace SchemaTypes

abbrev TypedColumns := List (Column × PropertyType)

namespace Config

def declares (c : Config) (omitted : List Matcher) (column : Column) : Bool :=
  !omitted.any (·.matchesText column.field) &&
    (PropertyType.ofSqlType? c.dates column.sqlType).isSome

/-- `rows` are the declared ones among `columns`, in order and with their types. -/
structure Declares (c : Config) (omitted : List Matcher) (columns : List Column)
    (rows : TypedColumns) : Prop where
  columns_kept : rows.map Prod.fst = columns.filter (c.declares omitted)
  types_found : ∀ r ∈ rows, PropertyType.ofSqlType? c.dates r.1.sqlType = some r.2

theorem Declares.unique {c : Config} {omitted : List Matcher} {columns : List Column}
    {rows others : TypedColumns} (h : c.Declares omitted columns rows)
    (ho : c.Declares omitted columns others) : rows = others := by
  let typed (column : Column) : Column × PropertyType :=
    (column, (PropertyType.ofSqlType? c.dates column.sqlType).getD .number)
  have hm : ∀ rows, c.Declares omitted columns rows →
      rows = (columns.filter (c.declares omitted)).map typed := by
    intro rows h
    rw [← h.columns_kept, List.map_map]
    refine (List.map_id rows).symm.trans (List.map_congr_left fun r hr => ?_)
    simp [typed, h.types_found r hr]
  rw [hm rows h, hm others ho]

def propertyOf (c : Config) (r : Column × PropertyType) : Property where
  name := c.style.name r.1.field
  optional := c.setNullAsOptional && r.1.nullable
  type := r.2

theorem declared_type {c : Config} {omitted : List Matcher} {column : Column}
    (h : c.declares omitted column = true) :
    ∃ type, PropertyType.ofSqlType? c.dates column.sqlType = some type := by
  rw [declares, Bool.and_eq_true] at h
  exact Option.isSome_iff_exists.mp h.2

theorem shown_cons_hidden {c : Config} {omitted : List Matcher} {column : Column}
    (h : c.declares omitted column = false) (columns : List Column) :
    Table.shown c omitted (column :: columns) = Table.shown c omitted columns := by
  refine List.filterMap_cons_none ?_
  by_cases hm : omitted.any (·.matchesText column.field) = true
  · rw [if_pos hm]
  · have ht : PropertyType.ofSqlType? c.dates column.sqlType = none := by
      simpa [declares, hm] using h
    simp [property?, Property.of?, style, ht]

theorem shown_cons_declared {c : Config} {omitted : List Matcher} {column : Column}
    {type : PropertyType} (h : c.declares omitted column = true)
    (ht : PropertyType.ofSqlType? c.dates column.sqlType = some type) (columns : List Column) :
    Table.shown c omitted (column :: columns) =
      (column, c.propertyOf (column, type)) :: Table.shown c omitted columns := by
  have hm : ¬ omitted.any (·.matchesText column.field) = true := by
    intro hm
    simp [declares, hm] at h
  refine List.filterMap_cons_some ?_
  simp [hm, property?, Property.of?, propertyOf, style, ht]

theorem shown_typed (c : Config) (omitted : List Matcher) (columns : List Column) :
    ∃ rows, c.Declares omitted columns rows ∧
      Table.shown c omitted columns = rows.map fun r => (r.1, c.propertyOf r) := by
  induction columns with
  | nil => exact ⟨[], ⟨rfl, by simp⟩, rfl⟩
  | cons column columns ih =>
    obtain ⟨rows, hrows, hs⟩ := ih
    cases hd : c.declares omitted column with
    | false =>
      refine ⟨rows, ⟨?_, hrows.types_found⟩, ?_⟩
      · rw [hrows.columns_kept, List.filter_cons_of_neg (by simp [hd])]
      · rw [shown_cons_hidden hd, hs]
    | true =>
      obtain ⟨type, ht⟩ := declared_type hd
      refine ⟨(column, type) :: rows, ⟨?_, ?_⟩, ?_⟩
      · rw [List.map_cons, hrows.columns_kept, List.filter_cons_of_pos hd]
      · intro r hr
        rcases List.mem_cons.mp hr with rfl | hr
        · exact ht
        · exact hrows.types_found r hr
      · rw [shown_cons_declared hd ht, hs]
        rfl

end Config

namespace Table

def declarationOver (t : Table) (c : Config) (rows : TypedColumns) : Declaration where
  kind := t.kind
  name := c.declarationName t
  properties := rows.map c.propertyOf
  statements :=
    if t.hasStatements then some (Statement.ofColumns t.name t.columns (rows.map Prod.fst))
    else none
  hasConstructor := t.hasConstructor

end Table

namespace Declaration

def propertyLine (c : Config) (r : Column × PropertyType) : String :=
  indented c.tabSize 1 (c.style.name r.1.field ++
    (if c.setNullAsOptional && r.1.nullable then "?:" else ":") ++ " " ++ r.2.name ++ ";")

/-- What `typeof` gives for a value of a type that is written so on a property line. -/
def valueType (type : String) : String := if type = "Date" then "object" else type

def typesObject (c : Config) (rows : TypedColumns) : String :=
  if rows.isEmpty then "\x7b\x7d"
  else "\x7b " ++ ", ".intercalate (rows.map fun r =>
    Text.quoteLiteral (c.style.name r.1.field) ++ ": " ++
      Text.quoteLiteral (valueType r.2.name)) ++ " \x7d"

def copyingConstructor (tabSize : Nat) (name types : String) : String :=
  indented tabSize 1 ("constructor(input?: Partial<" ++ name ++ ">) \x7b") ++
  indented tabSize 2 "if (input) \x7b" ++
  indented tabSize 3 ("const types: Record<string, string> = " ++ types ++ ";") ++
  indented tabSize 3 "for (const key of Object.keys(input)) \x7b" ++
  indented tabSize 4 "// @ts-ignore" ++
  indented tabSize 4 "if (typeof input[key] === types[key]) \x7b" ++
  indented tabSize 5 "// @ts-ignore" ++
  indented tabSize 5 "this[key] = input[key];" ++
  indented tabSize 4 "\x7d" ++
  indented tabSize 3 "\x7d" ++
  indented tabSize 2 "\x7d" ++
  indented tabSize 1 "\x7d"

def constantLines (tabSize : Nat) (constants : List (String × String)) : String :=
  String.join (constants.map fun m =>
    indented tabSize 1 ("static readonly " ++ m.1 ++ " = " ++ m.2 ++ ";"))

theorem typeof_value_type (type : PropertyType) : type.typeof = valueType type.name := by
  cases type <;> decide

theorem type_table_of (c : Config) (rows : TypedColumns) :
    typeTable (rows.map c.propertyOf) = typesObject c rows := by
  simp [typeTable, typesObject, typeEntry, Config.propertyOf, typeof_value_type, Function.comp_def]

theorem constructor_lines_text (tabSize : Nat) (name : String) (properties : List Property) :
    String.join ((constructorLines name properties).map fun l => indented tabSize l.1 l.2) =
      copyingConstructor tabSize name (typeTable properties) := by
  simp only [constructorLines, List.map_cons, List.map_nil, String.join_cons, String.join_nil]
  rw [String.append_empty, copyingConstructor]
  simp only [String.append_assoc]

end Declaration

namespace Statement

def constant (s : Statement) : String × String := (s.name, Text.quoteLiteral s.sql)

theorem constant_lines_of (tabSize : Nat) (statements : List Statement) :
    String.join (statements.map fun s => Declaration.indented tabSize 1 s.line) =
      Declaration.constantLines tabSize (statements.map constant) := by
  rw [Declaration.constantLines, List.map_map]
  rfl

theorem fields_of_filter (keep : Column → Bool) (columns : List Column) :
    fields (columns.filter keep) ⊆ fields columns :=
  List.map_subset _ List.filter_sublist.subset

theorem mem_by_key_iff {table : String} {key shown : List Column} {s : Statement} :
    s ∈ byKey table key shown ↔
      s = selectByKey table (fields shown) (fields key) ∨
      (shown.filter (fun c => !c.isPrimaryKey) ≠ [] ∧
        s = updateByKey table (fields (shown.filter fun c => !c.isPrimaryKey)) (fields key)) ∨
      s = deleteByKey table (fields key) := by
  rw [byKey]
  cases shown.filter fun c => !c.isPrimaryKey <;> simp

theorem mem_of_columns_iff {table : String} {all shown : List Column} {s : Statement} :
    s ∈ ofColumns table all shown ↔
      s = .table table ∨
      s = selectAll table (fields shown) ∨
      s = insert table (fields (shown.filter fun c => !c.isAutoIncrement)) ∨
      (all.filter Column.isPrimaryKey ≠ [] ∧
        s ∈ byKey table (all.filter Column.isPrimaryKey) shown) := by
  rw [ofColumns]
  cases all.filter Column.isPrimaryKey <;> simp

end Statement

namespace Table

/-- The text of a declaration: a line for each column, one for each constant of a class with
statements, and the constructor of a class that has one. -/
def layout (t : Table) (c : Config) (rows : TypedColumns) (constants : List (String × String)) :
    String :=
  Declaration.opening t.kind (c.declarationName t) ++
  String.join (rows.map (Declaration.propertyLine c)) ++
  (if t.hasStatements then "\n" ++ Declaration.constantLines c.tabSize constants else "") ++
  (if t.hasConstructor then
    "\n" ++ Declaration.copyingConstructor c.tabSize (c.declarationName t)
      (Declaration.typesObject c rows)
  else "") ++
  Declaration.closing t.kind

theorem text_over (t : Table) (c : Config) (rows : TypedColumns) :
    (t.declarationOver c rows).text c.tabSize =
      t.layout c rows
        ((Statement.ofColumns t.name t.columns (rows.map Prod.fst)).map Statement.constant) := by
  have hp : (t.declarationOver c rows).propertyText c.tabSize =
      String.join (rows.map (Declaration.propertyLine c)) := by
    rw [Declaration.propertyText, declarationOver, List.map_map]
    rfl
  have hs : (t.declarationOver c rows).statementText c.tabSize =
      if t.hasStatements then
        "\n" ++ Declaration.constantLines c.tabSize
          ((Statement.ofColumns t.name t.columns (rows.map Prod.fst)).map Statement.constant)
      else "" := by
    rw [← Statement.constant_lines_of]
    cases hc : t.hasStatements <;> simp [Declaration.statementText, declarationOver, hc]
  have hk : (t.declarationOver c rows).constructorText c.tabSize =
      if t.hasConstructor then
        "\n" ++ Declaration.copyingConstructor c.tabSize (c.declarationName t)
          (Declaration.typesObject c rows)
      else "" := by
    rw [Declaration.constructorText, Declaration.constructor_lines_text]
    simp [declarationOver, Declaration.type_table_of]
  rw [Declaration.text, hp, hs, hk]
  rfl

theorem rendered_over [PatternEngine] (t : Table) (c : Config) {omitted : List Matcher}
    (ho : t.omitted? = some omitted) :
    ∃ rows, c.Declares omitted t.columns rows ∧
      t.render c = .ok (t.layout c rows
        ((Statement.ofColumns t.name t.columns (rows.map Prod.fst)).map Statement.constant)) := by
  obtain ⟨rows, hrows, hs⟩ := c.shown_typed omitted t.columns
  have hd : t.declarationOf c omitted = t.declarationOver c rows := by
    simp [declarationOf, declarationOver, hs, Function.comp_def]
  exact ⟨rows, hrows, by simp [render, declaration, ho, hd, Except.map, text_over]⟩

/-- The selection of all rows stands second among the statements of a table and nowhere else. -/
theorem statements_around_selection (table : String) (all shown : List Column) :
    ∃ more : List Statement,
      Statement.ofColumns table all shown =
        .table table :: .selectAll table (Statement.fields shown) :: more ∧
      ∀ s ∈ more, s.name ≠ "SELECT_ALL" := by
  refine ⟨_, rfl, fun s hs => ?_⟩
  rcases List.mem_cons.mp hs with rfl | hs
  · exact (by decide : "INSERT" ≠ "SELECT_ALL")
  · split at hs
    · cases hs
    · rcases Statement.mem_by_key_iff.mp hs with rfl | ⟨-, rfl⟩ | rfl
      · exact (by decide : "SELECT_BY_PK" ≠ "SELECT_ALL")
      · exact (by decide : "UPDATE_BY_PK" ≠ "SELECT_ALL")
      · exact (by decide : "DELETE_BY_PK" ≠ "SELECT_ALL")

theorem column_list_of (rows : TypedColumns) :
    Statement.columnList (Statement.fields (rows.map Prod.fst)) =
      ", ".intercalate (rows.map fun r => Text.quoteIdentifier r.1.field) := by
  rw [Statement.columnList, Statement.fields, List.map_map, List.map_map]
  rfl

/-- Property lines are for the declared columns in order, and for these only. In a class, the
entries of the constructor's table of value types and the columns of the selection of all rows are
for the same columns in the same order, each entry with the name on the property line and the
`typeof` of the type on it. -/
theorem declared_columns_aligned [PatternEngine] (t : Table) (c : Config) {omitted : List Matcher}
    (ho : t.omitted? = some omitted) :
    ∃ (rows : TypedColumns) (more : List (String × String)),
      rows.map Prod.fst = t.columns.filter (c.declares omitted) ∧
      (∀ r ∈ rows, PropertyType.ofSqlType? c.dates r.1.sqlType = some r.2) ∧
      (∀ m ∈ more, m.1 ≠ "SELECT_ALL") ∧
      t.render c = .ok (t.layout c rows (
        ("TABLE", Text.quoteLiteral (Text.quoteIdentifier t.name)) ::
        ("SELECT_ALL", Text.quoteLiteral ("SELECT " ++
          ", ".intercalate (rows.map fun r => Text.quoteIdentifier r.1.field) ++
          " FROM " ++ Text.quoteIdentifier t.name)) :: more)) := by
  obtain ⟨rows, hrows, hr⟩ := t.rendered_over c ho
  obtain ⟨more, hm, hn⟩ := statements_around_selection t.name t.columns (rows.map Prod.fst)
  refine ⟨rows, more.map Statement.constant, hrows.columns_kept, hrows.types_found, ?_, ?_⟩
  · intro m hmem
    obtain ⟨s, hs, rfl⟩ := List.mem_map.mp hmem
    exact hn s hs
  · rw [hr, hm, ← column_list_of]
    rfl

def accounts : Table where
  name := "accounts"
  kind := .classDecl
  database := "shop"
  suffix := "model"
  connector := "-"
  file := "accounts"
  omitPatterns := ["^secret$"]
  withConstructor := true
  withStatements := true
  columns :=
    [ .ofListing "id" "int" "NO" (some "PRI") none none,
      .ofListing "secret" "varchar(64)" "NO" none none none,
      .ofListing "payload" "json" "YES" none none none,
      .ofListing "born_on" "date" "YES" none none none ]

def dated : Config := { renameAttributeToCase := true, dates := { date := true } }

theorem accounts_aligned :
    ∃ more : List (String × String), (∀ m ∈ more, m.1 ≠ "SELECT_ALL") ∧
      accounts.render dated = .ok (
        "export class AccountsModel \x7b\n" ++
        "    id: number;\n    bornOn: Date;\n" ++
        ("\n" ++ Declaration.constantLines 4 (
          ("TABLE", Text.quoteLiteral "\x60accounts\x60") ::
          ("SELECT_ALL", Text.quoteLiteral (
            "SELECT " ++ "\x60id\x60, \x60born_on\x60" ++ " FROM " ++ "\x60accounts\x60")) ::
          more)) ++
        ("\n" ++ Declaration.copyingConstructor 4 "AccountsModel"
          "\x7b \x27id\x27: \x27number\x27, \x27bornOn\x27: \x27object\x27 \x7d") ++
        "\x7d\n") := by
  obtain ⟨rows, more, hk, ht, hm, hr⟩ :=
    declared_columns_aligned accounts dated (show accounts.omitted? = some _ from rfl)
  have hd : rows = [(.ofListing "id" "int" "NO" (some "PRI") none none, .number),
      (.ofListing "born_on" "date" "YES" none none none, .date)] :=
    Config.Declares.unique ⟨hk, ht⟩ ⟨by decide +kernel, by decide +kernel⟩
  have hl : String.join (rows.map (Declaration.propertyLine dated)) =
      "    id: number;\n    bornOn: Date;\n" := by
    rw [hd]
    decide +kernel
  have hs : ", ".intercalate (rows.map fun r => Text.quoteIdentifier r.1.field) =
      "\x60id\x60, \x60born_on\x60" := by
    rw [hd]
    decide +kernel
  have hv : Declaration.typesObject dated rows =
      "\x7b \x27id\x27: \x27number\x27, \x27bornOn\x27: \x27object\x27 \x7d" := by
    rw [hd]
    decide +kernel
  rw [layout, hl, hs, hv] at hr
  exact ⟨more, hm, hr⟩

end Table

end SchemaTypes
