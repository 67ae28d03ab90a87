import SchemaTypes.Proofs.Config.Reading
import SchemaTypes.Proofs.Declaration.Columns
import SchemaTypes.Proofs.Run.Fetching
import SchemaTypes.Schema.Server

/-!
# Columns left out

A server names its columns in any letters. The names are kept in small letters, and patterns are
matched with these. A pattern that is written after the server's letters may match no column.
-/

set_option autoImplicit false

namespace SchemaTypes

namespace Row

theorem required_ok {column value : String} {r : Except RowFault (Option String)}
    (h : required column r = .ok value) : r = .ok (some value) := by
  cases r with
  | error fault => cases h
  | ok decoded =>
    cases decoded with
    | none => cases h
    | some text =>
      cases h
      rfl

def Names (r : Row) (field : String) : Prop := r.named "Field" = .ok (some field)

theorem column_field {r : Row} {column : Column} (h : r.column = .ok column) :
    ∃ field, r.Names field ∧ column.field = Text.toLower field := by
  obtain ⟨field, hf, h⟩ := bind_ok h
  obtain ⟨type, -, h⟩ := bind_ok h
  obtain ⟨null, -, h⟩ := bind_ok h
  obtain ⟨key, -, h⟩ := bind_ok h
  obtain ⟨default, -, h⟩ := bind_ok h
  obtain ⟨extra, -, h⟩ := bind_ok h
  cases h
  exact ⟨field, required_ok hf, rfl⟩

theorem columns_of_rows {rows : List Row} {columns : List Column}
    (h : rows.mapM Row.column = .ok columns) :
    List.Forall₂ (fun r column => ∃ field, r.Names field ∧ column.field = Text.toLower field)
      rows columns :=
  (traversal_pairs h).imp fun _ _ => column_field

end Row

/-- What the server tells about a table is put in, if the table is fetched at all. -/
theorem Server.fetched_rows {s : Server} {t t' : Table} {rows : List Row}
    (hq : s.answer (Query.showColumns t.database t.name).sql = .rows rows)
    (hf : s.source.fetch t = .ok t') :
    ∃ columns, rows.mapM Row.column = .ok columns ∧ t' = { t with columns := columns } := by
  have hs : s.source.columns t.database t.name = decoded (rows.mapM Row.column) := by
    change s.columns t.database t.name = _
    rw [Server.columns, hq]
  cases hd : rows.mapM Row.column with
  | ok columns =>
    rcases fetch_result hf with ⟨fetched, hc, ht⟩ | ⟨e, he, -, -⟩
    · rw [hs, hd] at hc
      cases hc
      exact ⟨columns, rfl, ht⟩
    · rw [hs, hd] at he
      cases he
  | error fault =>
    rcases fetch_result hf with ⟨fetched, hc, -⟩ | ⟨e, he, hk, -⟩
    · rw [hs, hd] at hc
      cases hc
    · rw [hs, hd] at he
      cases he
      cases hk

namespace Statement

def columns : Statement → List String
  | table _ => []
  | selectAll _ columns => columns
  | insert _ columns => columns
  | selectByKey _ columns _ => columns
  | updateByKey _ columns _ => columns
  | deleteByKey _ _ => []

theorem columns_shown {table : String} {all shown : List Column} {s : Statement}
    (h : s ∈ ofColumns table all shown) : s.columns ⊆ fields shown := by
  rcases mem_of_columns_iff.mp h with rfl | rfl | rfl | ⟨-, h⟩
  · exact List.nil_subset _
  · exact List.Subset.refl _
  · exact fields_of_filter _ shown
  · rcases mem_by_key_iff.mp h with rfl | ⟨-, rfl⟩ | rfl
    · exact List.Subset.refl _
    · exact fields_of_filter _ shown
    · exact List.nil_subset _

end Statement

theorem Config.Declares.unmatched {c : Config} {omitted : List Matcher} {columns : List Column}
    {rows : TypedColumns} (h : c.Declares omitted columns rows) {name : String}
    (hm : omitted.any (·.matchesText name) = true) :
    name ∉ Statement.fields (rows.map Prod.fst) := by
  intro hn
  rw [h.columns_kept] at hn
  obtain ⟨column, hc, rfl⟩ := List.mem_map.mp hn
  have hd := (List.mem_filter.mp hc).2
  simp [Config.declares, hm] at hd

/-- A column whose name in small letters is matched by a pattern of the table has no property, no
value type, and no place among the columns that statements select, insert or set. The declaration
is laid out from the other columns of a known type. -/
theorem omission_by_small_letters [PatternEngine] (s : Server) (c : Config) (t : Table) {t' : Table}
    {rows : List Row} {omitted : List Matcher}
    (hq : s.answer (Query.showColumns t.database t.name).sql = .rows rows)
    (hf : s.source.fetch t = .ok t') (ho : t.omitted? = some omitted) :
    ∃ (columns : List Column) (declared : TypedColumns) (statements : List Statement),
      List.Forall₂ (fun r column => ∃ field, r.Names field ∧ column.field = Text.toLower field)
        rows columns ∧
      c.Declares omitted columns declared ∧
      statements = Statement.ofColumns t.name columns (declared.map Prod.fst) ∧
      t'.render c = .ok (t.layout c declared (statements.map Statement.constant)) ∧
      ∀ r ∈ rows, ∀ field, r.Names field →
        omitted.any (·.matchesText (Text.toLower field)) = true →
        (∀ d ∈ declared, d.1.field ≠ Text.toLower field) ∧
        ∀ st ∈ statements, Text.toLower field ∉ st.columns := by
  obtain ⟨columns, hc, rfl⟩ := Server.fetched_rows hq hf
  obtain ⟨declared, hd, hr⟩ := Table.rendered_over { t with columns := columns } c
    (show Table.omitted? { t with columns := columns } = some omitted from ho)
  refine ⟨columns, declared, _, Row.columns_of_rows hc, hd, rfl, hr, ?_⟩
  intro r _ field _ hm
  have hn := hd.unmatched hm
  refine ⟨fun d hmem he => hn ?_, fun st hst hmem => hn (Statement.columns_shown hst hmem)⟩
  rw [← he]
  exact List.mem_map_of_mem (List.mem_map_of_mem hmem)

def passwordRow : Row := ⟨[("Field", .text "passwordHash"), ("Type", .text "varchar(64)"),
  ("Null", .text "NO"), ("Key", .text ""), ("Default", .null), ("Extra", .text "")]⟩

def passwordServer : Server :=
  .ofScript .accept [((Query.showColumns "shop" "users").sql, .rows [passwordRow])]

theorem password_listed : passwordServer.answer (Query.showColumns "shop" "users").sql =
    .rows [passwordRow] := by
  simp [passwordServer, Server.ofScript]

def usersWithout (pattern : String) : Table :=
  { ({ defaultDb := "shop" } : Config).bareTable "users" with omitPatterns := [pattern] }

def usersFetched (pattern : String) : Table :=
  { usersWithout pattern with
    columns := [.ofListing "passwordHash" "varchar(64)" "NO" (some "") none (some "")] }

theorem password_omitted_in_small_letters :
    ∃ (declared : TypedColumns) (statements : List Statement),
      passwordServer.source.fetch (usersWithout "^passwordhash$") =
        .ok (usersFetched "^passwordhash$") ∧
      (usersFetched "^passwordhash$").render {} =
        .ok ((usersWithout "^passwordhash$").layout {} declared
          (statements.map Statement.constant)) ∧
      (∀ d ∈ declared, d.1.field ≠ "passwordhash") ∧
      ∀ st ∈ statements, "passwordhash" ∉ st.columns := by
  have hf : passwordServer.source.fetch (usersWithout "^passwordhash$") =
      .ok (usersFetched "^passwordhash$") := by decide +kernel
  obtain ⟨columns, declared, statements, -, -, -, hr, ho⟩ :=
    omission_by_small_letters passwordServer {} (usersWithout "^passwordhash$") password_listed hf
      (show (usersWithout "^passwordhash$").omitted? = some _ from rfl)
  obtain ⟨hd, hs⟩ := ho passwordRow (by simp) "passwordHash" rfl (by decide +kernel)
  have hl : Text.toLower "passwordHash" = "passwordhash" := by decide +kernel
  rw [hl] at hd hs
  exact ⟨declared, statements, hf, hr, hd, hs⟩

theorem capitals_match_nothing :
    ∃ p : Matcher,
      (usersWithout "^passwordHash$").omitted? = some [p] ∧
      passwordServer.answer (Query.showColumns "shop" "users").sql = .rows [passwordRow] ∧
      passwordRow.Names "passwordHash" ∧ p.matchesText "passwordHash" = true ∧
      passwordServer.source.fetch (usersWithout "^passwordHash$") =
        .ok (usersFetched "^passwordHash$") ∧
      (usersFetched "^passwordHash$").render {} =
        .ok "export interface UsersModel \x7b\n    passwordhash: string;\n\x7d\n" :=
  ⟨_, rfl, password_listed, rfl, by decide +kernel, by decide +kernel, by decide +kernel⟩

end SchemaTypes
