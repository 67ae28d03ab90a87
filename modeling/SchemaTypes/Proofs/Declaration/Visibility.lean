import Mathlib.Data.List.Basic
import SchemaTypes.Proofs.Declaration.Columns

/-!
# What a declaration shows of its columns

The text of a declaration depends on a few facts about the declared columns and, where there are
statements, on the names in the key. Whatever else is changed about the columns of a table or its
patterns cannot be seen.
-/

set_option autoImplicit false

namespace SchemaTypes

namespace Column

structure Facts where
  field : String
  sqlType : String
  nullable : Bool
  inKey : Bool
  counted : Bool
  deriving DecidableEq, Repr

def facts (column : Column) : Facts where
  field := column.field
  sqlType := column.sqlType
  nullable := column.nullable
  inKey := column.isPrimaryKey
  counted := column.isAutoIncrement

section Alike
variable {columns others : List Column} (h : columns.map facts = others.map facts)
include h

theorem filter_alike (p : Facts → Bool) :
    (columns.filter fun column => p column.facts).map facts =
      (others.filter fun column => p column.facts).map facts := by
  have hf : ∀ cs : List Column, (cs.filter fun column => p column.facts).map facts =
      (cs.map facts).filter p := fun cs => List.filter_map.symm
  rw [hf, hf, h]

theorem fields_alike : Statement.fields columns = Statement.fields others := by
  have hf : ∀ cs : List Column, Statement.fields cs = (cs.map facts).map Facts.field := fun cs => by
    rw [List.map_map]
    rfl
  rw [hf, hf, h]

theorem properties_alike (c : Config) :
    columns.filterMap c.property? = others.filterMap c.property? := by
  have hf : ∀ cs : List Column, cs.filterMap c.property? =
      (cs.map facts).filterMap fun f =>
        Property.of? c.style f.field f.sqlType (c.setNullAsOptional && f.nullable) := fun cs => by
    rw [List.filterMap_map]
    rfl
  rw [hf, hf, h]

theorem declared_alike (c : Config) (omitted : List Matcher) :
    (columns.filter (c.declares omitted)).map facts =
      (others.filter (c.declares omitted)).map facts :=
  filter_alike h fun f => !omitted.any (·.matchesText f.field) &&
    (PropertyType.ofSqlType? c.dates f.sqlType).isSome

end Alike

end Column

namespace Statement

theorem of_columns_congr {table : String} {all others shown seen : List Column}
    (hs : fields shown = fields seen)
    (hi : fields (shown.filter fun c => !c.isAutoIncrement) =
      fields (seen.filter fun c => !c.isAutoIncrement))
    (hr : fields (shown.filter fun c => !c.isPrimaryKey) =
      fields (seen.filter fun c => !c.isPrimaryKey))
    (hk : fields (all.filter Column.isPrimaryKey) = fields (others.filter Column.isPrimaryKey)) :
    ofColumns table all shown = ofColumns table others seen := by
  have he : ∀ cs : List Column, cs.isEmpty = (fields cs).isEmpty := fun cs => by
    rw [fields, List.isEmpty_map]
  simp only [ofColumns, byKey, he, hs, hi, hr, hk]

theorem of_columns_alike {table : String} {all others shown seen : List Column}
    (hs : shown.map Column.facts = seen.map Column.facts)
    (hk : fields (all.filter Column.isPrimaryKey) = fields (others.filter Column.isPrimaryKey)) :
    ofColumns table all shown = ofColumns table others seen :=
  of_columns_congr (Column.fields_alike hs)
    (Column.fields_alike (Column.filter_alike hs fun f => !f.counted))
    (Column.fields_alike (Column.filter_alike hs fun f => !f.inKey)) hk

end Statement

namespace Config
variable (c : Config) (omitted : List Matcher) (columns : List Column)

theorem shown_columns :
    (Table.shown c omitted columns).map (·.1) = columns.filter (c.declares omitted) := by
  obtain ⟨rows, hrows, hs⟩ := c.shown_typed omitted columns
  rw [hs, List.map_map, ← hrows.columns_kept]
  rfl

theorem shown_properties :
    (Table.shown c omitted columns).map (·.2) =
      (columns.filter (c.declares omitted)).filterMap c.property? := by
  obtain ⟨rows, hrows, hs⟩ := c.shown_typed omitted columns
  have hp : ∀ r ∈ rows, c.property? r.1 = some (c.propertyOf r) := by
    intro r hr
    simp [property?, Property.of?, propertyOf, style, hrows.types_found r hr]
  rw [hs, List.map_map, ← hrows.columns_kept, List.filterMap_map, ← List.filterMap_eq_map]
  exact (List.filterMap_congr hp).symm

end Config

namespace Table

/-- What can be seen of the columns of a table: the facts of the declared ones and, if there are
statements, the names in the key. -/
structure View where
  declared : List Column.Facts
  key : List String
  deriving DecidableEq, Repr

def view (t : Table) (c : Config) (omitted : List Matcher) (columns : List Column) : View where
  declared := (columns.filter (c.declares omitted)).map Column.facts
  key := if t.hasStatements then Statement.fields (columns.filter Column.isPrimaryKey) else []

/-- With other columns and other patterns a table is rendered the same if it gives the same view. -/
theorem rendered_by_view [PatternEngine] {t : Table} {c : Config} {omitted others : List Matcher}
    {patterns : List String} (columns : List Column) (ho : t.omitted? = some omitted)
    (hp : patterns.mapM PatternEngine.parse? = some others)
    (hv : t.view c others columns = t.view c omitted t.columns) :
    ({ t with omitPatterns := patterns, columns := columns } : Table).render c = t.render c := by
  obtain ⟨hd, hk⟩ := View.mk.inj hv
  have hdecl : ({ t with omitPatterns := patterns, columns := columns } : Table).declarationOf c
      others = t.declarationOf c omitted := by
    simp only [declarationOf, Config.shown_columns, Config.shown_properties]
    congr 1
    · exact Column.properties_alike hd c
    · change (if t.hasStatements then _ else _) = if t.hasStatements then _ else _
      by_cases hs : t.hasStatements = true
      · rw [if_pos hs, if_pos hs] at hk ⊢
        rw [Statement.of_columns_alike hd hk]
      · rw [if_neg hs, if_neg hs]
  have hm : ({ t with omitPatterns := patterns, columns := columns } : Table).omitted? =
      some others := hp
  rw [render, render, declaration, declaration, ho, hm]
  exact congrArg (fun d => Except.ok (Declaration.text c.tabSize d)) hdecl

theorem rendered_malformed [PatternEngine] {t : Table} (ho : t.omitted? = none) (c : Config)
    (columns : List Column) : ({ t with columns := columns } : Table).render c = t.render c := by
  have hm : ({ t with columns := columns } : Table).omitted? = none := ho
  rw [render, render, declaration, declaration, ho, hm]

theorem rendered_by_columns [PatternEngine] {t : Table} {c : Config} {columns : List Column}
    (hv : ∀ omitted, t.omitted? = some omitted →
      t.view c omitted columns = t.view c omitted t.columns) :
    ({ t with columns := columns } : Table).render c = t.render c := by
  cases ho : t.omitted? with
  | none => exact rendered_malformed ho c columns
  | some omitted => exact rendered_by_view columns ho ho (hv omitted ho)

/-- A pattern matches the column, or its type is unknown; so it is not declared. -/
def Hides [PatternEngine] (t : Table) (c : Config) (column : Column) : Prop :=
  ∀ omitted, t.omitted? = some omitted →
    omitted.any (·.matchesText column.field) = true ∨
      PropertyType.ofSqlType? c.dates column.sqlType = none

theorem Hides.undeclared [PatternEngine] {t : Table} {c : Config} {column : Column}
    (h : t.Hides c column) {omitted : List Matcher} (ho : t.omitted? = some omitted) :
    c.declares omitted column = false := by
  rcases h omitted ho with hm | ht
  · simp [Config.declares, hm]
  · simp [Config.declares, ht]

theorem view_without {t : Table} {c : Config} {omitted : List Matcher} {column : Column}
    (hd : c.declares omitted column = false)
    (hk : t.hasStatements = true → column.isPrimaryKey = false) (front back : List Column) :
    t.view c omitted (front ++ back) = t.view c omitted (front ++ column :: back) := by
  have hf : ∀ p : Column → Bool, p column = false →
      (front ++ back).filter p = (front ++ column :: back).filter p := fun p hp => by
    simp [hp]
  rw [view, view, hf _ hd]
  by_cases hs : t.hasStatements = true
  · rw [if_pos hs, if_pos hs, hf _ (hk hs)]
  · rw [if_neg hs, if_neg hs]

theorem declares_congr {c : Config} {omitted others : List Matcher} {column : Column}
    (h : others.any (·.matchesText column.field) = omitted.any (·.matchesText column.field)) :
    c.declares others column = c.declares omitted column := by
  rw [Config.declares, Config.declares, h]

/-- A column that is left out or of an unknown type can be removed from a table without a trace
unless it is in the key and there are statements. Patterns that match the same columns of a table
give the same text, and of a column nothing counts but its name, its type, whether it is nullable,
whether it is in the key and whether the server counts it. -/
theorem hidden_columns_unseen [PatternEngine] (t : Table) (c : Config) :
    (∀ front column back, t.columns = front ++ column :: back → t.Hides c column →
      (t.hasStatements = true → column.isPrimaryKey = false) →
      ({ t with columns := front ++ back } : Table).render c = t.render c) ∧
    (∀ patterns omitted others, t.omitted? = some omitted →
      patterns.mapM PatternEngine.parse? = some others →
      (∀ column ∈ t.columns, others.any (·.matchesText column.field) =
        omitted.any (·.matchesText column.field)) →
      ({ t with omitPatterns := patterns } : Table).render c = t.render c) ∧
    (∀ columns : List Column, columns.map Column.facts = t.columns.map Column.facts →
      ({ t with columns := columns } : Table).render c = t.render c) := by
  refine ⟨?_, ?_, ?_⟩
  · intro front column back hc hh hk
    refine rendered_by_columns fun omitted ho => ?_
    rw [view_without (hh.undeclared ho) hk, ← hc]
  · intro patterns omitted others ho hp hm
    have hv : t.view c others t.columns = t.view c omitted t.columns := by
      rw [view, view, List.filter_congr fun column hc => declares_congr (hm column hc)]
    exact rendered_by_view t.columns ho hp hv
  · intro columns hf
    refine rendered_by_columns fun omitted _ => ?_
    have hk := Column.fields_alike (Column.filter_alike hf Column.Facts.inKey)
    change Statement.fields (columns.filter Column.isPrimaryKey) =
      Statement.fields (t.columns.filter Column.isPrimaryKey) at hk
    rw [view, view, Column.declared_alike hf, hk]

def openColumns : List Column :=
  [ .ofListing "id" "int" "NO" (some "PRI") (some "0") (some "comment"),
    .ofListing "payload" "json" "YES" (some "MUL") none none,
    .ofListing "born_on" "date" "yes" (some "UNI") (some "now()") none ]

theorem accounts_hides_secret :
    accounts.Hides dated (.ofListing "secret" "varchar(64)" "NO" none none none) := by
  intro omitted ho
  obtain rfl : _ = omitted :=
    Option.some.inj ((show accounts.omitted? = some _ from rfl).symm.trans ho)
  exact .inl (by decide +kernel)

theorem accounts_secret_unseen :
    accounts.columns = [.ofListing "id" "int" "NO" (some "PRI") none none] ++
        .ofListing "secret" "varchar(64)" "NO" none none none :: accounts.columns.drop 2 ∧
      ({ accounts with omitPatterns := ["ret$", "x"] } : Table).render dated =
        accounts.render dated ∧
      ({ accounts with columns := openColumns } : Table).render dated = accounts.render dated := by
  have hc : accounts.columns = [.ofListing "id" "int" "NO" (some "PRI") none none] ++
      .ofListing "secret" "varchar(64)" "NO" none none none :: accounts.columns.drop 2 := rfl
  obtain ⟨hremove, homit, -⟩ := hidden_columns_unseen accounts dated
  have hr := hremove _ _ _ hc accounts_hides_secret (fun _ => by decide +kernel)
  obtain ⟨-, -, hfacts⟩ := hidden_columns_unseen
    { accounts with columns := [.ofListing "id" "int" "NO" (some "PRI") none none] ++
        accounts.columns.drop 2 } dated
  refine ⟨hc, homit ["ret$", "x"] _ _ rfl rfl (by decide +kernel), ?_⟩
  exact (hfacts openColumns (by decide +kernel)).trans hr

end Table

end SchemaTypes
