import Mathlib.Data.List.Forall2
import SchemaTypes.Proofs.Declaration.Columns

/-!
# What presentation leaves alone

Some settings are for looks only: how names are spelled, whether nullable columns are optional
properties, and which of them are dates. The columns that are declared, their order and the
statements over them are the same for all of these settings, and of the types none changes but
between a string and a date.
-/

set_option autoImplicit false

namespace SchemaTypes

namespace DateMapping

def Within (dates more : DateMapping) : Prop :=
  (dates.dateTime = true → more.dateTime = true) ∧ (dates.date = true → more.date = true)

theorem none_within (dates : DateMapping) : Within {} dates := ⟨nofun, nofun⟩

theorem Within.applies {dates more : DateMapping} (h : dates.Within more) {sqlType : String}
    (ha : dates.applies sqlType = true) : more.applies sqlType = true := by
  simp only [DateMapping.applies, Bool.or_eq_true, Bool.and_eq_true] at ha ⊢
  rcases ha with ⟨hd, hs⟩ | ⟨hd, hs⟩
  · exact .inl ⟨h.1 hd, hs⟩
  · exact .inr ⟨h.2 hd, hs⟩

end DateMapping

namespace PropertyType

/-- A string may have become a date, and everything else is as it was. -/
inductive Redated : PropertyType → PropertyType → Prop where
  | same (type : PropertyType) : Redated type type
  | date : Redated .string .date

theorem typed_redated {dates more : DateMapping} (h : dates.Within more) (sqlType : String) :
    Option.Rel Redated (ofSqlType? dates sqlType) (ofSqlType? more sqlType) := by
  unfold ofSqlType?
  by_cases hn : mentions numberFamilies sqlType = true
  · rw [if_pos hn, if_pos hn]
    exact .some (.same .number)
  rw [if_neg hn, if_neg hn]
  by_cases hs : mentions stringFamilies sqlType = true
  · rw [if_pos hs, if_pos hs]
    by_cases ha : dates.applies sqlType = true
    · rw [if_pos ha, if_pos (h.applies ha)]
      exact .some (.same .date)
    · rw [if_neg ha]
      by_cases hm : more.applies sqlType = true
      · rw [if_pos hm]
        exact .some .date
      · rw [if_neg hm]
        exact .some (.same .string)
  · rw [if_neg hs, if_neg hs]
    exact .none

theorem typed_whatever_dates (dates more : DateMapping) (sqlType : String) :
    (ofSqlType? dates sqlType).isSome = (ofSqlType? more sqlType).isSome := by
  have hr : ∀ dates : DateMapping,
      (ofSqlType? {} sqlType).isSome = (ofSqlType? dates sqlType).isSome := by
    intro dates
    have hd := typed_redated dates.none_within sqlType
    generalize ofSqlType? {} sqlType = a at hd
    generalize ofSqlType? dates sqlType = b at hd
    cases hd <;> rfl
  rw [← hr dates, hr more]

end PropertyType

namespace Config

structure Presentation where
  case : Case
  renameTables : Bool
  renameAttributes : Bool
  nullAsOptional : Bool
  dates : DateMapping
  deriving DecidableEq, Repr

/-- The configuration in another presentation. Two configurations that differ in the settings of
presentation alone are the same one presented in two ways. -/
def presenting (c : Config) (p : Presentation) : Config :=
  { c with
    case := p.case
    renameTableToCase := p.renameTables
    renameAttributeToCase := p.renameAttributes
    setNullAsOptional := p.nullAsOptional
    dates := p.dates }

theorem declares_alike (c c' : Config) (omitted : List Matcher) :
    c.declares omitted = c'.declares omitted := by
  funext column
  rw [declares, declares, PropertyType.typed_whatever_dates c.dates c'.dates]

def typed? (omitted : List Matcher) (dates : DateMapping) (column : Column) :
    Option (Column × PropertyType) :=
  if omitted.any (·.matchesText column.field) then none
  else (PropertyType.ofSqlType? dates column.sqlType).map fun type => (column, type)

def typedColumns (omitted : List Matcher) (columns : List Column) (dates : DateMapping) :
    TypedColumns :=
  columns.filterMap (typed? omitted dates)

theorem typed_columns_declared (c : Config) (omitted : List Matcher) (columns : List Column) :
    c.Declares omitted columns (typedColumns omitted columns c.dates) where
  columns_kept := by
    rw [typedColumns, List.map_filterMap, ← List.filterMap_eq_filter]
    refine List.filterMap_congr fun column _ => ?_
    rw [typed?, Option.guard, declares]
    cases omitted.any (·.matchesText column.field)
    · cases PropertyType.ofSqlType? c.dates column.sqlType <;> rfl
    · rfl
  types_found := by
    intro r hr
    obtain ⟨column, -, hf⟩ := List.mem_filterMap.mp hr
    rw [typed?] at hf
    split at hf
    · cases hf
    · obtain ⟨type, ht, rfl⟩ := Option.map_eq_some_iff.mp hf
      exact ht

/-- The same column, with the same type or with `Date` for a string; a date is an `object` among
the value types. -/
def Redated (r s : Column × PropertyType) : Prop :=
  r.1 = s.1 ∧ (r.2 = s.2 ∨
    r.2.name = "string" ∧ Declaration.valueType r.2.name = "string" ∧
    s.2.name = "Date" ∧ Declaration.valueType s.2.name = "object")

theorem redated_of_types {types others : PropertyType} (h : types.Redated others)
    (column : Column) : Redated (column, types) (column, others) := by
  refine ⟨rfl, ?_⟩
  cases h with
  | same => exact .inl rfl
  | date => exact .inr ⟨rfl, rfl, rfl, rfl⟩

theorem typed_columns_redated {dates more : DateMapping} (h : dates.Within more)
    (omitted : List Matcher) (columns : List Column) :
    List.Forall₂ Redated (typedColumns omitted columns dates)
      (typedColumns omitted columns more) := by
  have hc : ∀ column, Option.Rel Redated (typed? omitted dates column)
      (typed? omitted more column) := by
    intro column
    rw [typed?, typed?]
    split
    · exact .none
    · have ht := PropertyType.typed_redated h column.sqlType
      generalize PropertyType.ofSqlType? dates column.sqlType = a at ht ⊢
      generalize PropertyType.ofSqlType? more column.sqlType = b at ht ⊢
      cases ht with
      | none => exact .none
      | some hr => exact .some (redated_of_types hr column)
  refine List.rel_filterMap (R := (· = ·)) ?_ (List.forall₂_refl columns)
  rintro column _ rfl
  exact hc column

end Config

namespace Declaration

def markedLine (c : Config) (optional : Bool) (r : Column × PropertyType) : String :=
  indented c.tabSize 1 (c.style.name r.1.field ++ (if optional && r.1.nullable then "?" else "") ++
    ": " ++ r.2.name ++ ";")

theorem property_line_marked (c : Config) (r : Column × PropertyType) :
    propertyLine c r = markedLine c c.setNullAsOptional r := by
  rw [propertyLine, markedLine]
  cases c.setNullAsOptional && r.1.nullable <;> simp [String.append_assoc]

end Declaration

namespace Table
open Config (Presentation)

theorem layout_around_lines (t : Table) (c : Config) (rows : TypedColumns)
    (constants : List (String × String)) :
    ∃ head tail, ∀ optional,
      t.layout { c with setNullAsOptional := optional } rows constants =
        head ++ String.join (rows.map (Declaration.markedLine c optional)) ++ tail := by
  refine ⟨Declaration.opening t.kind (c.declarationName t),
    (if t.hasStatements then "\n" ++ Declaration.constantLines c.tabSize constants else "") ++
      ((if t.hasConstructor then "\n" ++ Declaration.copyingConstructor c.tabSize
        (c.declarationName t) (Declaration.typesObject c rows) else "") ++
      Declaration.closing t.kind), fun optional => ?_⟩
  have hl : Declaration.propertyLine { c with setNullAsOptional := optional } =
      Declaration.markedLine c optional :=
    funext fun r => Declaration.property_line_marked { c with setNullAsOptional := optional } r
  rw [layout, hl, String.append_assoc, String.append_assoc]
  rfl

/-- The settings of presentation leave the data of a declaration alone. The same columns are
declared in the same order, and the constants of a class are the same. With more dates, properties
that were strings are dates, and no other type changes. Optional properties differ from others in
the question mark on the lines of nullable columns. -/
theorem presentation_keeps_data [PatternEngine] (t : Table) (c : Config) :
    (t.omitted? = none → ∀ p, t.render (c.presenting p) = .error (.omitPatterns t.name)) ∧
    ∀ omitted, t.omitted? = some omitted →
      ∃ (rows : DateMapping → TypedColumns) (constants : List (String × String)),
        (∀ p, t.render (c.presenting p) =
          .ok (t.layout (c.presenting p) (rows p.dates) constants)) ∧
        (∀ dates, (rows dates).map Prod.fst = t.columns.filter (c.declares omitted)) ∧
        (∀ dates more, dates.Within more → List.Forall₂ Config.Redated (rows dates) (rows more)) ∧
        ∀ p : Presentation, ∃ head tail, ∀ optional,
          t.render (c.presenting { p with nullAsOptional := optional }) = .ok (head ++
            String.join ((rows p.dates).map (Declaration.markedLine (c.presenting p) optional)) ++
            tail) := by
  constructor
  · intro ho p
    rw [render, declaration, ho]
    rfl
  intro omitted ho
  have hr : ∀ p, t.render (c.presenting p) =
      .ok (t.layout (c.presenting p) (Config.typedColumns omitted t.columns p.dates)
        ((Statement.ofColumns t.name t.columns (t.columns.filter (c.declares omitted))).map
          Statement.constant)) := by
    intro p
    obtain ⟨rows, hrows, hr⟩ := t.rendered_over (c.presenting p) ho
    rw [hr, hrows.columns_kept, (c.presenting p).declares_alike c,
      hrows.unique ((c.presenting p).typed_columns_declared omitted t.columns)]
    rfl
  refine ⟨Config.typedColumns omitted t.columns, _, hr, ?_, ?_, ?_⟩
  · intro dates
    have hk := (({ dates := dates } : Config).typed_columns_declared omitted t.columns).columns_kept
    rwa [Config.declares_alike _ c] at hk
  · exact fun dates more h => Config.typed_columns_redated h omitted t.columns
  · intro p
    obtain ⟨head, tail, hl⟩ := t.layout_around_lines (c.presenting p)
      (Config.typedColumns omitted t.columns p.dates) _
    exact ⟨head, tail, fun optional => (hr { p with nullAsOptional := optional }).trans
      (congrArg Except.ok (hl optional))⟩

theorem accounts_data_kept :
    ∃ (rows : DateMapping → TypedColumns) (constants : List (String × String)),
      (∀ dates, (rows dates).map Prod.fst =
        [ .ofListing "id" "int" "NO" (some "PRI") none none,
          .ofListing "born_on" "date" "YES" none none none ]) ∧
      accounts.render (dated.presenting ⟨.snake, false, true, true, {}⟩) =
        .ok (accounts.layout (dated.presenting ⟨.snake, false, true, true, {}⟩) (rows {})
          constants) ∧
      accounts.render (dated.presenting ⟨.pascal, true, false, false, dated.dates⟩) =
        .ok (accounts.layout (dated.presenting ⟨.pascal, true, false, false, dated.dates⟩)
          (rows dated.dates) constants) ∧
      List.Forall₂ Config.Redated (rows {}) (rows dated.dates) := by
  obtain ⟨rows, constants, hr, hk, hd, -⟩ :=
    (presentation_keeps_data accounts dated).2 _ (show accounts.omitted? = some _ from rfl)
  refine ⟨rows, constants, fun dates => ?_, hr _, hr _, hd _ _ (DateMapping.none_within _)⟩
  rw [hk dates]
  decide +kernel

end Table

end SchemaTypes
