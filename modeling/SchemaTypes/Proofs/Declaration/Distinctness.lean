import SchemaTypes.Proofs.Declaration.Columns
import SchemaTypes.Proofs.Name.Collisions
import SchemaTypes.Proofs.Text.Literals
import SchemaTypes.Proofs.Text.Lowering

/-!
# Properties declared twice

Columns of different names have different properties as long as names are kept or converted to snake
case, which keeps names in small letters. Camel and pascal case forget the underscores that raise no
letter, so that columns which differ in these alone are declared under one name.
-/

set_option autoImplicit false

namespace SchemaTypes

/-- Names are converted to a convention that forgets some of their underscores. -/
def Property.Style.forgets (style : Property.Style) : Bool :=
  style.rename && style.case != .snake

theorem Property.Style.name_alike_iff (style : Property.Style) {field other : String}
    (hs : ∀ c ∈ field.toList, c.isUpper = false) (ho : ∀ c ∈ other.toList, c.isUpper = false) :
    style.name field = style.name other ↔
      if style.forgets then Case.core field.toList = Case.core other.toList
      else field = other := by
  rw [Style.name, Style.name, forgets]
  cases style.rename with
  | false => simp
  | true =>
    rw [if_pos rfl, if_pos rfl, ← String.toList_inj, Case.convert_chars, Case.convert_chars]
    by_cases ht : style.case = .snake
    · simp [ht, Case.snake_of_small hs, Case.snake_of_small ho, String.toList_inj]
    · simp [ht, Case.converted_alike_iff hs ht ho]

/-- Functions that tell the same members of a list apart are injective on it together. -/
theorem nodup_map_congr {α β γ : Type} {l : List α} {f : α → β} {g : α → γ}
    (h : ∀ a ∈ l, ∀ b ∈ l, f a = f b ↔ g a = g b) : (l.map f).Nodup ↔ (l.map g).Nodup := by
  rw [List.Nodup, List.Nodup, List.pairwise_map, List.pairwise_map]
  exact List.Pairwise.iff_of_mem fun ha hb => (h _ ha _ hb).not

namespace Declaration

def propertyNames (c : Config) (rows : TypedColumns) : List String :=
  rows.map fun r => c.style.name r.1.field

def typeKeys (c : Config) (rows : TypedColumns) : List String :=
  rows.map fun r => Text.quoteLiteral (c.style.name r.1.field)

theorem names_of_declared {c : Config} {omitted : List Matcher} {columns : List Column}
    {rows : TypedColumns} (h : c.Declares omitted columns rows) :
    propertyNames c rows =
      (columns.filter (c.declares omitted)).map fun column => c.style.name column.field := by
  rw [← h.columns_kept, List.map_map]
  rfl

theorem keys_distinct_iff (c : Config) (rows : TypedColumns) :
    (typeKeys c rows).Nodup ↔ (propertyNames c rows).Nodup :=
  nodup_map_congr fun _ _ _ _ => Text.quote_literal_inj

end Declaration

namespace Table

structure Listed (t : Table) : Prop where
  small : ∀ column ∈ t.columns, ∃ name, column.field = Text.toLower name
  distinct : (t.columns.map (·.field)).Nodup

/-- No two declared columns have the same name once the underscores that raise no letter are
forgotten. -/
def ToldApart (t : Table) (c : Config) (omitted : List Matcher) : Prop :=
  ((t.columns.filter (c.declares omitted)).map fun column => Case.core column.field.toList).Nodup

theorem names_distinct_iff {t : Table} {c : Config} {omitted : List Matcher} {rows : TypedColumns}
    (hl : t.Listed) (h : c.Declares omitted t.columns rows) :
    (Declaration.propertyNames c rows).Nodup ↔ c.style.forgets = false ∨ t.ToldApart c omitted := by
  have hsub : (t.columns.filter (c.declares omitted)).Sublist t.columns := List.filter_sublist
  have hsmall : ∀ column ∈ t.columns.filter (c.declares omitted),
      ∀ ch ∈ column.field.toList, ch.isUpper = false := by
    intro column hm
    obtain ⟨name, hn⟩ := hl.small column (hsub.subset hm)
    rw [hn]
    exact Text.lowered_small name
  rw [Declaration.names_of_declared h]
  cases hf : c.style.forgets with
  | false =>
    refine iff_of_true ?_ (.inl rfl)
    refine (nodup_map_congr fun a ha b hb => ?_).mpr (hl.distinct.sublist (hsub.map _))
    simpa [hf] using c.style.name_alike_iff (hsmall a ha) (hsmall b hb)
  | true =>
    rw [ToldApart, or_iff_right (by simp)]
    refine nodup_map_congr fun a ha b hb => ?_
    simpa [hf] using c.style.name_alike_iff (hsmall a ha) (hsmall b hb)

/-- Of a table whose columns have different names, no property is declared twice and no key stands
twice among the value types, exactly if names are not converted, are converted to snake case, or
differ in more than the underscores that raise no letter. -/
theorem properties_distinct_iff [PatternEngine] (t : Table) (c : Config) {omitted : List Matcher}
    (ho : t.omitted? = some omitted) (hl : t.Listed) :
    ∃ (rows : TypedColumns) (constants : List (String × String)),
      c.Declares omitted t.columns rows ∧ t.render c = .ok (t.layout c rows constants) ∧
      ((Declaration.propertyNames c rows).Nodup ↔
        c.renameAttributeToCase = false ∨ c.case = .snake ∨ t.ToldApart c omitted) ∧
      ((Declaration.typeKeys c rows).Nodup ↔
        c.renameAttributeToCase = false ∨ c.case = .snake ∨ t.ToldApart c omitted) := by
  obtain ⟨rows, hrows, hr⟩ := t.rendered_over c ho
  have hf : c.style.forgets = false ↔ c.renameAttributeToCase = false ∨ c.case = .snake := by
    rw [Property.Style.forgets, Config.style]
    cases c.renameAttributeToCase <;> simp
  have hd := names_distinct_iff hl hrows
  rw [hf, or_assoc] at hd
  exact ⟨rows, _, hrows, hr, hd, (Declaration.keys_distinct_iff c rows).trans hd⟩

def addresses (names : List String) : Table where
  name := "addresses"
  kind := .classDecl
  database := "shop"
  suffix := "model"
  connector := "-"
  file := "addresses"
  omitPatterns := []
  withConstructor := true
  withStatements := false
  columns := names.map fun name => .ofListing name "int" "NO" none none none

theorem addresses_listed {names : List String} (h : (names.map Text.toLower).Nodup) :
    (addresses names).Listed where
  small := by simp [addresses, Column.ofListing]
  distinct := by simpa [addresses, Column.ofListing, Function.comp_def] using h

def renamed : Config := { renameAttributeToCase := true }

theorem underscores_told_apart :
    (addresses ["_id", "user_id", "userid", "user_2"]).omitted? = some [] ∧
      (addresses ["_id", "user_id", "userid", "user_2"]).Listed ∧
      ∃ (rows : TypedColumns) (constants : List (String × String)),
        (addresses ["_id", "user_id", "userid", "user_2"]).render renamed =
          .ok ((addresses ["_id", "user_id", "userid", "user_2"]).layout renamed rows constants) ∧
        Declaration.propertyNames renamed rows = ["_id", "userId", "userid", "user2"] ∧
        (Declaration.propertyNames renamed rows).Nodup ∧
        (Declaration.typeKeys renamed rows).Nodup := by
  have hl : (addresses ["_id", "user_id", "userid", "user_2"]).Listed :=
    addresses_listed (by decide +kernel)
  obtain ⟨rows, constants, hrows, hr, hn, hk⟩ := properties_distinct_iff _ renamed
    (show (addresses ["_id", "user_id", "userid", "user_2"]).omitted? = some [] from rfl) hl
  have ha : (addresses ["_id", "user_id", "userid", "user_2"]).ToldApart renamed [] := by
    rw [ToldApart]
    decide +kernel
  have hp : Declaration.propertyNames renamed rows = ["_id", "userId", "userid", "user2"] := by
    rw [Declaration.names_of_declared hrows]
    decide +kernel
  exact ⟨rfl, hl, rows, constants, hr, hp, hn.mpr (.inr (.inr ha)), hk.mpr (.inr (.inr ha))⟩

theorem address_declared_twice :
    (addresses ["address_1", "address1"]).omitted? = some [] ∧
    (addresses ["address_1", "address1"]).Listed ∧
    (addresses ["address_1", "address1"]).render renamed = .ok (
      "export class AddressesModel \x7b\n    address1: number;\n    address1: number;\n" ++
      ("\n" ++ Declaration.copyingConstructor 4 "AddressesModel"
        "\x7b \x27address1\x27: \x27number\x27, \x27address1\x27: \x27number\x27 \x7d") ++
      "\x7d\n") ∧
    ∀ rows, renamed.Declares [] (addresses ["address_1", "address1"]).columns rows →
      ¬ (Declaration.propertyNames renamed rows).Nodup ∧
      ¬ (Declaration.typeKeys renamed rows).Nodup := by
  have hl : (addresses ["address_1", "address1"]).Listed := addresses_listed (by decide +kernel)
  refine ⟨rfl, hl, congrArg Except.ok (by decide +kernel), fun rows hrows => ?_⟩
  have ha : ¬ ((addresses ["address_1", "address1"]).ToldApart renamed []) := by
    rw [ToldApart]
    decide +kernel
  have hn : ¬ (Declaration.propertyNames renamed rows).Nodup := by
    rwa [names_distinct_iff hl hrows, or_iff_right (by decide)]
  exact ⟨hn, (Declaration.keys_distinct_iff renamed rows).not.mpr hn⟩

end Table

end SchemaTypes
