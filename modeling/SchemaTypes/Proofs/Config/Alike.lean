import Mathlib.Data.List.Forall2
import SchemaTypes.Proofs.Config.Settings

/-!
# Configurations that say the same

Two groups of fields are read as the same configuration, or with the same fault, if every setting
has the same value in both as far as it counts: at the top, in the options, and in the elements of
the tables.
-/

set_option autoImplicit false

namespace SchemaTypes

namespace Config
open Fields (Alike)

def plainSettings : List (String × Setting) :=
  [ ("driver", .text), ("dir", .text), ("defaultDb", .text), ("entireDatabase", .flag),
    ("case", .choice ["camel", "pascal", "snake"]),
    ("defaultType", .choice ["interface", "class", "type"]),
    ("tabSize", .natural Json.unsignedBound), ("renameTableToCase", .flag),
    ("renameAttributeToCase", .flag), ("setNullAsOptional", .flag), ("dateTimeAsDate", .flag),
    ("dateAsDate", .flag), ("modelViews", .flag), ("defaultConnector", .text),
    ("defaultSuffix", .text), ("reWrite", .flag), ("logLevel", .text) ]

def serverSettings : List (String × Setting) :=
  [ ("host", .text), ("user", .text), ("password", .text), ("port", .natural portBound),
    ("socketPath", .text) ]

def classSettings : List (String × Setting) := [("constructor", .flag), ("sqlCRUD", .flag)]

def tableSettings : List (String × Setting) :=
  [ ("name", .text), ("type", .choice ["interface", "class", "type"]), ("suffix", .text),
    ("connector", .text), ("database", .nonEmptyText), ("file", .nonEmptyText), ("omit", .texts),
    ("constructor", .flag), ("sqlCRUD", .flag) ]

def partedSettings : List (String × List (String × Setting)) :=
  [("driverOptions", serverSettings), ("classOptions", classSettings)]

inductive EntryAlike : Json → Json → Prop where
  | same (entry : Json) : EntryAlike entry entry
  | object {fields fields' : Fields} (h : Alike tableSettings fields fields') :
    EntryAlike (.object fields) (.object fields')

inductive TablesAlike (entire : Bool) : Option Json → Option Json → Prop where
  | same (tables : Option Json) : TablesAlike entire tables tables
  | array {entries entries' : List Json} (h : List.Forall₂ EntryAlike entries entries') :
    TablesAlike entire (some (.array entries)) (some (.array entries'))
  | unread {tables tables' : Option Json} (he : entire = true) (h : tables.bind Json.array? = none)
    (h' : tables'.bind Json.array? = none) : TablesAlike entire tables tables'

/-- Configurations that say the same. -/
structure ReadAlike (fields fields' : Fields) : Prop where
  plain : Alike plainSettings fields fields'
  parted : ∀ p ∈ partedSettings,
    Option.Rel (Alike p.2) (fields.object? p.1) (fields'.object? p.1)
  tables : TablesAlike (fields.flag "entireDatabase" false) (fields.get? "tables")
    (fields'.get? "tables")

section Reading
variable {fields fields' : Fields}

theorem case_named {name : String} {case : Case} (h : Case.ofName? name = some case) :
    name ∈ ["camel", "pascal", "snake"] := by
  have hn : case.name = name := by simpa using List.find?_some h
  cases case <;> simp [← hn, Case.name]

theorem kind_named {name : String} {kind : OutputKind} (h : OutputKind.ofName? name = some kind) :
    name ∈ ["interface", "class", "type"] := by
  have hn : kind.name = name := by simpa using List.find?_some h
  cases kind <;> simp [← hn, OutputKind.name]

theorem connect_alike (h : Alike serverSettings fields fields') :
    connectOptions fields = connectOptions fields' := by
  have text : ∀ name, (name, Setting.text) ∈ serverSettings →
      fields.string? name = fields'.string? name := fun _ => h.string
  have port : fields.below? "port" portBound = fields'.below? "port" portBound :=
    h.below (by simp [serverSettings])
  rw [connectOptions, connectOptions, text "host" (by simp [serverSettings]),
    text "user" (by simp [serverSettings]), text "password" (by simp [serverSettings]),
    text "socketPath" (by simp [serverSettings]), port]

theorem described_alike (h : Alike tableSettings fields fields') (c : Config) (name : String) :
    c.describedTable fields name = c.describedTable fields' name := by
  have kind : fields.choice "type" OutputKind.ofName? c.defaultType =
      fields'.choice "type" OutputKind.ofName? c.defaultType :=
    h.choice (by simp [tableSettings]) (fun _ _ => kind_named) _
  have text : ∀ name, (name, Setting.text) ∈ tableSettings → ∀ fallback,
      fields.text name fallback = fields'.text name fallback := fun _ => h.text
  have given : ∀ name, (name, Setting.nonEmptyText) ∈ tableSettings →
      fields.nonEmpty? name = fields'.nonEmpty? name := fun _ => h.nonempty
  have patterns : fields.strings "omit" [] = fields'.strings "omit" [] :=
    h.strings (by simp [tableSettings]) []
  have flag : ∀ name, (name, Setting.flag) ∈ tableSettings → ∀ fallback,
      fields.flag name fallback = fields'.flag name fallback := fun _ => h.flag
  rw [describedTable, describedTable, kind, given "database" (by simp [tableSettings]),
    text "suffix" (by simp [tableSettings]), text "connector" (by simp [tableSettings]),
    given "file" (by simp [tableSettings]), patterns, flag "constructor" (by simp [tableSettings]),
    flag "sqlCRUD" (by simp [tableSettings])]

theorem settings_alike (h : Alike plainSettings fields fields')
    (hc : Option.Rel (Alike classSettings) (fields.object? "classOptions")
      (fields'.object? "classOptions")) (c : Config) :
    c.withSettings fields = c.withSettings fields' := by
  have classes : ∀ name, (name, Setting.flag) ∈ classSettings → ∀ fallback,
      ((fields.object? "classOptions").getD []).flag name fallback =
        ((fields'.object? "classOptions").getD []).flag name fallback := by
    intro name hm fallback
    generalize fields.object? "classOptions" = given at hc
    generalize fields'.object? "classOptions" = given' at hc
    cases hc with
    | none => rfl
    | some ha => exact ha.flag hm fallback
  have case : fields.choice "case" Case.ofName? c.case =
      fields'.choice "case" Case.ofName? c.case :=
    h.choice (by simp [plainSettings]) (fun _ _ => case_named) _
  have kind : fields.choice "defaultType" OutputKind.ofName? c.defaultType =
      fields'.choice "defaultType" OutputKind.ofName? c.defaultType :=
    h.choice (by simp [plainSettings]) (fun _ _ => kind_named) _
  have tab : fields.below? "tabSize" Json.unsignedBound =
      fields'.below? "tabSize" Json.unsignedBound := h.below (by simp [plainSettings])
  have flag : ∀ name, (name, Setting.flag) ∈ plainSettings → ∀ fallback,
      fields.flag name fallback = fields'.flag name fallback := fun _ => h.flag
  have text : ∀ name, (name, Setting.text) ∈ plainSettings → ∀ fallback,
      fields.text name fallback = fields'.text name fallback := fun _ => h.text
  have level : fields.string? "logLevel" = fields'.string? "logLevel" :=
    h.string (by simp [plainSettings])
  simp only [withSettings, case, kind, tab, level,
    classes "constructor" (by simp [classSettings]), classes "sqlCRUD" (by simp [classSettings]),
    flag "renameTableToCase" (by simp [plainSettings]),
    flag "renameAttributeToCase" (by simp [plainSettings]),
    flag "setNullAsOptional" (by simp [plainSettings]),
    flag "dateTimeAsDate" (by simp [plainSettings]), flag "dateAsDate" (by simp [plainSettings]),
    flag "modelViews" (by simp [plainSettings]), flag "reWrite" (by simp [plainSettings]),
    text "defaultConnector" (by simp [plainSettings]),
    text "defaultSuffix" (by simp [plainSettings])]

theorem name_alike (h : Alike tableSettings fields fields') :
    fields.string? "name" = fields'.string? "name" := h.string (by simp [tableSettings])

theorem EntryAlike.checked {entry entry' : Json} (h : EntryAlike entry entry') (index : Nat) :
    checkEntry index entry = checkEntry index entry' := by
  cases h with
  | same => rfl
  | object h => rw [checkEntry, checkEntry, hasName, hasName, name_alike h]

theorem EntryAlike.resolved {entry entry' : Json} (h : EntryAlike entry entry') (c : Config) :
    c.resolveTable entry = c.resolveTable entry' := by
  cases h with
  | same => rfl
  | object h =>
    rw [resolveTable, resolveTable, objectTable, objectTable, name_alike h]
    simp only [described_alike h]

theorem entries_checked {entries entries' : List Json}
    (h : List.Forall₂ EntryAlike entries entries') (index : Nat) :
    checkEntries index entries = checkEntries index entries' := by
  induction h generalizing index with
  | nil => rfl
  | cons he _ ih => rw [checkEntries, checkEntries, he.checked, ih]

theorem entries_resolved {entries entries' : List Json}
    (h : List.Forall₂ EntryAlike entries entries') (c : Config) :
    entries.mapM c.resolveTable = entries'.mapM c.resolveTable := by
  induction h with
  | nil => rfl
  | cons he _ ih => rw [List.mapM_cons, List.mapM_cons, he.resolved, ih]

theorem TablesAlike.checked {entire : Bool} {tables tables' : Option Json}
    (h : TablesAlike entire tables tables') :
    checkTables entire tables = checkTables entire tables' := by
  cases h with
  | same => rfl
  | @array entries entries' h =>
    have hn : entries.isEmpty = entries'.isEmpty := by cases h <;> rfl
    rw [checkTables, checkTables, hn, entries_checked h]
  | unread he h h' =>
    have hu : ∀ given : Option Json, given.bind Json.array? = none →
        checkTables true given = .ok () := by
      intro given hg
      cases given with
      | none => rfl
      | some value =>
        cases value with
        | array items => cases hg
        | _ => rfl
    rw [he, hu tables h, hu tables' h']

theorem TablesAlike.entries {entire : Bool} {tables tables' : Option Json}
    (h : TablesAlike entire tables tables') :
    List.Forall₂ EntryAlike ((tables.bind Json.array?).getD [])
      ((tables'.bind Json.array?).getD []) := by
  cases h with
  | same => exact List.forall₂_same.mpr fun entry _ => .same entry
  | array h => exact h
  | unread _ h h' =>
    rw [h, h']
    exact .nil

theorem ReadAlike.required (h : ReadAlike fields fields') :
    required fields = required fields' := by
  have text : ∀ name, (name, Setting.text) ∈ plainSettings →
      fields.string? name = fields'.string? name := fun _ => h.plain.string
  have entire : fields.flag "entireDatabase" false = fields'.flag "entireDatabase" false :=
    h.plain.flag (by simp [plainSettings]) false
  have tables := h.tables.checked
  rw [entire] at tables
  have server := h.parted ("driverOptions", serverSettings) (by simp [partedSettings])
  simp only [Config.required, text "driver" (by simp [plainSettings]),
    text "dir" (by simp [plainSettings]), text "defaultDb" (by simp [plainSettings]), entire,
    tables]
  generalize fields.object? "driverOptions" = given at server ⊢
  generalize fields'.object? "driverOptions" = given' at server ⊢
  cases server with
  | none => rfl
  | some ho => simp only [orFault, bind, Except.bind, connect_alike ho]

theorem ReadAlike.read [PatternEngine] (h : ReadAlike fields fields') :
    ofJson (.object fields) = ofJson (.object fields') := by
  have hs : ∀ base : Config, base.withSettings fields = base.withSettings fields' :=
    settings_alike h.plain (h.parted ("classOptions", classSettings) (by simp [partedSettings]))
  have ht : ∀ c : Config, (tableEntries fields).mapM c.resolveTable =
      (tableEntries fields').mapM c.resolveTable := entries_resolved h.tables.entries
  simp only [ofJson, Json.object?, Option.getD_some, h.required, hs, ht]

end Reading

end Config

end SchemaTypes
