import SchemaTypes.Config.Reader

/-!
# Conditions on configurations

A configuration has to meet a list of conditions, and each is violated or not whatever the others
are. No condition is violated exactly if the configuration is well formed.
-/

set_option autoImplicit false

namespace SchemaTypes.Config

def absent {α : Type} (value : Option α) (fault : ConfigFault) : List ConfigFault :=
  if value.isSome then [] else [fault]

def unrecognised (driver : Option String) : List ConfigFault :=
  match driver with
  | some name => if name = "mysql" then [] else [.driverUnknown name]
  | none => []

def optionViolations (options : Fields) : List ConfigFault :=
  absent (options.string? "host") .hostMissing ++ absent (options.string? "user") .userMissing

def entryViolation? (entry : Json) (index : Nat) : Option ConfigFault :=
  match entry with
  | .string name => if name = "" then some (.tableEmpty index) else none
  | .object fields =>
    if (Fields.string? fields "name").isSome then none else some (.tableNameMissingAt index)
  | other => some (.tableKind other.kind)

def entryViolations (entries : List Json) (start : Nat) : List ConfigFault :=
  (entries.zipIdx start).filterMap fun e => entryViolation? e.1 e.2

def unlisted (tables : Option Json) : List ConfigFault :=
  match tables with
  | none => [.tablesMissing]
  | some (.array []) => [.tablesEmpty]
  | some (.array _) => []
  | some _ => [.tablesNotArray]

def tableViolations (entire : Bool) (tables : Option Json) : List ConfigFault :=
  (if entire then [] else unlisted tables) ++
    entryViolations ((tables.bind Json.array?).getD []) 0

def patternViolations [PatternEngine] (entry : Json) : List ConfigFault :=
  match entry with
  | .object fields =>
    ((Fields.strings fields "omit" []).filter fun p => (PatternEngine.parse? p).isNone).map fun p =>
      .omitPattern p (Fields.text fields "name" "")
  | _ => []

def requiredViolations (fields : Fields) : List ConfigFault :=
  [ absent (fields.string? "driver") .driverMissing,
    absent (fields.object? "driverOptions") .driverOptionsMissing,
    unrecognised (fields.string? "driver"),
    optionViolations ((fields.object? "driverOptions").getD []),
    absent (fields.string? "dir") .dirMissing,
    absent (fields.string? "defaultDb") .databaseMissing,
    tableViolations (fields.flag "entireDatabase" false) (fields.get? "tables") ].flatten

/-- All violations of the conditions on a configuration, in the order of the conditions. -/
def violations [PatternEngine] (raw : Json) : List ConfigFault :=
  let fields := raw.object?.getD []
  requiredViolations fields ++ (tableEntries fields).flatMap patternViolations

def ProperEntry (entry : Json) : Prop :=
  (∃ name, entry = .string name ∧ name ≠ "") ∨
  ∃ (members : Fields) (name : String),
    entry = .object members ∧ members.get? "name" = some (.string name)

structure Proper [PatternEngine] (fields : Fields) : Prop where
  driver : fields.get? "driver" = some (.string "mysql")
  options : ∃ (options : Fields) (host user : String),
    fields.get? "driverOptions" = some (.object options) ∧
    options.get? "host" = some (.string host) ∧ options.get? "user" = some (.string user)
  dir : ∃ dir, fields.get? "dir" = some (.string dir)
  defaultDb : ∃ name, fields.get? "defaultDb" = some (.string name)
  listed : fields.get? "entireDatabase" = some (.bool true) ∨
    ∃ entries, fields.get? "tables" = some (.array entries) ∧ entries ≠ []
  entries : ∀ entries, fields.get? "tables" = some (.array entries) →
    ∀ entry ∈ entries, ProperEntry entry
  patterns : ∀ entries, fields.get? "tables" = some (.array entries) →
    ∀ (members : Fields) (patterns : List String), .object members ∈ entries →
      members.get? "omit" = some (.array (patterns.map .string)) →
      ∀ p ∈ patterns, (PatternEngine.parse? p).isSome = true

/-- A configuration is an object that meets all conditions. -/
def WellFormed [PatternEngine] (raw : Json) : Prop := ∃ fields, raw = .object fields ∧ Proper fields

section Fields
variable {fields : Fields} {name : String}

theorem string_given {s : String} :
    fields.string? name = some s ↔ fields.get? name = some (.string s) := by
  rw [Fields.string?, Option.bind_eq_some_iff]
  constructor
  · rintro ⟨value, hv, hs⟩
    cases value <;> cases hs
    exact hv
  · intro h
    exact ⟨_, h, rfl⟩

theorem object_given {members : Fields} :
    fields.object? name = some members ↔ fields.get? name = some (.object members) := by
  rw [Fields.object?, Option.bind_eq_some_iff]
  constructor
  · rintro ⟨value, hv, hs⟩
    cases value <;> cases hs
    exact hv
  · intro h
    exact ⟨_, h, rfl⟩

theorem flag_set : fields.flag name false = true ↔ fields.get? name = some (.bool true) := by
  rw [Fields.flag]
  cases fields.get? name with
  | none => simp
  | some value => cases value <;> simp [Json.bool?]

theorem strings_of_items {items : List Json} {texts : List String} :
    items.mapM Json.string? = some texts ↔ items = texts.map .string := by
  induction items generalizing texts with
  | nil => cases texts <;> simp
  | cons item items ih =>
    rw [List.mapM_cons]
    cases item with
    | string text =>
      cases texts with
      | nil => simp [Json.string?, Option.bind_eq_some_iff]
      | cons text' texts => simp [Json.string?, Option.bind_eq_some_iff, ih, and_left_comm]
    | _ => cases texts <;> simp [Json.string?]

theorem mem_strings {p : String} : p ∈ fields.strings name [] ↔
    ∃ texts : List String,
      fields.get? name = some (.array (texts.map .string)) ∧ p ∈ texts := by
  rw [Fields.strings]
  cases hv : fields.get? name with
  | none => simp
  | some value =>
    cases value with
    | array items =>
      cases ht : items.mapM Json.string? with
      | none =>
        have hn : ∀ texts : List String, items ≠ texts.map .string := by
          rintro texts h
          rw [strings_of_items.mpr h] at ht
          cases ht
        simp [Json.array?, ht, hn]
      | some texts =>
        have hi : ∀ others : List String, items = others.map .string ↔ others = texts := by
          intro others
          rw [← strings_of_items, ht, Option.some.injEq]
          exact eq_comm
        simp [Json.array?, ht, hi]
    | _ => simp [Json.array?]

theorem mem_entries {entry : Json} : entry ∈ tableEntries fields ↔
    ∃ entries, fields.get? "tables" = some (.array entries) ∧ entry ∈ entries := by
  rw [tableEntries]
  cases fields.get? "tables" with
  | none => simp
  | some value => cases value <;> simp [Json.array?]

end Fields

theorem absent_nil {α : Type} {value : Option α} {fault : ConfigFault} :
    absent value fault = [] ↔ ∃ a, value = some a := by
  cases value <;> simp [absent]

theorem driver_given {fields : Fields} :
    absent (fields.string? "driver") .driverMissing = [] ∧
        unrecognised (fields.string? "driver") = [] ↔
      fields.get? "driver" = some (.string "mysql") := by
  rw [absent_nil, ← string_given]
  cases fields.string? "driver" <;> simp [unrecognised]

theorem options_given {fields : Fields} :
    absent (fields.object? "driverOptions") .driverOptionsMissing = [] ∧
        optionViolations ((fields.object? "driverOptions").getD []) = [] ↔
      ∃ (options : Fields) (host user : String),
        fields.get? "driverOptions" = some (.object options) ∧
        options.get? "host" = some (.string host) ∧
        options.get? "user" = some (.string user) := by
  simp only [absent_nil, ← object_given]
  cases fields.object? "driverOptions" <;> simp [optionViolations, absent_nil, string_given]

theorem entry_violations_cons (entry : Json) (rest : List Json) (start : Nat) :
    entryViolations (entry :: rest) start =
      (entryViolation? entry start).toList ++ entryViolations rest (start + 1) := by
  rw [entryViolations, List.zipIdx_cons, List.filterMap_cons]
  cases entryViolation? entry start <;> rfl

theorem entry_violation_none {entry : Json} {index : Nat} :
    entryViolation? entry index = none ↔ ProperEntry entry := by
  cases entry with
  | string name => simp [entryViolation?, ProperEntry]
  | object members =>
    simp [entryViolation?, ProperEntry, Option.isSome_iff_exists, string_given]
  | _ => simp [entryViolation?, ProperEntry]

theorem entry_violations_nil {entries : List Json} {start : Nat} :
    entryViolations entries start = [] ↔ ∀ entry ∈ entries, ProperEntry entry := by
  induction entries generalizing start with
  | nil => simp [entryViolations]
  | cons entry rest ih =>
    rw [entry_violations_cons, List.append_eq_nil_iff, ih, List.forall_mem_cons,
      ← entry_violation_none, Option.toList_eq_nil_iff]

theorem table_violations_nil {fields : Fields} :
    tableViolations (fields.flag "entireDatabase" false) (fields.get? "tables") = [] ↔
      (fields.get? "entireDatabase" = some (.bool true) ∨
        ∃ entries, fields.get? "tables" = some (.array entries) ∧ entries ≠ []) ∧
      ∀ entry ∈ tableEntries fields, ProperEntry entry := by
  have hu : unlisted (fields.get? "tables") = [] ↔
      ∃ entries, fields.get? "tables" = some (.array entries) ∧ entries ≠ [] := by
    cases fields.get? "tables" with
    | none => simp [unlisted]
    | some value =>
      cases value with
      | array entries => cases entries <;> simp [unlisted]
      | _ => simp [unlisted]
  rw [tableViolations, List.append_eq_nil_iff, entry_violations_nil, ← flag_set, ← hu]
  cases fields.flag "entireDatabase" false <;> simp [tableEntries]

theorem pattern_violations_nil [PatternEngine] {entry : Json} : patternViolations entry = [] ↔
    ∀ (members : Fields) (patterns : List String), entry = .object members →
      members.get? "omit" = some (.array (patterns.map .string)) →
      ∀ p ∈ patterns, (PatternEngine.parse? p).isSome = true := by
  cases entry with
  | object members =>
    rw [patternViolations, List.map_eq_nil_iff, List.filter_eq_nil_iff]
    constructor
    · rintro h members patterns ⟨rfl⟩ ho p hp
      simpa [Option.isSome_iff_ne_none] using h p (mem_strings.mpr ⟨patterns, ho, hp⟩)
    · intro h p hp
      obtain ⟨patterns, ho, hp⟩ := mem_strings.mp hp
      simpa [Option.isSome_iff_ne_none] using h members patterns rfl ho p hp
  | _ => simp [patternViolations]

theorem required_violations_nil {fields : Fields} : requiredViolations fields = [] ↔
    fields.get? "driver" = some (.string "mysql") ∧
    (∃ (options : Fields) (host user : String),
      fields.get? "driverOptions" = some (.object options) ∧
      options.get? "host" = some (.string host) ∧ options.get? "user" = some (.string user)) ∧
    (∃ dir, fields.get? "dir" = some (.string dir)) ∧
    (∃ name, fields.get? "defaultDb" = some (.string name)) ∧
    tableViolations (fields.flag "entireDatabase" false) (fields.get? "tables") = [] := by
  rw [← driver_given, ← options_given]
  simp only [requiredViolations, List.flatten_cons, List.flatten_nil, List.append_eq_nil_iff,
    absent_nil, string_given]
  grind

theorem proper_iff [PatternEngine] {fields : Fields} : Proper fields ↔
    requiredViolations fields = [] ∧ (tableEntries fields).flatMap patternViolations = [] := by
  rw [required_violations_nil, table_violations_nil, List.flatMap_eq_nil_iff]
  simp only [mem_entries, pattern_violations_nil]
  constructor
  · intro h
    refine ⟨⟨h.driver, h.options, h.dir, h.defaultDb, h.listed, ?_⟩, ?_⟩
    · rintro entry ⟨entries, ht, hm⟩
      exact h.entries entries ht entry hm
    · rintro entry ⟨entries, ht, hm⟩ members patterns rfl
      exact h.patterns entries ht members patterns hm
  · rintro ⟨⟨hdriver, hoptions, hdir, hdb, hl, he⟩, hp⟩
    refine ⟨hdriver, hoptions, hdir, hdb, hl, ?_, ?_⟩
    · intro entries ht entry hm
      exact he entry ⟨entries, ht, hm⟩
    · intro entries ht members patterns hm
      exact hp _ ⟨entries, ht, hm⟩ members patterns rfl

theorem well_formed_iff [PatternEngine] {raw : Json} : WellFormed raw ↔ violations raw = [] := by
  rw [violations, List.append_eq_nil_iff, ← proper_iff]
  cases raw with
  | object fields => simp [WellFormed, Json.object?]
  | _ =>
    have hn : ¬ Proper [] := fun h => nomatch h.driver
    simp [WellFormed, Json.object?, hn]

end SchemaTypes.Config
