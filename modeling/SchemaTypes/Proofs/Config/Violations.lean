import SchemaTypes.Pattern.Reader
import SchemaTypes.Proofs.Config.Conditions
import SchemaTypes.Proofs.Config.Reading

/-!
# The first violation

Reading a configuration fails with the first violated condition, and with nothing else. The checks
report violations one after the other; what comes after them cannot fail.
-/

set_option autoImplicit false

namespace SchemaTypes

/-- A check gives the first violation, or a value if there is none. -/
def Reports {α : Type} (result : Except ConfigFault α) (violations : List ConfigFault) : Prop :=
  match result with
  | .ok _ => violations = []
  | .error fault => violations.head? = some fault

namespace Reports
variable {α β : Type}

theorem ok_iff {r : Except ConfigFault α} {vs : List ConfigFault} (h : Reports r vs) :
    (∃ a, r = .ok a) ↔ vs = [] := by
  cases r with
  | ok a => exact ⟨fun _ => h, fun _ => ⟨a, rfl⟩⟩
  | error fault =>
    constructor
    · rintro ⟨a, ha⟩
      cases ha
    · rintro rfl
      cases h

theorem error_iff {r : Except ConfigFault α} {vs : List ConfigFault} (h : Reports r vs)
    (fault : ConfigFault) : r = .error fault ↔ vs.head? = some fault := by
  cases r with
  | ok a =>
    rw [show vs = [] from h]
    exact ⟨nofun, nofun⟩
  | error found =>
    rw [show vs.head? = some found from h, Option.some.injEq, Except.error.injEq]

theorem done (a : α) : Reports (.ok a) [] := rfl

/-- Checks one after the other. Violations of the second are about what the first has found. -/
theorem bind {r : Except ConfigFault α} {next : α → Except ConfigFault β}
    {vs ws : List ConfigFault} (h : Reports r vs) (hn : ∀ a, r = .ok a → Reports (next a) ws) :
    Reports (r >>= next) (vs ++ ws) := by
  cases r with
  | ok a =>
    rw [show vs = [] from h, List.nil_append]
    exact hn a rfl
  | error fault =>
    have hv : vs.head? = some fault := h
    change (vs ++ ws).head? = some fault
    rw [List.head?_append, hv]
    rfl

end Reports

namespace Config

theorem or_fault_reports {α : Type} (value : Option α) (fault : ConfigFault) :
    Reports (orFault value fault) (absent value fault) := by
  cases value <;> rfl

theorem driver_reports (name : String) :
    Reports (orFault (DatabaseDriver.ofName? name) (.driverUnknown name))
      (unrecognised (some name)) := by
  by_cases hn : name = "mysql"
  · simp [DatabaseDriver.ofName?, unrecognised, orFault, hn, Reports]
  · simp [DatabaseDriver.ofName?, unrecognised, orFault, hn, Reports]

theorem options_report (options : Fields) :
    Reports (connectOptions options) (optionViolations options) := by
  refine (or_fault_reports _ _).bind fun host _ => ?_
  rw [← List.append_nil (absent _ _)]
  exact (or_fault_reports _ _).bind fun user _ => .done _

theorem entry_reports (entry : Json) (index : Nat) :
    Reports (checkEntry index entry) (entryViolation? entry index).toList := by
  cases entry with
  | string name =>
    by_cases hn : name = "" <;> simp [checkEntry, entryViolation?, hn, Reports]
  | object fields =>
    by_cases hn : (Fields.string? fields "name").isSome <;>
      simp [checkEntry, entryViolation?, hasName, hn, Reports]
  | _ => rfl

theorem entries_report (entries : List Json) (start : Nat) :
    Reports (checkEntries start entries) (entryViolations entries start) := by
  induction entries generalizing start with
  | nil => rfl
  | cons entry rest ih =>
    have hc : checkEntries start (entry :: rest) =
        checkEntry start entry >>= fun _ => checkEntries (start + 1) rest := by
      rw [checkEntries]
      cases checkEntry start entry <;> rfl
    rw [entry_violations_cons, hc]
    exact (entry_reports entry start).bind fun _ _ => ih (start + 1)

theorem tables_report (entire : Bool) (tables : Option Json) :
    Reports (checkTables entire tables) (tableViolations entire tables) := by
  cases tables with
  | none => cases entire <;> rfl
  | some value =>
    cases value with
    | array entries =>
      have he := entries_report entries 0
      cases entire with
      | true => exact he
      | false =>
        cases entries with
        | nil => rfl
        | cons entry rest => exact he
    | _ => cases entire <;> rfl

theorem required_reports (fields : Fields) :
    Reports (required fields) (requiredViolations fields) := by
  refine (or_fault_reports _ _).bind fun name hname => ?_
  refine (or_fault_reports _ _).bind fun options hoptions => ?_
  -- from here on the violations are those of the name and the options that have been found
  rw [or_fault_ok hname, or_fault_ok hoptions]
  refine (driver_reports name).bind fun driver _ => ?_
  refine (options_report options).bind fun connect _ => ?_
  refine (or_fault_reports _ _).bind fun dir _ => ?_
  refine (or_fault_reports _ _).bind fun defaultDb _ => ?_
  exact (tables_report _ _).bind fun _ _ => .done _

def omitViolations [PatternEngine] (t : Table) : List ConfigFault :=
  (t.omitPatterns.filter fun p => (PatternEngine.parse? p).isNone).map fun p =>
    .omitPattern p t.name

theorem omit_reports [PatternEngine] (t : Table) : Reports (checkOmit t) (omitViolations t) := by
  rw [checkOmit, omitViolations, ← List.head?_filter]
  cases t.omitPatterns.filter fun p => (PatternEngine.parse? p).isNone <;> rfl

theorem omits_report [PatternEngine] (ts : List Table) :
    Reports (ts.forM checkOmit) (ts.flatMap omitViolations) := by
  induction ts with
  | nil => rfl
  | cons t ts ih =>
    rw [List.flatMap_cons]
    exact (omit_reports t).bind fun _ _ => ih

theorem proper_resolves [PatternEngine] (c : Config) {entry : Json} (h : ProperEntry entry) :
    ∃ t, c.resolveTable entry = .ok t ∧ omitViolations t = patternViolations entry := by
  rcases h with ⟨name, rfl, -⟩ | ⟨members, name, rfl, hn⟩
  · exact ⟨_, rfl, rfl⟩
  · have hs := string_given.mpr hn
    refine ⟨c.describedTable members name, ?_, ?_⟩
    · rw [resolveTable, objectTable, hs]
    · simp [omitViolations, patternViolations, describedTable, Fields.text, hs]

theorem proper_entries_resolve [PatternEngine] (c : Config) {entries : List Json}
    (h : ∀ entry ∈ entries, ProperEntry entry) :
    ∃ ts, entries.mapM c.resolveTable = .ok ts ∧
      ts.flatMap omitViolations = entries.flatMap patternViolations := by
  induction entries with
  | nil => exact ⟨[], rfl, rfl⟩
  | cons entry rest ih =>
    obtain ⟨hentry, hrest⟩ := List.forall_mem_cons.mp h
    obtain ⟨t, ht, ho⟩ := proper_resolves c hentry
    obtain ⟨ts, hts, hos⟩ := ih hrest
    refine ⟨t :: ts, ?_, ?_⟩
    · rw [List.mapM_cons, ht, hts]
      rfl
    · rw [List.flatMap_cons, List.flatMap_cons, ho, hos]

theorem required_entries {fields : Fields} {base : Config} (h : required fields = .ok base) :
    ∀ entry ∈ tableEntries fields, ProperEntry entry := by
  have hv := (required_reports fields).ok_iff.mp ⟨base, h⟩
  obtain ⟨-, -, -, -, ht⟩ := required_violations_nil.mp hv
  exact (table_violations_nil.mp ht).2

theorem reading_reports [PatternEngine] (raw : Json) : Reports (ofJson raw) (violations raw) := by
  refine (required_reports _).bind fun base hbase => ?_
  obtain ⟨ts, hts, ho⟩ := proper_entries_resolve (base.withSettings (raw.object?.getD []))
    (required_entries hbase)
  have hp := (omits_report ts).bind fun _ _ => Reports.done
    { base.withSettings (raw.object?.getD []) with tables := ts }
  rw [List.append_nil, ho] at hp
  simp only [hts]
  exact hp

theorem entry_names_missing_at (entry : Json) (index : Nat) :
    entryViolation? entry index ≠ some .tableNameMissing := by
  cases entry with
  | string name => by_cases h : name = "" <;> simp [entryViolation?, h]
  | object members => by_cases h : (Fields.string? members "name").isSome <;>
      simp [entryViolation?, h]
  | _ => simp [entryViolation?]

theorem name_missing_not_violated [PatternEngine] (raw : Json) :
    .tableNameMissing ∉ violations raw := by
  have ha : ∀ {α : Type} (value : Option α) (fault : ConfigFault), fault ≠ .tableNameMissing →
      .tableNameMissing ∉ absent value fault := by
    intro α value fault hf
    cases value <;> simp [absent, hf.symm]
  have hd : ∀ driver, .tableNameMissing ∉ unrecognised driver := by
    intro driver
    cases driver with
    | none => simp [unrecognised]
    | some name => by_cases h : name = "mysql" <;> simp [unrecognised, h]
  have hu : ∀ tables, .tableNameMissing ∉ unlisted tables := by
    intro tables
    cases tables with
    | none => simp [unlisted]
    | some value =>
      cases value with
      | array entries => cases entries <;> simp [unlisted]
      | _ => simp [unlisted]
  have he : ∀ entries start, .tableNameMissing ∉ entryViolations entries start := by
    intro entries start
    simp [entryViolations, entry_names_missing_at]
  have hp : ∀ entry, .tableNameMissing ∉ patternViolations entry := by
    intro entry
    cases entry <;> simp [patternViolations]
  have ht : ∀ entire tables, .tableNameMissing ∉ tableViolations entire tables := by
    intro entire tables
    cases entire <;> simp [tableViolations, hu, he]
  simp [violations, requiredViolations, optionViolations, ha, hd, ht, hp]

/-- A configuration is read exactly if all conditions are met, and otherwise the first violated
condition is the fault. Once the required settings have been checked, no element of `tables` fails
to make a table, so that no fault of that step is ever reported. -/
theorem first_violation_reported [PatternEngine] (raw : Json) :
    ((∃ c, ofJson raw = .ok c) ↔ WellFormed raw) ∧
    (∀ fault, ofJson raw = .error fault ↔ (violations raw).head? = some fault) ∧
    (∀ base, required (raw.object?.getD []) = .ok base → ∀ (c : Config),
      ∀ entry ∈ tableEntries (raw.object?.getD []), ∃ t, c.resolveTable entry = .ok t) ∧
    ofJson raw ≠ .error .tableNameMissing := by
  have hr := reading_reports raw
  refine ⟨?_, hr.error_iff, ?_, ?_⟩
  · rw [hr.ok_iff, well_formed_iff]
  · intro base hbase c entry hentry
    obtain ⟨t, ht, -⟩ := proper_resolves c (required_entries hbase entry hentry)
    exact ⟨t, ht⟩
  · intro h
    have hv := (hr.error_iff _).mp h
    exact name_missing_not_violated raw (List.mem_of_mem_head? hv)

def settingsWith (entire tables : Json) : Json := .object [("driver", .string "mysql"),
  ("driverOptions", .object [("host", .string "h"), ("user", .string "u")]),
  ("dir", .string "out"), ("defaultDb", .string "shop"), ("entireDatabase", entire),
  ("tables", tables)]

theorem mistyped_settings_refused :
    ofJson (settingsWith (.string "true") (.object [])) = .error .tablesNotArray ∧
    ofJson (settingsWith (.bool true) (.array [.string "users", .string "", .null])) =
      .error (.tableEmpty 1) ∧
    (∃ c, ofJson (settingsWith (.bool true) (.object [])) = .ok c) ∧
    ∀ entry ∈ [Json.string "users"], ∃ t, ({} : Config).resolveTable entry = .ok t := by
  obtain ⟨-, ht, -, -⟩ := first_violation_reported (settingsWith (.string "true") (.object []))
  obtain ⟨-, hi, -, -⟩ := first_violation_reported
    (settingsWith (.bool true) (.array [.string "users", .string "", .null]))
  obtain ⟨hw, -, -, -⟩ := first_violation_reported (settingsWith (.bool true) (.object []))
  obtain ⟨-, -, hr, -⟩ := first_violation_reported
    (settingsWith (.bool false) (.array [.string "users"]))
  refine ⟨(ht _).mpr rfl, (hi _).mpr rfl, hw.mpr ?_, hr _ rfl {}⟩
  exact well_formed_iff.mpr rfl

end Config

end SchemaTypes
