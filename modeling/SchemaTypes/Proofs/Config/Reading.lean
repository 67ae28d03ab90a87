import Mathlib.Data.List.Forall2
import SchemaTypes.Config.Reader

/-!
# The steps of reading a configuration

A configuration that has been read comes from its required settings, with the other settings laid
over them, and has one table for each element of `tables`.
-/

set_option autoImplicit false

namespace SchemaTypes

theorem paired_left {α β : Type} {R : α → β → Prop} {as : List α} {bs : List β}
    (h : List.Forall₂ R as bs) {b : β} (hb : b ∈ bs) : ∃ a ∈ as, R a b := by
  induction h with
  | nil => cases hb
  | cons hr _ ih =>
    rcases List.mem_cons.mp hb with rfl | hb
    · exact ⟨_, by simp, hr⟩
    · obtain ⟨a, ha, hr⟩ := ih hb
      exact ⟨a, by simp [ha], hr⟩

theorem paired_right {α β : Type} {R : α → β → Prop} {as : List α} {bs : List β}
    (h : List.Forall₂ R as bs) {a : α} (ha : a ∈ as) : ∃ b ∈ bs, R a b :=
  paired_left (R := flip R) h.flip ha

section Except
variable {ε α β : Type}

theorem bind_ok {x : Except ε α} {f : α → Except ε β} {b : β} (h : x >>= f = .ok b) :
    ∃ a, x = .ok a ∧ f a = .ok b := by
  cases x with
  | error e => cases h
  | ok a => exact ⟨a, rfl, h⟩

theorem traversal_pairs {f : α → Except ε β} {as : List α} {bs : List β}
    (h : as.mapM f = .ok bs) : List.Forall₂ (fun a b => f a = .ok b) as bs := by
  induction as generalizing bs with
  | nil =>
    cases h
    exact .nil
  | cons a as ih =>
    rw [List.mapM_cons] at h
    obtain ⟨b, ha, h⟩ := bind_ok h
    obtain ⟨rest, has, h⟩ := bind_ok h
    cases h
    exact .cons ha (ih has)

end Except

namespace Config

theorem or_fault_ok {α : Type} {value : Option α} {fault : ConfigFault} {a : α}
    (h : orFault value fault = .ok a) : value = some a := by
  cases value with
  | none => cases h
  | some b =>
    cases h
    rfl

/-- What the required settings say, and that nothing else is set by them. -/
structure RequiredFrom (fields : Fields) (base : Config) : Prop where
  driver : (fields.string? "driver").bind DatabaseDriver.ofName? = some base.driver
  connect : ∃ options, fields.object? "driverOptions" = some options ∧
    connectOptions options = .ok base.connect
  dir : fields.string? "dir" = some base.dir
  defaultDb : fields.string? "defaultDb" = some base.defaultDb
  entireDatabase : base.entireDatabase = fields.flag "entireDatabase" false
  tables : checkTables base.entireDatabase (fields.get? "tables") = .ok ()
  others : base = {
    driver := base.driver
    connect := base.connect
    dir := base.dir
    defaultDb := base.defaultDb
    entireDatabase := base.entireDatabase }

theorem required_iff {fields : Fields} {base : Config} :
    required fields = .ok base ↔ RequiredFrom fields base := by
  constructor
  · intro h
    obtain ⟨name, hname, h⟩ := bind_ok h
    obtain ⟨options, hoptions, h⟩ := bind_ok h
    obtain ⟨driver, hdriver, h⟩ := bind_ok h
    obtain ⟨connect, hconnect, h⟩ := bind_ok h
    obtain ⟨dir, hdir, h⟩ := bind_ok h
    obtain ⟨defaultDb, hdb, h⟩ := bind_ok h
    obtain ⟨_, htables, h⟩ := bind_ok h
    cases h
    exact {
      driver := by rw [or_fault_ok hname, Option.bind_some, or_fault_ok hdriver]
      connect := ⟨options, or_fault_ok hoptions, hconnect⟩
      dir := or_fault_ok hdir
      defaultDb := or_fault_ok hdb
      entireDatabase := rfl
      tables := htables
      others := rfl }
  · intro h
    obtain ⟨name, hname, hdriver⟩ := Option.bind_eq_some_iff.mp h.driver
    obtain ⟨options, hoptions, hconnect⟩ := h.connect
    have htables := h.tables
    rw [h.entireDatabase] at htables
    rw [h.others, h.entireDatabase]
    simp only [required, orFault, hname, hoptions, hdriver, hconnect, h.dir, h.defaultDb, htables,
      bind, Except.bind, pure, Except.pure]

theorem read_steps [PatternEngine] {raw : Json} {c : Config} (h : ofJson raw = .ok c) :
    ∃ base ts, required (raw.object?.getD []) = .ok base ∧
      List.Forall₂
        (fun entry t => (base.withSettings (raw.object?.getD [])).resolveTable entry = .ok t)
        (tableEntries (raw.object?.getD [])) ts ∧
      ts.forM checkOmit = .ok () ∧
      c = { base.withSettings (raw.object?.getD []) with tables := ts } := by
  obtain ⟨base, hb, h⟩ := bind_ok h
  obtain ⟨ts, ht, h⟩ := bind_ok h
  obtain ⟨_, ho, h⟩ := bind_ok h
  cases h
  exact ⟨base, ts, hb, traversal_pairs ht, ho, rfl⟩

theorem resolved_unmarked {c : Config} {entry : Json} {t : Table}
    (h : c.resolveTable entry = .ok t) : t.unreadable = false := by
  cases entry with
  | string name =>
    cases h
    rfl
  | object fields =>
    rw [resolveTable, objectTable] at h
    split at h
    · cases h
    · cases h
      rfl
  | _ => cases h

theorem read_tables_unmarked [PatternEngine] {raw : Json} {c : Config} (h : ofJson raw = .ok c) :
    ∀ t ∈ c.tables, t.unreadable = false := by
  obtain ⟨base, ts, -, hp, -, rfl⟩ := read_steps h
  intro t ht
  obtain ⟨entry, -, hr⟩ := paired_left hp ht
  exact resolved_unmarked hr

end Config

end SchemaTypes
