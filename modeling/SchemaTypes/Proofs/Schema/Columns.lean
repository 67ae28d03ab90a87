import SchemaTypes.Proofs.Schema.Decoding

/-!
# Columns of a table

A server lists the columns of a table in rows. Either every row is told as a column, in order, or
none is, and then the error is about the first value at fault.
-/

set_option autoImplicit false

namespace SchemaTypes

def columnSlots : List Slot := [.named "Field" true, .named "Type" true, .named "Null" true,
  .named "Key" false, .named "Default" false, .named "Extra" false]

namespace Row

/-- A value is this text, or it is null and the text is empty. -/
def Holds (r : Row) (name text : String) : Prop :=
  r.cells.lookup name = some (.text text) ∨ r.cells.lookup name = some .null ∧ text = ""

structure Tells (r : Row) (c : Column) : Prop where
  field : ∃ text, r.cells.lookup "Field" = some (.text text) ∧ c.field = Text.toLower text
  sqlType : ∃ text, r.cells.lookup "Type" = some (.text text) ∧ c.sqlType = Text.toLower text
  nullable : ∃ text, r.cells.lookup "Null" = some (.text text) ∧
    (c.nullable = true ↔ Text.Spells "YES" text)
  key : r.Holds "Key" c.key
  default : r.cells.lookup "Default" = some (c.default.elim .null .text)
  extra : r.Holds "Extra" c.extra

theorem holds_iff {r : Row} {name text : String} :
    r.Holds name text ↔ ∃ value : Option String,
      r.cells.lookup name = some (value.elim .null .text) ∧ value.getD "" = text := by
  constructor
  · rintro (h | ⟨h, rfl⟩)
    · exact ⟨some text, h, rfl⟩
    · exact ⟨none, h, rfl⟩
  · rintro ⟨value, h, rfl⟩
    cases value with
    | none => exact .inr ⟨h, rfl⟩
    | some text => exact .inl h

theorem column_ok_iff {r : Row} {c : Column} : r.column = .ok c ↔ r.Tells c := by
  have hyes : ∀ text, Text.sameIgnoringCase text "YES" = true ↔ Text.Spells "YES" text :=
    Text.spells_iff rfl
  constructor
  · intro h
    obtain ⟨field, hfield, h⟩ := bind_ok h
    obtain ⟨type, htype, h⟩ := bind_ok h
    obtain ⟨null, hnull, h⟩ := bind_ok h
    obtain ⟨key, hkey, h⟩ := bind_ok h
    obtain ⟨default, hdefault, h⟩ := bind_ok h
    obtain ⟨extra, hextra, h⟩ := bind_ok h
    cases h
    exact {
      field := ⟨field, required_ok_iff.mp hfield, rfl⟩
      sqlType := ⟨type, required_ok_iff.mp htype, rfl⟩
      nullable := ⟨null, required_ok_iff.mp hnull, hyes null⟩
      key := holds_iff.mpr ⟨key, decode_ok_iff.mp hkey, rfl⟩
      default := decode_ok_iff.mp hdefault
      extra := holds_iff.mpr ⟨extra, decode_ok_iff.mp hextra, rfl⟩ }
  · intro h
    obtain ⟨field, hfield, hf⟩ := h.field
    obtain ⟨type, htype, ht⟩ := h.sqlType
    obtain ⟨null, hnull, hn⟩ := h.nullable
    obtain ⟨key, hkey, hk⟩ := holds_iff.mp h.key
    obtain ⟨extra, hextra, he⟩ := holds_iff.mp h.extra
    have hc : Column.ofListing field type null key c.default extra = c := by
      have hb : Text.sameIgnoringCase null "YES" = c.nullable :=
        Bool.eq_iff_iff.mpr ((hyes null).trans hn.symm)
      rw [Column.ofListing, ← hf, ← ht, hb, hk, he]
    rw [column, named, named, named, named, named, named, required_ok_iff.mpr hfield,
      required_ok_iff.mpr htype, required_ok_iff.mpr hnull, decode_ok_iff.mpr hkey,
      decode_ok_iff.mpr h.default, decode_ok_iff.mpr hextra]
    exact congrArg Except.ok hc

theorem column_fails (r : Row) : FailsWith r.column (r.fault? columnSlots) := by
  simp only [columnSlots, fault_cons]
  exact (required_fails (.named "Field" true) rfl r).bind fun field _ =>
    (required_fails (.named "Type" true) rfl r).bind fun type _ =>
    (required_fails (.named "Null" true) rfl r).bind fun null _ =>
    (decode_fails (.named "Key" false) rfl r).bind fun key _ =>
    (decode_fails (.named "Default" false) rfl r).bind fun default _ =>
    (decode_fails (.named "Extra" false) rfl r).bind fun extra _ =>
    .done (Column.ofListing field type null key default extra)

end Row

/-- From the rows that list the columns of a table either all columns are read or none. They are
read exactly if every row has all six values, each of them text or null and the first three not
null; then there is one column for each row, in order, and it is what the row tells. Otherwise the
error is about the first row that has a fault and about the first fault in it, and its message tells
which fault of which value this is. -/
theorem Server.columns_all_or_nothing {s : Server} {database table : String} {rows : List Row}
    (h : s.answer (Query.showColumns database table).sql = .rows rows) :
    ((∃ columns, s.columns database table = .ok columns) ↔
      ∀ r ∈ rows, ∀ slot ∈ columnSlots, slot.Fits r) ∧
    (∀ columns, s.columns database table = .ok columns ↔ List.Forall₂ Row.Tells rows columns) ∧
    (∀ e, s.columns database table = .error e ↔
      ∃ fault, firstFault? columnSlots rows = some fault ∧ e = .rowDecode fault.message) ∧
    Function.Injective RowFault.message := by
  have hc : s.columns database table = decoded (rows.mapM Row.column) := by simp only [columns, h]
  rw [hc]
  exact ⟨rows_fit_iff Row.column_fails, rows_ok_iff fun _ _ => Row.column_ok_iff,
    rows_error_iff Row.column_fails, RowFault.message_injective⟩

def auditRows : List Row := [
  ⟨[("Field", .text "ID"), ("Type", .text "INT"), ("Null", .text "NO"), ("Key", .text "PRI"),
    ("Default", .null), ("Extra", .null)]⟩,
  ⟨[("Field", .text "at"), ("Type", .text "date"), ("Null", .text "yEs"), ("Key", .null),
    ("Default", .text ""), ("Extra", .text "")]⟩]

def tornRow : Row :=
  ⟨[("Field", .text "by"), ("Type", .binary), ("Null", .null), ("Key", .text ""),
    ("Default", .null), ("Extra", .text "")]⟩

def auditServer (rows : List Row) : Server :=
  .ofScript .accept [((Query.showColumns "shop" "audit").sql, .rows rows)]

theorem Server.audit_columns_read :
    (auditServer auditRows).answer (Query.showColumns "shop" "audit").sql = .rows auditRows ∧
    (auditServer auditRows).columns "shop" "audit" = .ok [⟨"id", "int", false, "PRI", none, ""⟩,
      ⟨"at", "date", true, "", some "", ""⟩] ∧
    (auditServer (auditRows ++ [tornRow])).columns "shop" "audit" =
      .error (.rowDecode (RowFault.notText "Type").message) := by
  have hr : ∀ rows, (auditServer rows).answer (Query.showColumns "shop" "audit").sql =
      .rows rows := fun rows => by simp [auditServer, ofScript]
  obtain ⟨-, hok, -, -⟩ := columns_all_or_nothing (hr auditRows)
  obtain ⟨-, -, herr, -⟩ := columns_all_or_nothing (hr (auditRows ++ [tornRow]))
  refine ⟨hr auditRows, (hok _).mpr (.cons ?_ (.cons ?_ .nil)), (herr _).mpr ⟨_, rfl, rfl⟩⟩
  · exact {
      field := ⟨"ID", rfl, by decide +kernel⟩
      sqlType := ⟨"INT", rfl, by decide +kernel⟩
      nullable := ⟨"NO", rfl, by decide +kernel⟩
      key := .inl rfl
      default := rfl
      extra := .inr ⟨rfl, rfl⟩ }
  · exact {
      field := ⟨"at", rfl, by decide +kernel⟩
      sqlType := ⟨"date", rfl, by decide +kernel⟩
      nullable := ⟨"yEs", rfl, by decide +kernel⟩
      key := .inr ⟨rfl, rfl⟩
      default := rfl
      extra := .inl rfl }

end SchemaTypes
