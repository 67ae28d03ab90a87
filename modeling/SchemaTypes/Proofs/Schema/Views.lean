import SchemaTypes.Proofs.Schema.Decoding
import SchemaTypes.Proofs.Schema.Queries
import SchemaTypes.Proofs.Schema.Replies

/-!
# Views in a list of tables

A server is asked for the tables of a database by one query, with views or without. Its reply is
read in full before views are left out, so that asking without them hides no error.
-/

set_option autoImplicit false

namespace SchemaTypes

def entrySlots : List Slot := [.positional "#0" 0, .positional "#1" 1]

namespace Row

structure Lists (r : Row) (entry : String × String) : Prop where
  name : (r.cells[0]?).map Prod.snd = some (.text entry.1)
  type : (r.cells[1]?).map Prod.snd = some (.text entry.2)

theorem entry_ok_iff {r : Row} {entry : String × String} :
    r.tableEntry = .ok entry ↔ r.Lists entry := by
  constructor
  · intro h
    obtain ⟨name, hname, h⟩ := bind_ok h
    obtain ⟨type, htype, h⟩ := bind_ok h
    cases h
    exact ⟨required_ok_iff.mp hname, required_ok_iff.mp htype⟩
  · intro h
    have hname : required "#0" (r.positional 0) = .ok entry.1 := required_ok_iff.mpr h.name
    have htype : required "#1" (r.positional 1) = .ok entry.2 := required_ok_iff.mpr h.type
    rw [tableEntry, hname, htype]
    rfl

theorem entry_fails (r : Row) : FailsWith r.tableEntry (r.fault? entrySlots) := by
  simp only [entrySlots, fault_cons]
  exact (required_fails (.positional "#0" 0) rfl r).bind fun name _ =>
    (required_fails (.positional "#1" 1) rfl r).bind fun type _ => .done (name, type)

end Row

namespace Server

def namesOf (views : Bool) (entries : List (String × String)) : List String :=
  (entries.filter fun e => views || !isView e.2).map Prod.fst

theorem names_with_views (entries : List (String × String)) :
    namesOf true entries = entries.map Prod.fst := by
  simp [namesOf]

theorem names_without_views (entries : List (String × String)) :
    namesOf false entries =
      (entries.filter fun e => ¬ Text.Spells "VIEW" e.2).map Prod.fst := by
  have hv : ∀ type, isView type = decide (Text.Spells "VIEW" type) := fun type => by
    rw [Bool.eq_iff_iff, decide_eq_true_eq]
    exact Text.spells_iff rfl type
  simp [namesOf, hv]

/-- The entries of a reply; only what is made of these depends on whether there are to be views. -/
def entriesOf (database : String) : Reply → Except SchemaError (List (String × String))
  | .error e => .error (.onDatabase database e)
  | .hangUp => .error (.connection none)
  | .rows rows => decoded (rows.mapM Row.tableEntry)

theorem list_of_entries (s : Server) (database : String) (views : Bool) :
    s.list database views = (entriesOf database (s.listReply database)).map (namesOf views) := by
  rw [list, listReply]
  cases s.answer (Query.listTables database).sql <;> rfl

theorem list_error_iff (s : Server) (database : String) (views : Bool) (e : SchemaError) :
    s.list database views = .error e ↔ entriesOf database (s.listReply database) = .error e := by
  rw [list_of_entries]
  cases entriesOf database (s.listReply database) <;> simp [Except.map]

theorem entries_ok {database : String} {reply : Reply} {entries : List (String × String)}
    (h : entriesOf database reply = .ok entries) :
    ∃ rows, reply = .rows rows ∧ List.Forall₂ Row.Lists rows entries := by
  cases reply with
  | error e => cases h
  | hangUp => cases h
  | rows rows => exact ⟨rows, rfl, (rows_ok_iff (fun _ _ => Row.entry_ok_iff) entries).mp h⟩

/-- A list with views and one without are asked for by the same text, and both fail with the same
error or neither fails. If neither does, the one without views has the names of the other in the
same order, except exactly those whose type spells `VIEW` in whatever case. Both fail as soon as a
row has no name or no type, be it for a view, with the first fault of the first such row. -/
theorem views_only_filtered (s : Server) (database : String) :
    (∀ views, Sends (fun s => s.list database views) (Query.listTables database).sql) ∧
    ((∃ e, ∀ views, s.list database views = .error e) ∨
      ∃ rows entries, s.listReply database = .rows rows ∧ List.Forall₂ Row.Lists rows entries ∧
        s.list database true = .ok (entries.map Prod.fst) ∧
        s.list database false =
          .ok ((entries.filter fun e => ¬ Text.Spells "VIEW" e.2).map Prod.fst)) ∧
    ∀ rows, s.listReply database = .rows rows → ∀ views e,
      s.list database views = .error e ↔
        ∃ fault, firstFault? entrySlots rows = some fault ∧ e = .rowDecode fault.message := by
  refine ⟨list_sends database, ?_, fun rows h views e => ?_⟩
  · cases he : entriesOf database (s.listReply database) with
    | error e => exact .inl ⟨e, fun views => (list_error_iff s database views e).mpr he⟩
    | ok entries =>
      obtain ⟨rows, hr, hp⟩ := entries_ok he
      refine .inr ⟨rows, entries, hr, hp, ?_, ?_⟩
      · rw [list_of_entries, he, ← names_with_views]
        rfl
      · rw [list_of_entries, he, ← names_without_views]
        rfl
  · rw [list_error_iff, h]
    exact rows_error_iff Row.entry_fails e

def shopEntries : List Row := [
  ⟨[("Tables_in_shop", .text "users"), ("Table_type", .text "BASE TABLE")]⟩,
  ⟨[("Tables_in_shop", .text "recent"), ("Table_type", .text "View")]⟩]

def namelessView : Row := ⟨[("Tables_in_shop", .null), ("Table_type", .text "VIEW")]⟩

def listingServer (rows : List Row) : Server :=
  .ofScript .accept [((Query.listTables "shop").sql, .rows rows)]

example : (listingServer shopEntries).list "shop" true = .ok ["users", "recent"] ∧
    (listingServer shopEntries).list "shop" false = .ok ["users"] := by
  decide +kernel

theorem nameless_view_reported :
    (listingServer (shopEntries ++ [namelessView])).listReply "shop" =
      .rows (shopEntries ++ [namelessView]) ∧
    ∀ views, (listingServer (shopEntries ++ [namelessView])).list "shop" views =
      .error (.rowDecode (RowFault.null "#0").message) := by
  have hr : (listingServer (shopEntries ++ [namelessView])).listReply "shop" =
      .rows (shopEntries ++ [namelessView]) := by
    simp [listReply, listingServer, ofScript]
  obtain ⟨-, -, herr⟩ := views_only_filtered (listingServer (shopEntries ++ [namelessView])) "shop"
  exact ⟨hr, fun views => (herr _ hr views _).mpr ⟨_, rfl, rfl⟩⟩

end Server

end SchemaTypes
