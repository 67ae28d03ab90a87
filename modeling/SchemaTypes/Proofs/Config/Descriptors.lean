import SchemaTypes.Pattern.Reader
import SchemaTypes.Proofs.Config.Reading
import SchemaTypes.Proofs.Name.Identifiers

/-!
# Descriptors of configured tables

The elements of `tables` are resolved against the settings before the tables are among them, which
makes no difference: a descriptor depends on the other settings only. A name and an object of that
name give the same descriptor but for the file, as long as the object overrides the defaults by
nothing else than themselves.
-/

set_option autoImplicit false

namespace SchemaTypes

namespace Fields

def OrDefault (fields : Fields) (name : String) (value : Json) : Prop :=
  fields.get? name = none ∨ fields.get? name = some value

section OrDefault
variable {fields : Fields} {name : String}

theorem flag_of_default {b : Bool} (h : fields.OrDefault name (.bool b)) :
    fields.flag name b = b := by
  rcases h with h | h
  · simp [flag, h]
  · simp [flag, h, Json.bool?]

theorem text_of_default {s : String} (h : fields.OrDefault name (.string s)) :
    fields.text name s = s := by
  rcases h with h | h
  · simp [text, string?, h]
  · simp [text, string?, h, Json.string?]

/-- An empty string counts as missing, and so leads to the default even if that is empty. -/
theorem nonempty_of_default {s : String} (h : fields.OrDefault name (.string s)) :
    (fields.nonEmpty? name).getD s = s := by
  rcases h with h | h
  · simp [nonEmpty?, string?, h]
  · by_cases hs : s = "" <;> simp [nonEmpty?, string?, h, Json.string?, hs, Option.filter]

theorem choice_of_default {α : Type} {a : α} {nameOf : α → String} {ofName? : String → Option α}
    (ho : ofName? (nameOf a) = some a) (h : fields.OrDefault name (.string (nameOf a))) :
    fields.choice name ofName? a = a := by
  rcases h with h | h
  · simp [choice, string?, h]
  · simp [choice, string?, h, Json.string?, ho]

theorem strings_of_default (h : fields.OrDefault name (.array [])) :
    fields.strings name [] = [] := by
  rcases h with h | h
  · simp [strings, h]
  · simp [strings, h, Json.array?]

end OrDefault

end Fields

namespace Config

theorem converted_nonempty (target : Case) {name : String} (hn : name ≠ "") :
    target.convert name ≠ "" := by
  intro he
  have hk := Case.first_kept target name.toList
  rw [← Case.convert_chars, he] at hk
  have hnil : name.toList = [] := by simpa using hk.symm
  exact hn (String.toList_eq_nil_iff.mp hnil)

theorem file_name_nonempty (c : Config) {name : String} (hn : name ≠ "")
    (connector suffix : String) : c.fileName name connector suffix ≠ "" := by
  intro he
  have hb : (if c.renameTableToCase then c.case.convert name else name) ≠ "" := by
    split
    · exact converted_nonempty c.case hn
    · exact hn
  rw [fileName, String.append_eq_empty_iff, String.append_eq_empty_iff] at he
  exact hb he.1.1

/-- What an object of `tables` can override, at the defaults of the configuration. The name and the
file have none. -/
def overrides (c : Config) : Fields :=
  [ ("type", .string c.defaultType.name), ("suffix", .string c.defaultSuffix),
    ("connector", .string c.defaultConnector), ("database", .string c.defaultDb),
    ("omit", .array []), ("constructor", .bool c.classConstructor),
    ("sqlCRUD", .bool c.classStatements) ]

/-- Some of the overrides are given, none with another value than the default. -/
def AtDefaults (c : Config) (fields : Fields) : Prop :=
  ∀ d ∈ c.overrides, fields.OrDefault d.1 d.2

theorem described_at_defaults {c : Config} {fields : Fields} (h : c.AtDefaults fields)
    (name : String) :
    c.describedTable fields name =
      { c.bareTable name with file := (fields.nonEmpty? "file").getD name } := by
  have given : ∀ key value, (key, value) ∈ c.overrides → fields.OrDefault key value :=
    fun key value hm => h (key, value) hm
  have kind : fields.choice "type" OutputKind.ofName? c.defaultType = c.defaultType :=
    Fields.choice_of_default (OutputKind.of_name_name _) (given _ _ (by simp [overrides]))
  have database : (fields.nonEmpty? "database").getD c.defaultDb = c.defaultDb :=
    Fields.nonempty_of_default (given _ _ (by simp [overrides]))
  have suffix : fields.text "suffix" c.defaultSuffix = c.defaultSuffix :=
    Fields.text_of_default (given _ _ (by simp [overrides]))
  have connector : fields.text "connector" c.defaultConnector = c.defaultConnector :=
    Fields.text_of_default (given _ _ (by simp [overrides]))
  have patterns : fields.strings "omit" [] = [] :=
    Fields.strings_of_default (given _ _ (by simp [overrides]))
  have constructor : fields.flag "constructor" c.classConstructor = c.classConstructor :=
    Fields.flag_of_default (given _ _ (by simp [overrides]))
  have statements : fields.flag "sqlCRUD" c.classStatements = c.classStatements :=
    Fields.flag_of_default (given _ _ (by simp [overrides]))
  rw [describedTable, kind, database, suffix, connector, patterns, constructor, statements]
  rfl

theorem resolved_at_defaults {c : Config} {fields : Fields} {name : String}
    (hn : fields.get? "name" = some (.string name)) (h : c.AtDefaults fields) :
    c.resolveTable (.object fields) =
      .ok { c.bareTable name with file := (fields.nonEmpty? "file").getD name } := by
  have hs : fields.string? "name" = some name := by simp [Fields.string?, hn, Json.string?]
  simp only [resolveTable, objectTable, hs, described_at_defaults h]

theorem resolved_with_tables (c : Config) (ts : List Table) (entry : Json) :
    ({ c with tables := ts } : Config).resolveTable entry = c.resolveTable entry := by
  cases entry <;> rfl

theorem read_tables_resolved [PatternEngine] {raw : Json} {c : Config} {entries : List Json}
    (h : ofJson raw = .ok c)
    (ht : (raw.object?.getD []).get? "tables" = some (.array entries)) :
    List.Forall₂ (fun entry t => c.resolveTable entry = .ok t) entries c.tables := by
  obtain ⟨base, ts, -, hp, -, rfl⟩ := read_steps h
  have he : tableEntries (raw.object?.getD []) = entries := by
    simp [tableEntries, ht, Json.array?]
  rw [he] at hp
  exact hp.imp fun entry t hr => (resolved_with_tables _ ts entry).trans hr

/-- The tables of a configuration that has been read are the elements of `tables` in their order,
each resolved against the whole configuration. A name resolves to a descriptor of defaults, and so
does an object of this name that overrides them by themselves or not at all, if it gives the file
that the name alone would get. Without a file its descriptor differs in the file, which is the name
then. -/
theorem descriptors_follow_settings [PatternEngine] (c : Config) :
    (∀ (raw : Json) (entries : List Json), ofJson raw = .ok c →
      (raw.object?.getD []).get? "tables" = some (.array entries) →
      c.tables.length = entries.length ∧
      ∀ (i : Nat) (hi : i < entries.length) (ht : i < c.tables.length),
        c.resolveTable entries[i] = .ok c.tables[i]) ∧
    ∀ name, name ≠ "" →
      (∃ bare described, c.resolveTable (.string name) = .ok bare ∧
        c.resolveTable (.object [("name", .string name)]) = .ok described ∧
        described = { bare with file := described.file }) ∧
      ∀ fields : Fields, fields.get? "name" = some (.string name) →
        fields.get? "file" =
          some (.string (c.fileName name c.defaultConnector c.defaultSuffix)) →
        c.AtDefaults fields →
        c.resolveTable (.object fields) = c.resolveTable (.string name) := by
  refine ⟨?_, fun name hname => ⟨?_, ?_⟩⟩
  · intro raw entries h ht
    have hp := read_tables_resolved h ht
    refine ⟨hp.length_eq.symm, fun i hi hc => ?_⟩
    exact hp.get hi hc
  · have hd : c.AtDefaults [("name", .string name)] := by
      simp [AtDefaults, overrides, Fields.OrDefault, Fields.get?, List.lookup_cons]
    have hn : Fields.get? [("name", .string name)] "name" = some (.string name) := rfl
    have hr := resolved_at_defaults hn hd
    exact ⟨_, _, rfl, hr, rfl⟩
  · intro fields hn hf hd
    have hne := c.file_name_nonempty hname c.defaultConnector c.defaultSuffix
    have hg : fields.nonEmpty? "file" =
        some (c.fileName name c.defaultConnector c.defaultSuffix) := by
      simp [Fields.nonEmpty?, Fields.string?, hf, Json.string?, hne]
    rw [resolved_at_defaults hn hd, hg]
    rfl

def restated : Fields :=
  [ ("file", .string "OrderItems-Row"), ("sqlCRUD", .bool true), ("omit", .array []),
    ("name", .string "order_items"), ("database", .string ""), ("type", .string "class") ]

def orderEntries : List Json :=
  [.string "order_items", .object [("name", .string "order_items")], .object restated]

def orderSettings : Fields :=
  [ ("driver", .string "mysql"), ("tables", .array orderEntries),
    ("driverOptions", .object [("host", .string "h"), ("user", .string "u")]),
    ("dir", .string "out"), ("defaultDb", .string ""), ("defaultType", .string "class"),
    ("classOptions", .object [("sqlCRUD", .bool true)]), ("case", .string "pascal"),
    ("defaultSuffix", .string "row") ]

def orderOutput : Config where
  connect := { host := "h", user := "u" }
  dir := "out"
  defaultType := .classDecl
  classStatements := true
  case := .pascal
  defaultSuffix := "row"

def orders : Config :=
  { orderOutput with
    tables := [orderOutput.bareTable "order_items",
      { orderOutput.bareTable "order_items" with file := "order_items" },
      orderOutput.bareTable "order_items"] }

theorem order_descriptors_follow :
    ofJson (.object orderSettings) = .ok orders ∧
    orders.tables.length = 3 ∧
    (∀ (i : Nat) (ht : i < orders.tables.length),
      orders.resolveTable orderEntries[i] = .ok orders.tables[i]) ∧
    (∃ bare described, orders.resolveTable (.string "order_items") = .ok bare ∧
      orders.resolveTable (.object [("name", .string "order_items")]) = .ok described ∧
      described = { bare with file := described.file }) ∧
    orders.AtDefaults restated ∧
    orders.resolveTable (.object restated) = orders.resolveTable (.string "order_items") := by
  have hc : ofJson (.object orderSettings) = .ok orders := by decide +kernel
  obtain ⟨hread, hbare⟩ := descriptors_follow_settings orders
  obtain ⟨hlength, htables⟩ := hread (.object orderSettings) orderEntries hc rfl
  obtain ⟨hname, hobject⟩ := hbare "order_items" (by simp)
  have hf : orders.fileName "order_items" orders.defaultConnector orders.defaultSuffix =
      "OrderItems-Row" := by decide +kernel
  have hd : orders.AtDefaults restated := by
    simp [AtDefaults, overrides, Fields.OrDefault, Fields.get?, restated, orders, orderOutput,
      List.lookup_cons, OutputKind.name]
  exact ⟨hc, hlength, fun i ht => htables i ht ht, hname, hd,
    hobject restated rfl (by rw [hf]; rfl) hd⟩

end Config

end SchemaTypes
