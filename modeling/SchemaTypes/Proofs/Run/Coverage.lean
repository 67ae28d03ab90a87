import SchemaTypes.Proofs.Run.Questions

/-!
# Whether a run covers the entire database

A listed name stands for the first configured table of that name, whatever database that one is in.
So a table of the default database is read and declared unless a table of another database is
configured first under its name.
-/

set_option autoImplicit false

namespace SchemaTypes

namespace Config

theorem entire_database_found {c : Config} {source : Source} {found : List Table}
    (he : c.entireDatabase = true) (h : (c.runTables source).result = .ok found) :
    ∃ listed, source.list c.defaultDb c.modelViews = .ok listed ∧ found = c.merge listed := by
  cases hl : source.list c.defaultDb c.modelViews with
  | error e => simp [runTables, he, hl] at h
  | ok listed =>
    simp only [runTables, he, hl, if_true, Except.ok.injEq] at h
    exact ⟨listed, rfl, h.symm⟩

/-- The table of the default database with a listed name stands for itself: the first configured
table of this name, if there is one, is in the default database. -/
def Covers (c : Config) (name : String) : Prop :=
  ∀ t, c.table? name = some t → t.database = c.defaultDb

theorem covers_iff (c : Config) (name : String) :
    c.Covers name ↔ (c.listedTable name).database = c.defaultDb := by
  unfold Covers listedTable
  cases c.table? name with
  | none => simp [bareTable]
  | some t => simp

theorem listed_found_iff {c : Config} {listed : List String} {name : String}
    (hn : name ∈ listed) :
    (∃ t ∈ c.merge listed, t.name = name ∧ t.database = c.defaultDb) ↔ c.Covers name := by
  rw [covers_iff]
  constructor
  · rintro ⟨t, hm, hname, hd⟩
    rw [← (merged_of_listed hn t).mp ⟨hm, hname⟩, hd]
  · intro hd
    obtain ⟨hm, hname⟩ := (merged_of_listed hn _).mpr rfl
    exact ⟨_, hm, hname, hd⟩

end Config

theorem Table.Answered.identity {source : Source} {t t' : Table} (h : t.Answered source t') :
    t'.name = t.name ∧ t'.database = t.database := by
  cases h <;> exact ⟨rfl, rfl⟩

theorem answered_identity_iff {source : Source} {found ts : List Table}
    (h : List.Forall₂ (Table.Answered source) found ts) (name database : String) :
    (∃ t ∈ ts, t.name = name ∧ t.database = database) ↔
      ∃ t ∈ found, t.name = name ∧ t.database = database := by
  constructor
  · rintro ⟨t', hm, rfl, rfl⟩
    obtain ⟨t, ht, ha⟩ := paired_left h hm
    exact ⟨t, ht, ha.identity.1.symm, ha.identity.2.symm⟩
  · rintro ⟨t, hm, rfl, rfl⟩
    obtain ⟨t', ht, ha⟩ := paired_right h hm
    exact ⟨t', ht, ha.identity⟩

theorem question_asked_iff (ts : List Table) (database name : String) :
    Call.fetch database name ∈ ts.map Table.question ↔
      ∃ t ∈ ts, t.name = name ∧ t.database = database := by
  simp [Table.question, and_comm]

/-- When the tables of an entire database have been fetched, every listed name has a table, of the
database that the name stands for. This is the default database, and the source has been asked for
the columns of the table of this name there, exactly if no table of another database is configured
first under the name. -/
theorem listed_table_fetched_iff {c : Config} {source : Source} {ts : List Table}
    (he : c.entireDatabase = true) (h : (c.fetchTables source).result = .ok ts) :
    ∃ listed, source.list c.defaultDb c.modelViews = .ok listed ∧ ∀ name ∈ listed,
      (Call.fetch c.defaultDb name ∈ (c.fetchTables source).calls ↔ c.Covers name) ∧
      ((∃ t ∈ ts, t.name = name ∧ t.database = c.defaultDb) ↔ c.Covers name) ∧
      ∃ t ∈ ts, t.name = name ∧ t.database = (c.listedTable name).database := by
  obtain ⟨found, hfound, hfetched⟩ := fetch_tables_found h
  obtain ⟨listed, hl, rfl⟩ := Config.entire_database_found he hfound
  have hgoes := (fetch_all_succeeds_iff source (c.merge listed)).mp ⟨ts, hfetched⟩
  have hanswered := (fetch_all_pairs hfetched).imp fun _ _ => fetch_answered
  have hcalls : (c.fetchTables source).calls =
      .list c.defaultDb c.modelViews :: (c.merge listed).map Table.question := by
    rw [Config.fetch_tables_of_found hfound, asked_all hgoes, Config.listingQuestion, if_pos he]
    rfl
  refine ⟨listed, hl, fun name hn => ⟨?_, ?_, ?_⟩⟩
  · rw [hcalls, List.mem_cons, question_asked_iff, Config.listed_found_iff hn]
    simp
  · rw [answered_identity_iff hanswered, Config.listed_found_iff hn]
  · rw [answered_identity_iff hanswered]
    obtain ⟨hm, hname⟩ := (Config.merged_of_listed hn _).mpr rfl
    exact ⟨_, hm, hname, rfl⟩

def elsewhereSettings : Json := .object [("driver", .string "mysql"),
  ("driverOptions", .object [("host", .string "h"), ("user", .string "u")]),
  ("dir", .string "out"), ("defaultDb", .string "shop"), ("entireDatabase", .bool true),
  ("tables", .array [.object [("name", .string "users"), ("database", .string "auth")]])]

def elsewhereOutput : Config where
  connect := { host := "h", user := "u" }
  dir := "out"
  defaultDb := "shop"
  entireDatabase := true

def elsewhere : Config :=
  { elsewhereOutput with
    tables := [{ elsewhereOutput.bareTable "users" with database := "auth", file := "users" }] }

def twoDatabases : Catalog where
  databases := [
    ("shop", [⟨"users", false, oneColumn, none⟩, ⟨"orders", false, oneColumn, none⟩]),
    ("auth", [⟨"users", false, oneColumn, none⟩])]
  listError := none

theorem unnamed_table_covered : ∃ ts,
    (elsewhere.fetchTables twoDatabases.source).result = .ok ts ∧
    elsewhere.Covers "orders" ∧
    Call.fetch "shop" "orders" ∈ (elsewhere.fetchTables twoDatabases.source).calls ∧
    ∃ t ∈ ts, t.name = "orders" ∧ t.database = "shop" := by
  refine ⟨_, rfl, ?_⟩
  obtain ⟨listed, hl, hcovered⟩ := listed_table_fetched_iff
    (show elsewhere.entireDatabase = true from rfl)
    (show (elsewhere.fetchTables twoDatabases.source).result = .ok _ from rfl)
  obtain rfl : ["users", "orders"] = listed := Except.ok.inj hl
  obtain ⟨hasked, hfetched, -⟩ := hcovered "orders" (by simp)
  have hc : elsewhere.Covers "orders" := nofun
  exact ⟨hc, hasked.mpr hc, hfetched.mpr hc⟩

theorem listed_table_missed : ∃ ts,
    Config.ofJson elsewhereSettings = .ok elsewhere ∧ elsewhere.entireDatabase = true ∧
    twoDatabases.source.list elsewhere.defaultDb elsewhere.modelViews =
      .ok ["users", "orders"] ∧
    (elsewhere.fetchTables twoDatabases.source).result = .ok ts ∧
    Call.fetch elsewhere.defaultDb "users" ∉ (elsewhere.fetchTables twoDatabases.source).calls ∧
    ¬ ∃ t ∈ ts, t.name = "users" ∧ t.database = elsewhere.defaultDb := by
  have hc : Config.ofJson elsewhereSettings = .ok elsewhere := by decide +kernel
  have hr : (elsewhere.fetchTables twoDatabases.source).result =
      .ok [{ elsewhereOutput.bareTable "users" with
          database := "auth", file := "users", columns := oneColumn },
        { elsewhereOutput.bareTable "orders" with columns := oneColumn }] := by
    decide +kernel
  exact ⟨_, hc, rfl, rfl, hr, by decide +kernel, by decide +kernel⟩

end SchemaTypes
