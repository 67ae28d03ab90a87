import SchemaTypes.Proofs.Config.Conditions
import SchemaTypes.Proofs.Config.Reading
import SchemaTypes.Proofs.Run.Fetching
import SchemaTypes.Proofs.Run.Merging
import SchemaTypes.Proofs.Run.Writing

/-!
# Runs of an entire database

A run of an entire database without configured tables does what a run does whose tables are the
listed names. The two differ in the question for the listing alone.
-/

set_option autoImplicit false

namespace SchemaTypes

namespace Config

/-- Settings with tables given by their names, in place of the entire database. -/
def named (fields : Fields) (listed : List String) : Fields :=
  (fields.put "entireDatabase" (.bool false)).put "tables" (.array (listed.map .string))

section Named
variable (fields : Fields) (listed : List String)

theorem named_other {name : String} (he : name ≠ "entireDatabase") (ht : name ≠ "tables") :
    (named fields listed).get? name = fields.get? name := by
  rw [named, Fields.get_put_of_ne _ _ ht, Fields.get_put_of_ne _ _ he]

theorem named_entire : (named fields listed).get? "entireDatabase" = some (.bool false) := by
  rw [named, Fields.get_put_of_ne _ _ (by simp), Fields.get_put_self]

theorem named_tables :
    (named fields listed).get? "tables" = some (.array (listed.map .string)) := by
  rw [named, Fields.get_put_self]

theorem named_settings (c : Config) :
    ({ c with entireDatabase := false } : Config).withSettings (named fields listed) =
      { c.withSettings fields with entireDatabase := false } := by
  have other : ∀ name, name ≠ "entireDatabase" → name ≠ "tables" →
      (named fields listed).get? name = fields.get? name :=
    fun _ he ht => named_other fields listed he ht
  simp [withSettings, Fields.choice, Fields.flag, Fields.text, Fields.below?, Fields.string?,
    Fields.object?, other]

end Named

theorem names_checked {listed : List String} (hn : ∀ name ∈ listed, name ≠ "") (index : Nat) :
    checkEntries index (listed.map .string) = .ok () := by
  induction listed generalizing index with
  | nil => rfl
  | cons name rest ih =>
    obtain ⟨hname, hrest⟩ := List.forall_mem_cons.mp hn
    have hc : checkEntry index (.string name) = .ok () := by simp [checkEntry, hname]
    rw [List.map_cons, checkEntries, hc]
    exact ih hrest (index + 1)

theorem named_required {fields : Fields} {listed : List String} {base : Config}
    (hne : listed ≠ []) (hn : ∀ name ∈ listed, name ≠ "") (h : RequiredFrom fields base) :
    RequiredFrom (named fields listed) { base with entireDatabase := false } := by
  have text : ∀ name, name ≠ "entireDatabase" → name ≠ "tables" →
      (named fields listed).string? name = fields.string? name := by
    intro name he ht
    rw [Fields.string?, Fields.string?, named_other fields listed he ht]
  have options : (named fields listed).object? "driverOptions" =
      fields.object? "driverOptions" := by
    rw [Fields.object?, Fields.object?, named_other fields listed (by simp) (by simp)]
  have tables : checkTables false (some (.array (listed.map .string))) = .ok () := by
    rw [checkTables, names_checked hn, if_neg]
    simpa using hne
  exact {
    driver := by rw [text "driver" (by simp) (by simp), h.driver]
    connect := by rw [options]; exact h.connect
    dir := by rw [text "dir" (by simp) (by simp), h.dir]
    defaultDb := by rw [text "defaultDb" (by simp) (by simp), h.defaultDb]
    entireDatabase := by rw [Fields.flag, named_entire]; rfl
    tables := by rw [named_tables]; exact tables
    others := by rw [h.others] }

theorem names_resolved (c : Config) (listed : List String) :
    (listed.map Json.string).mapM c.resolveTable = .ok (listed.map c.bareTable) := by
  induction listed with
  | nil => rfl
  | cons name rest ih =>
    rw [List.map_cons, List.mapM_cons, ih]
    rfl

theorem bare_tables_unomitted [PatternEngine] (c : Config) (listed : List String) :
    (listed.map c.bareTable).forM checkOmit = .ok () := by
  induction listed with
  | nil => rfl
  | cons name rest ih =>
    exact ih

theorem named_read [PatternEngine] {fields : Fields} {listed : List String} {c : Config}
    (he : fields.get? "entireDatabase" = some (.bool true)) (ht : fields.get? "tables" = none)
    (hne : listed ≠ []) (hn : ∀ name ∈ listed, name ≠ "") (hc : ofJson (.object fields) = .ok c) :
    c.entireDatabase = true ∧ c.tables = [] ∧
      ofJson (.object (named fields listed)) =
        .ok { c with entireDatabase := false, tables := listed.map c.bareTable } := by
  obtain ⟨base, ts, hb, hp, -, rfl⟩ := read_steps hc
  have hnone : tableEntries fields = [] := by simp [tableEntries, ht]
  have hentries : tableEntries (named fields listed) = listed.map .string := by
    simp [tableEntries, named_tables, Json.array?]
  change required fields = .ok base at hb
  change List.Forall₂ _ (tableEntries fields) ts at hp
  rw [hnone] at hp
  cases hp
  have hrequired := required_iff.mp hb
  have hnamed := required_iff.mpr (named_required hne hn hrequired)
  refine ⟨hrequired.entireDatabase.trans (flag_set.mpr he), rfl, ?_⟩
  simp only [ofJson, Json.object?, Option.getD_some, hnamed, named_settings, hentries,
    names_resolved, bare_tables_unomitted, bind, Except.bind, pure, Except.pure]
  rfl

end Config

/-- Without configured tables, a run of an entire database is the run of the tables of the listed
names, after one more question. -/
theorem entire_run [PatternEngine] {c : Config} {source : Source} {listed : List String}
    (he : c.entireDatabase = true) (hc : c.tables = [])
    (hl : source.list c.defaultDb c.modelViews = .ok listed) (world : World) :
    let named := generate { c with entireDatabase := false, tables := listed.map c.bareTable }
      source world
    generate c source world =
      { named with calls := .list c.defaultDb c.modelViews :: named.calls } := by
  have hm : c.merge listed = listed.map c.bareTable := by
    simp [Config.merge, Config.table?, hc]
  have hr : ∀ t : Table, t.render c =
      t.render { c with entireDatabase := false, tables := listed.map c.bareTable } :=
    fun _ => rfl
  have hw := write_all_congr hr c.writer world
  simp only [generate, Config.fetchTables, Config.runTables, he, hl, hm, hw, if_true,
    Bool.false_eq_true, if_false, List.nil_append, List.singleton_append]
  cases (fetchAll source (listed.map c.bareTable)).result with
  | error failure => rfl
  | ok ts => rfl

theorem configured_run_calls [PatternEngine] {c : Config} (he : c.entireDatabase = false)
    (source : Source) (world : World) :
    ∀ call ∈ (generate c source world).calls,
      ∃ database table, call = .fetch database table := by
  have hc : (generate c source world).calls = (fetchAll source c.tables).calls := by
    simp only [generate, Config.fetchTables, Config.runTables, he, Bool.false_eq_true, if_false,
      List.nil_append]
    cases (fetchAll source c.tables).result with
    | error failure => rfl
    | ok ts => rfl
  intro call hm
  rw [hc] at hm
  obtain ⟨t, -, rfl⟩ := List.mem_map.mp ((fetch_all_calls source c.tables).subset hm)
  exact ⟨t.database, t.name, rfl⟩

/-- Settings that ask for the entire database and configure no tables can name the listed tables
instead. They are read then too, and the run gives the same report or failure, leaves the same
files, prints the same, and asks for the same columns in the same order. It only lacks the question
for the listing. -/
theorem entire_database_as_named [PatternEngine] {fields : Fields} {c : Config} {source : Source}
    {listed : List String} (he : fields.get? "entireDatabase" = some (.bool true))
    (ht : fields.get? "tables" = none) (hc : Config.ofJson (.object fields) = .ok c)
    (hl : source.list c.defaultDb c.modelViews = .ok listed) (hne : listed ≠ [])
    (hn : ∀ name ∈ listed, name ≠ "") :
    ∃ c', Config.ofJson (.object (Config.named fields listed)) = .ok c' ∧
      ∀ (dry : Bool) (world : World),
        let entire := generate { c with dryRun := dry } source world
        let named := generate { c' with dryRun := dry } source world
        entire.result = named.result ∧ entire.world = named.world ∧
        entire.calls = .list c.defaultDb c.modelViews :: named.calls ∧
        ∀ call ∈ named.calls, ∃ database table, call = .fetch database table := by
  obtain ⟨hentire, htables, hread⟩ := Config.named_read he ht hne hn hc
  refine ⟨_, hread, fun dry world => ?_⟩
  have hrun := entire_run (c := { c with dryRun := dry }) hentire htables hl world
  refine ⟨?_, ?_, ?_, configured_run_calls rfl source world⟩
  · rw [hrun]
    rfl
  · rw [hrun]
    rfl
  · rw [hrun]
    rfl

def wholeShop : Fields := [("driver", .string "mysql"),
  ("driverOptions", .object [("host", .string "h"), ("user", .string "u")]),
  ("dir", .string "out"), ("defaultDb", .string "shop"), ("entireDatabase", .bool true),
  ("defaultType", .string "class"), ("classOptions", .object [("sqlCRUD", .bool true)]),
  ("case", .string "pascal"), ("modelViews", .bool true)]

def shopCatalog : Catalog where
  databases := [("shop", [
    ⟨"order_items", false, [.ofListing "id" "int" "NO" none none none], none⟩,
    ⟨"totals", true, [.ofListing "total" "decimal(10,2)" "NO" none none none], none⟩,
    ⟨"audit", false, [], some (.tableNotFound "audit" "denied")⟩])]
  listError := none

theorem whole_shop_as_named : ∃ c c', Config.ofJson (.object wholeShop) = .ok c ∧
    shopCatalog.source.list c.defaultDb c.modelViews = .ok ["order_items", "totals", "audit"] ∧
    Config.ofJson (.object (Config.named wholeShop ["order_items", "totals", "audit"])) = .ok c' ∧
    (generate { c with dryRun := true } shopCatalog.source {}).result =
      (generate { c' with dryRun := true } shopCatalog.source {}).result ∧
    (generate { c with dryRun := true } shopCatalog.source {}).calls =
      .list "shop" true :: (generate { c' with dryRun := true } shopCatalog.source {}).calls := by
  have hc := show Config.ofJson (.object wholeShop) = .ok _ from rfl
  have hl := show shopCatalog.source.list "shop" true =
    .ok ["order_items", "totals", "audit"] from rfl
  obtain ⟨c', hc', hrun⟩ := entire_database_as_named rfl rfl hc hl (by simp) (by simp)
  obtain ⟨hresult, -, hcalls, -⟩ := hrun true {}
  exact ⟨_, c', hc, hl, hc', hresult, hcalls⟩

end SchemaTypes
