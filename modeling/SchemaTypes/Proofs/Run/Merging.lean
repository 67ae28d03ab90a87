import Mathlib.Data.List.Nodup
import SchemaTypes.Config.Reader
import SchemaTypes.Pattern.Reader
import SchemaTypes.Run

/-!
# Merging a listing with configured tables

In a run of an entire database a listed name stands for the first configured table of that name,
and the configured tables of other names follow. So of several configured tables with a listed
name only the first is kept, whatever their databases and files are.
-/

set_option autoImplicit false

namespace SchemaTypes.Config

/-- The table that a listed name stands for. -/
def listedTable (c : Config) (name : String) : Table := (c.table? name).getD (c.bareTable name)

theorem merge_parts (c : Config) (listed : List String) :
    c.merge listed = listed.map c.listedTable ++
      c.tables.filter fun t => !listed.contains t.name := rfl

theorem run_tables_all {P : Table → Prop} {c : Config} (hb : ∀ name, P (c.bareTable name))
    (hc : ∀ t ∈ c.tables, P t) {source : Source} {ts : List Table}
    (h : (c.runTables source).result = .ok ts) : ∀ t ∈ ts, P t := by
  unfold runTables at h
  split at h
  · cases hl : source.list c.defaultDb c.modelViews with
    | error e => simp [hl] at h
    | ok listed =>
      simp only [hl, Except.ok.injEq] at h
      subst h
      intro t ht
      rcases List.mem_append.mp ht with hm | hm
      · obtain ⟨name, _, rfl⟩ := List.mem_map.mp hm
        cases hn : c.table? name with
        | none => exact hb name
        | some t => exact hc t (List.mem_of_find?_eq_some hn)
      · exact hc t (List.mem_filter.mp hm).1
  · cases h
    exact hc

theorem listed_table_name (c : Config) (name : String) : (c.listedTable name).name = name := by
  unfold listedTable
  cases hf : c.table? name with
  | none => rfl
  | some t => simpa using List.find?_some hf

theorem table_of_name_found {c : Config} {t : Table} (ht : t ∈ c.tables) :
    ∃ first, c.table? t.name = some first := by
  cases hf : c.table? t.name with
  | some first => exact ⟨first, rfl⟩
  | none => simpa using List.find?_eq_none.mp hf t ht

theorem listed_table_configured {c : Config} {t : Table} (ht : t ∈ c.tables) (name : String) :
    c.listedTable name = t ↔ name = t.name ∧ c.table? t.name = some t := by
  constructor
  · rintro rfl
    have hn := c.listed_table_name name
    obtain ⟨first, hf⟩ := table_of_name_found ht
    rw [hn] at hf ⊢
    exact ⟨rfl, by rw [hf, listedTable, hf, Option.getD_some]⟩
  · rintro ⟨rfl, hf⟩
    rw [listedTable, hf, Option.getD_some]

theorem count_listed {c : Config} {t : Table} (ht : t ∈ c.tables) (listed : List String) :
    (listed.map c.listedTable).count t =
      if c.table? t.name = some t then listed.count t.name else 0 := by
  induction listed with
  | nil => simp
  | cons name rest ih =>
    have hl := listed_table_configured ht name
    rw [List.map_cons, List.count_cons, ih]
    by_cases hf : c.table? t.name = some t
    · by_cases hn : name = t.name
      · subst hn
        simp [hl, hf]
      · simp [hl, hf, hn]
    · simp [hl, hf]

theorem count_unlisted (c : Config) (t : Table) (listed : List String) :
    (c.tables.filter fun t => !listed.contains t.name).count t =
      if t.name ∈ listed then 0 else c.tables.count t := by
  by_cases hn : t.name ∈ listed
  · rw [if_pos hn, List.count_eq_zero]
    intro hm
    have hk := (List.mem_filter.mp hm).2
    simp [hn] at hk
  · rw [if_neg hn, List.count_filter (by simpa using hn)]

/-- How often a configured table occurs in the merged list: as often as its name is listed if it
is the first of this name, and not at all if it is a later one; as often as it is configured if its
name is not listed. -/
theorem count_merged {c : Config} {t : Table} (ht : t ∈ c.tables) (listed : List String) :
    (c.merge listed).count t =
      if t.name ∈ listed then (if c.table? t.name = some t then listed.count t.name else 0)
      else c.tables.count t := by
  rw [merge_parts, List.count_append, count_listed ht, count_unlisted]
  by_cases hn : t.name ∈ listed
  · simp [hn]
  · simp [hn, List.count_eq_zero_of_not_mem hn]

theorem kept_iff {c : Config} {t : Table} (ht : t ∈ c.tables) (listed : List String) :
    c.tables.count t ≤ (c.merge listed).count t ↔
      t.name ∉ listed ∨ c.table? t.name = some t ∧ c.tables.count t ≤ listed.count t.name := by
  rw [count_merged ht]
  by_cases hn : t.name ∈ listed
  · by_cases hf : c.table? t.name = some t
    · simp [hn, hf]
    · simp [hn, hf, List.count_eq_zero, ht]
  · simp [hn]

theorem first_of_distinct {c : Config} (hd : (c.tables.map (·.name)).Nodup) {t : Table}
    (ht : t ∈ c.tables) : c.table? t.name = some t ∧ c.tables.count t = 1 := by
  obtain ⟨first, hf⟩ := table_of_name_found ht
  have hn : first.name = t.name := by simpa using List.find?_some hf
  have he := List.inj_on_of_nodup_map hd (List.mem_of_find?_eq_some hf) ht hn
  exact ⟨he ▸ hf, List.count_eq_one_of_mem hd.of_map ht⟩

/-- In a run of an entire database a configured table is kept if its name is not listed or if it
is the first configured table of its name, and it is kept as often as it is configured if besides
it is not configured more often than listed. Where no two configured tables share a name, none is
lost. -/
theorem configured_table_kept_iff {c : Config} {source : Source} {listed : List String}
    (he : c.entireDatabase = true)
    (hl : source.list c.defaultDb c.modelViews = .ok listed) :
    ∃ ts, (c.runTables source).result = .ok ts ∧
      (∀ t ∈ c.tables, t ∈ ts ↔ t.name ∉ listed ∨ c.table? t.name = some t) ∧
      (∀ t ∈ c.tables, c.tables.count t ≤ ts.count t ↔
        t.name ∉ listed ∨ c.table? t.name = some t ∧ c.tables.count t ≤ listed.count t.name) ∧
      ((c.tables.map (·.name)).Nodup → ∀ t ∈ c.tables, c.tables.count t ≤ ts.count t) := by
  refine ⟨c.merge listed, by simp [runTables, he, hl], ?_, fun t ht => kept_iff ht listed, ?_⟩
  · intro t ht
    rw [← List.count_pos_iff, count_merged ht]
    by_cases hn : t.name ∈ listed
    · by_cases hf : c.table? t.name = some t
      · simp [hn, hf, List.count_pos_iff]
      · simp [hn, hf]
    · simp [hn, List.count_pos_iff, ht]
  · intro hd t ht
    obtain ⟨hf, ho⟩ := first_of_distinct hd ht
    rw [kept_iff ht, ho]
    by_cases hn : t.name ∈ listed
    · exact Or.inr ⟨hf, List.count_pos_iff.mpr hn⟩
    · exact Or.inl hn

def namesakeSettings : Json := .object [("driver", .string "mysql"),
  ("driverOptions", .object [("host", .string "h"), ("user", .string "u")]),
  ("dir", .string "out"), ("defaultDb", .string "shop"), ("entireDatabase", .bool true),
  ("tables", .array [.string "users",
    .object [("name", .string "users"), ("database", .string "auth"),
      ("file", .string "auth/users")]])]

def namesakeOutput : Config where
  connect := { host := "h", user := "u" }
  dir := "out"
  defaultDb := "shop"
  entireDatabase := true

def shopUsers : Table := namesakeOutput.bareTable "users"

def authUsers : Table := { shopUsers with database := "auth", file := "auth/users" }

def namesakes : Config := { namesakeOutput with tables := [shopUsers, authUsers] }

def namesakeCatalog : Catalog where
  databases := [("shop", [⟨"users", false, [], none⟩]), ("auth", [⟨"users", false, [], none⟩])]
  listError := none

theorem first_namesake_kept : ∃ ts, (namesakes.runTables namesakeCatalog.source).result = .ok ts ∧
    shopUsers ∈ ts ∧ namesakes.tables.count shopUsers ≤ ts.count shopUsers := by
  obtain ⟨ts, hts, hm, hc, -⟩ := configured_table_kept_iff
    (show namesakes.entireDatabase = true from rfl)
    (show namesakeCatalog.source.list "shop" false = .ok ["users"] from rfl)
  have ht : shopUsers ∈ namesakes.tables := by simp [namesakes]
  have hf : namesakes.table? shopUsers.name = some shopUsers := rfl
  refine ⟨ts, hts, (hm shopUsers ht).mpr (Or.inr hf), (hc shopUsers ht).mpr (Or.inr ⟨hf, ?_⟩)⟩
  decide +kernel

theorem namesake_lost :
    ofJson namesakeSettings = .ok namesakes ∧ namesakes.entireDatabase = true ∧
    namesakeCatalog.source.list namesakes.defaultDb namesakes.modelViews = .ok ["users"] ∧
    (namesakes.runTables namesakeCatalog.source).result = .ok [shopUsers] ∧
    authUsers ∈ namesakes.tables ∧ authUsers ∉ [shopUsers] ∧
    (({ namesakes with entireDatabase := false } : Config).runTables
      namesakeCatalog.source).result = .ok [shopUsers, authUsers] := by
  have hc : ofJson namesakeSettings = .ok namesakes := by decide +kernel
  have hr : (namesakes.runTables namesakeCatalog.source).result = .ok [shopUsers] := by
    decide +kernel
  exact ⟨hc, rfl, rfl, hr, by simp [namesakes], by decide +kernel, rfl⟩

/-! ## The merged list by names -/

theorem merged_names (c : Config) (listed : List String) :
    (c.merge listed).map (·.name) =
      listed ++ (c.tables.map (·.name)).filter fun name => !listed.contains name := by
  have hl : (listed.map c.listedTable).map (·.name) = listed := by
    rw [List.map_map]
    exact (List.map_congr_left fun name _ => c.listed_table_name name).trans listed.map_id
  rw [merge_parts, List.map_append, hl, List.filter_map]
  rfl

theorem merged_unlisted (c : Config) (listed : List String) :
    ((c.merge listed).filter fun t => !listed.contains t.name) =
      c.tables.filter fun t => !listed.contains t.name := by
  have hl : ((listed.map c.listedTable).filter fun t => !listed.contains t.name) = [] := by
    rw [List.filter_eq_nil_iff]
    intro t ht
    obtain ⟨name, hn, rfl⟩ := List.mem_map.mp ht
    simpa [c.listed_table_name] using hn
  rw [merge_parts, List.filter_append, hl, List.nil_append, List.filter_filter]
  simp only [Bool.and_self]

theorem merged_of_listed {c : Config} {listed : List String} {name : String}
    (hn : name ∈ listed) (t : Table) :
    t ∈ c.merge listed ∧ t.name = name ↔ t = c.listedTable name := by
  constructor
  · rintro ⟨hm, rfl⟩
    rcases List.mem_append.mp hm with hl | hu
    · obtain ⟨name, -, ht⟩ := List.mem_map.mp hl
      change c.listedTable name = t at ht
      subst ht
      rw [listed_table_name]
    · have hk := (List.mem_filter.mp hu).2
      simp [hn] at hk
  · rintro rfl
    exact ⟨List.mem_append_left _ (List.mem_map_of_mem hn), c.listed_table_name name⟩

theorem first_found {c : Config} {before after : List Table} {first : Table}
    (hc : c.tables = before ++ first :: after) (hb : ∀ s ∈ before, s.name ≠ first.name) :
    c.table? first.name = some first := by
  have hn : before.find? (fun s => s.name == first.name) = none :=
    List.find?_eq_none.mpr fun s hs => by simpa using hb s hs
  rw [table?, hc, List.find?_append, hn, Option.none_or, List.find?_cons_of_pos (by simp)]

theorem unconfigured_listed {c : Config} {name : String} (h : ∀ s ∈ c.tables, s.name ≠ name) :
    c.listedTable name = c.bareTable name := by
  have hn : c.table? name = none :=
    List.find?_eq_none.mpr fun s hs => by simpa using h s hs
  rw [listedTable, hn, Option.getD_none]

/-- `ts` are the tables of a listing, as far as configured by name, and then the configured tables
that are not listed. -/
structure LaidOver (c : Config) (listed : List String) (ts : List Table) : Prop where
  names : ts.map (·.name) =
    listed ++ (c.tables.map (·.name)).filter fun name => !listed.contains name
  listed_once : ∀ name ∈ listed, (ts.map (·.name)).count name = 1
  unlisted_kept : ∀ t, t.name ∉ listed → ts.count t = c.tables.count t
  first_taken : ∀ t ∈ ts, t.name ∈ listed → ∀ before first after,
    c.tables = before ++ first :: after → first.name = t.name →
    (∀ s ∈ before, s.name ≠ t.name) → t = first
  bare_otherwise : ∀ t ∈ ts, t.name ∈ listed → (∀ s ∈ c.tables, s.name ≠ t.name) →
    t = c.bareTable t.name

theorem merge_laid_over (c : Config) {listed : List String} (hd : listed.Nodup) :
    c.LaidOver listed (c.merge listed) where
  names := c.merged_names listed
  listed_once := by
    intro name hn
    have hu : name ∉ (c.tables.map (·.name)).filter fun name => !listed.contains name := by
      simp [hn]
    rw [c.merged_names, List.count_append, List.count_eq_one_of_mem hd hn,
      List.count_eq_zero_of_not_mem hu]
  unlisted_kept := by
    intro t hn
    have hp : (!listed.contains t.name) = true := by simpa using hn
    have hf : ∀ ts : List Table,
        (ts.filter fun t => !listed.contains t.name).count t = ts.count t :=
      fun ts => List.count_filter hp
    rw [← hf, c.merged_unlisted, hf]
  first_taken := by
    intro t ht hn before first after hc hf hb
    have ht' : t = c.listedTable t.name := (merged_of_listed hn t).mp ⟨ht, rfl⟩
    rw [← hf] at hb ht'
    rw [ht', listedTable, first_found hc hb, Option.getD_some]
  bare_otherwise := by
    intro t ht hn hc
    rw [← unconfigured_listed hc]
    exact (merged_of_listed hn t).mp ⟨ht, rfl⟩

/-- In a run of an entire database, of which no name is listed twice, the tables are those of the
listing in its order and then the configured ones that are not listed, in theirs. Each listed name
stands for the first configured table of that name or, if there is none, for the table that the name
alone gives. Any other run is of the configured tables, and nothing is asked. -/
theorem run_tables_laid_over (c : Config) (source : Source) :
    (c.entireDatabase = true → ∀ listed, source.list c.defaultDb c.modelViews = .ok listed →
      listed.Nodup → ∃ ts, (c.runTables source).result = .ok ts ∧ c.LaidOver listed ts) ∧
    (c.entireDatabase = false →
      (c.runTables source).result = .ok c.tables ∧ (c.runTables source).calls = []) := by
  constructor
  · intro he listed hl hd
    exact ⟨c.merge listed, by simp [runTables, he, hl], c.merge_laid_over hd⟩
  · intro he
    simp [runTables, he]

def overlaid : Config :=
  { namesakeOutput with
    tables := [{ shopUsers with file := "gone", name := "gone" }, authUsers, shopUsers,
      { shopUsers with file := "gone", name := "gone" }] }

def overlaidCatalog : Catalog where
  databases := [("shop", [⟨"items", false, [], none⟩, ⟨"users", false, [], none⟩])]
  listError := none

theorem shop_laid_over : ∃ ts, (overlaid.runTables overlaidCatalog.source).result = .ok ts ∧
    ts.map (·.name) = ["items", "users", "gone", "gone"] ∧
    (∀ t ∈ ts, t.name = "users" → t = authUsers) ∧
    (∀ t ∈ ts, t.name = "items" → t = overlaid.bareTable t.name) ∧
    (({ overlaid with entireDatabase := false } : Config).runTables
      overlaidCatalog.source).calls = [] := by
  obtain ⟨hentire, -⟩ := run_tables_laid_over overlaid overlaidCatalog.source
  obtain ⟨ts, hts, ho⟩ := hentire rfl ["items", "users"] rfl (by decide)
  obtain ⟨-, hconfigured⟩ := run_tables_laid_over { overlaid with entireDatabase := false }
    overlaidCatalog.source
  refine ⟨ts, hts, ?_, ?_, ?_, (hconfigured rfl).2⟩
  · rw [ho.names]
    decide +kernel
  · intro t ht hn
    have hname : authUsers.name = t.name := hn.symm
    exact ho.first_taken t ht (by simp [hn]) [_] authUsers _ rfl hname (by simp [hn])
  · intro t ht hn
    refine ho.bare_otherwise t ht (by simp [hn]) ?_
    rw [hn]
    decide +kernel

end SchemaTypes.Config
