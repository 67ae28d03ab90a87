import SchemaTypes.Proofs.Name.Content
import SchemaTypes.Proofs.Output.Confinement
import SchemaTypes.Proofs.Run.Coverage
import SchemaTypes.Proofs.Run.DryRun
import SchemaTypes.Proofs.Run.Repetition

/-!
# Where a run writes

A run changes files at the paths of its report alone. In a run of an entire database these paths are
made of listed names, and a name may hold slashes and dots. So a file may be outside the output
directory: it is inside exactly if its path goes down again through all directories that it leaves.
-/

set_option autoImplicit false

namespace SchemaTypes

theorem unreported_content [PatternEngine] {c : Config} {source : Source} {world : World}
    {report : Report} (h : (generate c source world).result = .ok report) {l : Location}
    (hl : ∀ line ∈ report.written, world.tree.locate line.2 ≠ l) :
    (generate c source world).world.tree.content? l = world.tree.content? l := by
  cases hd : c.dryRun with
  | true => rw [dry_run_tree hd]
  | false =>
    obtain ⟨ts, -, hrun⟩ := run_stages h
    obtain ⟨written, hr, -, -, w', -, hf⟩ :=
      write_all_follows (Writer.follows_start c.writer world.tree hd rfl) hrun
    rw [hf.content, FileTree.unwritten_content]
    intro e he
    simp only [List.append_nil, List.mem_reverse, List.mem_map] at he
    obtain ⟨s, hs, rfl⟩ := he
    exact hl (s.1.name, s.2.path) (hr ▸ List.mem_map_of_mem hs)

namespace Config

def Lists (c : Config) (source : Source) (name : String) : Prop :=
  ∃ listed, source.list c.defaultDb c.modelViews = .ok listed ∧ name ∈ listed

def tableFile (c : Config) (name : String) : String := Writer.extended (c.bareTable name).file

structure Plain (c : Config) (name : String) : Prop where
  name : '/' ∉ name.toList
  connector : '/' ∉ c.defaultConnector.toList
  suffix : '/' ∉ c.defaultSuffix.toList

theorem plain_file {c : Config} {name : String} (h : c.Plain name) :
    '/' ∉ (c.bareTable name).file.toList := by
  have hn : '/' ∉ (if c.renameTableToCase then c.case.convert name else name).toList := by
    split
    · rw [Case.mem_convert_iff (by decide) (by decide)]
      exact h.name
    · exact h.name
  have hs : '/' ∉ (c.case.convert c.defaultSuffix).toList := by
    rw [Case.mem_convert_iff (by decide) (by decide)]
    exact h.suffix
  simp only [bareTable, fileName, String.toList_append, List.mem_append, not_or]
  exact ⟨⟨hn, h.connector⟩, hs⟩

/-- Where the file of a listed name is, seen from the output directory. -/
structure Places (c : Config) (source : Source) (t : FileTree) (name path : String) : Prop where
  listed : c.Lists source name
  spelled : path = Path.join c.dir (c.tableFile name)
  inside_iff : Location.Inside (t.locate c.dir) (t.locate path) ↔
    (Path.route (c.tableFile name)).Returns (t.locate c.dir)
  stays : (Path.route (c.tableFile name)).Stays →
    Location.Inside (t.locate c.dir) (t.locate path)
  plain : c.Plain name → t.locate path = c.tableFile name :: t.locate c.dir

theorem listed_placed {c : Config} {source : Source} {name : String}
    (h : c.Lists source name) (t : FileTree) :
    c.Places source t name (c.writer.outputPath (c.bareTable name).file) := by
  have hi := c.writer.output_inside_iff t (c.bareTable name).file
  exact {
    listed := h
    spelled := rfl
    inside_iff := hi
    stays := fun hs => hi.mpr (Path.stays_returns (Writer.extended_names_file _) hs _)
    plain := fun hp => c.writer.plain_output_located t (plain_file hp) }

theorem bare_tables_found {c : Config} {source : Source} {found : List Table}
    (he : c.entireDatabase = true) (hc : c.tables = [])
    (h : (c.runTables source).result = .ok found) :
    ∀ t ∈ found, c.Lists source t.name ∧ t = c.bareTable t.name := by
  obtain ⟨listed, hl, rfl⟩ := entire_database_found he h
  intro t ht
  simp only [merge, table?, hc, List.find?_nil, Option.getD_none, List.filter_nil,
    List.append_nil, List.mem_map] at ht
  obtain ⟨name, hn, rfl⟩ := ht
  exact ⟨⟨listed, hl, hn⟩, rfl⟩

end Config

/-- A run of an entire database without configured tables that fails changes nothing. One that
succeeds changes files at the paths of its report alone, and every reported path is made of a listed
name: the output directory, then the name, the connector and the suffix. It is inside the output
directory exactly if it goes down again through all directories that it leaves with two dots or by
starting at the root; so it is if it leaves none, and where there is no slash in the name, the
connector and the suffix, the file is right in the directory. -/
theorem entire_database_confined_iff [PatternEngine] {c : Config} (he : c.entireDatabase = true)
    (hc : c.tables = []) (source : Source) (world : World) :
    (∀ failure, (generate c source world).result = .error failure →
      (generate c source world).world = world) ∧
    ∀ report, (generate c source world).result = .ok report →
      (∀ line ∈ report.written, c.Places source world.tree line.1 line.2) ∧
      ∀ l, (generate c source world).world.tree.content? l ≠ world.tree.content? l →
        ∃ line ∈ report.written, l = world.tree.locate line.2 := by
  have hchecked : ∀ t ∈ c.tables, t.Checked := by simp [hc]
  refine ⟨fun failure h => failed_run_writes_nothing c source world hchecked h, ?_⟩
  intro report h
  refine ⟨?_, ?_⟩
  · obtain ⟨found, hfound, hlines⟩ := run_written_tables h
    intro line hl
    obtain ⟨t, ht, rfl⟩ := hlines line hl
    obtain ⟨hlisted, hbare⟩ := Config.bare_tables_found he hc hfound t ht
    have hplaced := Config.listed_placed hlisted world.tree
    rwa [← hbare] at hplaced
  · intro l hchanged
    by_contra hn
    refine hchanged (unreported_content h ?_)
    intro line hl hloc
    exact hn ⟨line, hl, hloc.symm⟩

def unconfiguredSettings : Json := .object [("driver", .string "mysql"),
  ("driverOptions", .object [("host", .string "h"), ("user", .string "u")]),
  ("dir", .string "out"), ("defaultDb", .string "shop"), ("entireDatabase", .bool true)]

def unconfigured : Config where
  connect := { host := "h", user := "u" }
  dir := "out"
  defaultDb := "shop"
  entireDatabase := true

def tablesNamed (names : List String) : Source where
  list _ _ := .ok names
  columns _ _ := .ok oneColumn

theorem returning_name_confined :
    Config.ofJson unconfiguredSettings = .ok unconfigured ∧
    (generate unconfigured (tablesNamed ["users", "../out/orders"]) {}).result = .ok { written :=
      [("users", "out/users-model.ts"), ("../out/orders", "out/../out/orders-model.ts")] } ∧
    ∀ path ∈ ["out/users-model.ts", "out/../out/orders-model.ts"],
      Location.Inside (FileTree.locate {} "out") (FileTree.locate {} path) := by
  have hs : Config.ofJson unconfiguredSettings = .ok unconfigured := by decide +kernel
  have hr : (generate unconfigured (tablesNamed ["users", "../out/orders"]) {}).result =
      .ok { written := [("users", "out/users-model.ts"),
        ("../out/orders", "out/../out/orders-model.ts")] } := by
    decide +kernel
  obtain ⟨-, hok⟩ := entire_database_confined_iff (c := unconfigured) rfl rfl
    (tablesNamed ["users", "../out/orders"]) {}
  obtain ⟨hplaced, -⟩ := hok _ hr
  have husers := hplaced ("users", "out/users-model.ts") (by simp)
  have horders := hplaced ("../out/orders", "out/../out/orders-model.ts") (by simp)
  refine ⟨hs, hr, ?_⟩
  simp only [List.forall_mem_cons, List.not_mem_nil, false_imp_iff, implies_true, and_true]
  exact ⟨husers.stays (by decide +kernel), horders.inside_iff.mpr (by decide +kernel)⟩

theorem listed_name_escapes :
    Config.ofJson unconfiguredSettings = .ok unconfigured ∧
    unconfigured.entireDatabase = true ∧ unconfigured.tables = [] ∧
    (tablesNamed ["../evil"]).list unconfigured.defaultDb unconfigured.modelViews =
      .ok ["../evil"] ∧
    (generate unconfigured (tablesNamed ["../evil"]) {}).result =
      .ok { written := [("../evil", "out/../evil-model.ts")] } ∧
    (generate unconfigured (tablesNamed ["../evil"]) {}).world.tree.content?
      (FileTree.locate {} "evil-model.ts") =
        some "export interface ../evilModel \x7b\n    id: number;\n\x7d\n" ∧
    FileTree.locate {} "out/../evil-model.ts" = FileTree.locate {} "evil-model.ts" ∧
    ¬ Location.Inside (FileTree.locate {} unconfigured.dir)
      (FileTree.locate {} "out/../evil-model.ts") := by
  have hs : Config.ofJson unconfiguredSettings = .ok unconfigured := by decide +kernel
  exact ⟨hs, rfl, rfl, rfl, by decide +kernel, by decide +kernel, by decide +kernel,
    by decide +kernel⟩

end SchemaTypes
