import Mathlib.Data.List.Forall2
import SchemaTypes.Proofs.Run.Failures
import SchemaTypes.Proofs.Run.Survival

/-!
# What a report tells

Every table of a run has one fate: its declaration is written, its columns could not be fetched, or
its file could not be written. The report tells these fates, each list in the order of the run, and
nothing else.
-/

set_option autoImplicit false

namespace SchemaTypes

inductive Fate where
  | written (path : String)
  | errored
  | failed
  deriving DecidableEq, Repr

namespace Report

def ofFates (fates : List (String × Fate)) : Report where
  written := fates.filterMap fun f =>
    match f.2 with
    | .written path => some (f.1, path)
    | _ => none
  errored := (fates.filter fun f => f.2 = .errored).map Prod.fst
  failed := (fates.filter fun f => f.2 = .failed).map Prod.fst

theorem of_fates_written (name path : String) (fates : List (String × Fate)) :
    ofFates ((name, .written path) :: fates) = (ofFates fates).addWritten name path := by
  simp [ofFates, addWritten]

theorem of_fates_errored (name : String) (fates : List (String × Fate)) :
    ofFates ((name, .errored) :: fates) = (ofFates fates).addErrored name := by
  simp [ofFates, addErrored]

theorem of_fates_failed (name : String) (fates : List (String × Fate)) :
    ofFates ((name, .failed) :: fates) = (ofFates fates).addFailed name := by
  simp [ofFates, addFailed]

/-- Every name is in one of the three lists, as often as it has met a fate. -/
theorem of_fates_partition (fates : List (String × Fate)) :
    ((ofFates fates).written.map Prod.fst ++ (ofFates fates).errored ++
      (ofFates fates).failed).Perm (fates.map Prod.fst) := by
  induction fates with
  | nil => exact .nil
  | cons f fates ih =>
    obtain ⟨name, fate⟩ := f
    cases fate with
    | written path =>
      rw [of_fates_written]
      exact ih.cons name
    | errored =>
      rw [of_fates_errored]
      simp only [addErrored, List.append_assoc, List.cons_append] at ih ⊢
      exact List.perm_middle.trans (ih.cons name)
    | failed =>
      rw [of_fates_failed]
      exact List.perm_middle.trans (ih.cons name)

theorem complete_iff (r : Report) : r.isComplete = true ↔
    r.written.length = r.written.length + r.errored.length + r.failed.length := by
  simp only [isComplete, Bool.and_eq_true, List.isEmpty_iff, ← List.length_eq_zero_iff]
  omega

end Report

def Source.refuses (source : Source) (t : Table) : Bool :=
  match source.columns t.database t.name with
  | .error (.tableNotFound _ _) => true
  | _ => false

theorem refuses_iff (source : Source) (t : Table) : source.refuses t = true ↔
    ∃ e, source.columns t.database t.name = .error e ∧ e.isTableError = true := by
  unfold Source.refuses
  cases source.columns t.database t.name with
  | ok columns => simp
  | error e => cases e <;> simp [SchemaError.isTableError]

structure Fate.Ends (w : Writer) (t : Table) (fate : Fate) : Prop where
  errored : fate = .errored ↔ t.unreadable = true
  path : ∀ path, fate = .written path → path = w.outputPath t.file

theorem write_all_fates [PatternEngine] {c : Config} {w : Writer} {world world' : World}
    {ts : List Table} {report : Report} (h : writeAll c w world ts = (world', .ok report)) :
    ∃ fates, List.Forall₂ (Fate.Ends w) ts fates ∧
      report = Report.ofFates ((ts.map (·.name)).zip fates) := by
  induction ts generalizing w world report with
  | nil =>
    cases h
    exact ⟨[], .nil, rfl⟩
  | cons t ts ih =>
    rcases write_all_step h with ⟨hu, rest, hr, rfl⟩ | ⟨hu, code, w₁, world₁, rest, -, hr, hw⟩
    · obtain ⟨fates, hf, rfl⟩ := ih hr
      exact ⟨.errored :: fates, .cons ⟨by simp [hu], nofun⟩ hf,
        (Report.of_fates_errored _ _).symm⟩
    · obtain ⟨fates, hf, rfl⟩ := ih hr
      have hd : w₁.dir = w.dir := by
        rcases hw with ⟨_, hw, -⟩ | ⟨_, hw, -⟩
        · exact (write_tells hw).1
        · exact (write_tells hw).1
      have hrest : List.Forall₂ (Fate.Ends w) ts fates :=
        hf.imp fun s fate he => ⟨he.errored, fun path hp =>
          (he.path path hp).trans (Writer.output_path_of_dir hd _)⟩
      rcases hw with ⟨path, hw, rfl⟩ | ⟨failure, -, rfl⟩
      · refine ⟨.written path :: fates, .cons ⟨by simp [hu], ?_⟩ hrest,
          (Report.of_fates_written _ _ _).symm⟩
        rintro _ ⟨⟩
        exact write_path hw
      · exact ⟨.failed :: fates, .cons ⟨by simp [hu], nofun⟩ hrest,
          (Report.of_fates_failed _ _).symm⟩

structure Table.Marked (source : Source) (t t' : Table) : Prop where
  name : t'.name = t.name
  file : t'.file = t.file
  unreadable : t'.unreadable = true ↔ t.unreadable = true ∨ source.refuses t = true

theorem fetch_marks {source : Source} {t t' : Table} (h : source.fetch t = .ok t') :
    t.Marked source t' := by
  rcases fetch_result h with ⟨columns, hc, rfl⟩ | ⟨e, he, hk, rfl⟩
  · have hr : source.refuses t = false := by simp [Source.refuses, hc]
    exact ⟨rfl, rfl, by simp [hr]⟩
  · have hr : source.refuses t = true := (refuses_iff source t).mpr ⟨e, he, hk⟩
    exact ⟨rfl, rfl, by simp [hr]⟩

theorem fetch_all_marks {source : Source} {ts ts' : List Table}
    (h : (fetchAll source ts).result = .ok ts') : List.Forall₂ (Table.Marked source) ts ts' :=
  (fetch_all_pairs h).imp fun _ _ => fetch_marks

/-- What the fate of a table of a run says about it. -/
structure Fate.Suits (c : Config) (source : Source) (t : Table) (fate : Fate) : Prop where
  errored : fate = .errored ↔ t.unreadable = true ∨ source.refuses t = true
  path : ∀ path, fate = .written path → path = c.writer.outputPath t.file

theorem fates_suit {c : Config} {source : Source} {ts ts' : List Table} {fates : List Fate}
    (hm : List.Forall₂ (Table.Marked source) ts ts')
    (he : List.Forall₂ (Fate.Ends c.writer) ts' fates) :
    List.Forall₂ (Fate.Suits c source) ts fates ∧ ts'.map (·.name) = ts.map (·.name) := by
  induction hm generalizing fates with
  | nil =>
    cases he
    exact ⟨.nil, rfl⟩
  | cons hm _ ih =>
    cases he with
    | cons he hrest =>
      obtain ⟨hs, hn⟩ := ih hrest
      refine ⟨.cons ⟨he.errored.trans hm.unreadable, ?_⟩ hs, by simp [hm.name, hn]⟩
      intro path hp
      rw [he.path path hp, hm.file]

theorem errored_suits {c : Config} {source : Source} {ts : List Table} {fates : List Fate}
    (h : List.Forall₂ (Fate.Suits c source) ts fates) :
    (Report.ofFates ((ts.map (·.name)).zip fates)).errored =
      (ts.filter fun t => t.unreadable || source.refuses t).map (·.name) := by
  induction h with
  | nil => rfl
  | @cons t fate ts fates hs _ ih =>
    rw [List.map_cons, List.zip_cons_cons, List.filter_cons]
    cases fate with
    | errored =>
      have ht := hs.errored.mp rfl
      rw [Report.of_fates_errored, if_pos (by simpa using ht), List.map_cons, ← ih]
      rfl
    | written path =>
      have ht := hs.errored.not.mp (by simp)
      rw [Report.of_fates_written, if_neg (by simpa using ht), ← ih]
      rfl
    | failed =>
      have ht := hs.errored.not.mp (by simp)
      rw [Report.of_fates_failed, if_neg (by simpa using ht), ← ih]
      rfl

theorem written_suits {c : Config} {source : Source} {ts : List Table} {fates : List Fate}
    (h : List.Forall₂ (Fate.Suits c source) ts fates) :
    ∀ line ∈ (Report.ofFates ((ts.map (·.name)).zip fates)).written,
      ∃ t ∈ ts, line = (t.name, c.writer.outputPath t.file) := by
  induction h with
  | nil => nofun
  | @cons t fate ts fates hs _ ih =>
    have hrest : ∀ line ∈ (Report.ofFates ((ts.map (·.name)).zip fates)).written,
        ∃ s ∈ t :: ts, line = (s.name, c.writer.outputPath s.file) := by
      intro line hl
      obtain ⟨s, hm, hline⟩ := ih line hl
      exact ⟨s, List.mem_cons_of_mem t hm, hline⟩
    rw [List.map_cons, List.zip_cons_cons]
    cases fate with
    | errored => exact hrest
    | failed => exact hrest
    | written path =>
      rw [Report.of_fates_written, Report.addWritten]
      intro line hl
      rcases List.mem_cons.mp hl with rfl | hl
      · exact ⟨t, by simp, by rw [hs.path path rfl]⟩
      · exact hrest line hl

theorem run_fates [PatternEngine] {c : Config} {source : Source} {world : World} {report : Report}
    (h : (generate c source world).result = .ok report) :
    ∃ (ts : List Table) (fates : List Fate), (c.runTables source).result = .ok ts ∧
      List.Forall₂ (Fate.Suits c source) ts fates ∧
      report = Report.ofFates ((ts.map (·.name)).zip fates) := by
  obtain ⟨fetched, hfetched, hw⟩ := run_stages h
  obtain ⟨ts, hts, hf⟩ := fetch_tables_found hfetched
  obtain ⟨fates, he, hr⟩ := write_all_fates hw
  obtain ⟨hs, hn⟩ := fates_suit (fetch_all_marks hf) he
  exact ⟨ts, fates, hts, hs, hn ▸ hr⟩

theorem run_written_tables [PatternEngine] {c : Config} {source : Source} {world : World}
    {report : Report} (h : (generate c source world).result = .ok report) :
    ∃ ts, (c.runTables source).result = .ok ts ∧
      ∀ line ∈ report.written, ∃ t ∈ ts, line = (t.name, c.writer.outputPath t.file) := by
  obtain ⟨ts, fates, hts, hs, rfl⟩ := run_fates h
  exact ⟨ts, hts, written_suits hs⟩

theorem run_errored_tables [PatternEngine] {c : Config} {source : Source} {world : World}
    {report : Report} (hc : ∀ t ∈ c.tables, t.unreadable = false)
    (h : (generate c source world).result = .ok report) :
    ∃ ts, (c.runTables source).result = .ok ts ∧
      report.errored = (ts.filter source.refuses).map (·.name) := by
  obtain ⟨ts, fates, hts, hs, rfl⟩ := run_fates h
  refine ⟨ts, hts, ?_⟩
  rw [errored_suits hs]
  congr 1
  apply List.filter_congr
  intro t ht
  have hu : t.unreadable = false := Config.run_tables_all (fun _ => rfl) hc hts t ht
  rw [hu, Bool.false_or]

/-- In a run that succeeds every table has one fate, and the report is on these: the names in its
three lists are those of the tables, each list in the order of the run. A table is errored if the
source refuses it (or if it was marked before, as no table is in a configuration that was read:
`Config.read_tables_unmarked`); what is written is at the output path of its file. The report is
complete exactly if all tables are written. -/
theorem report_accounts_for_run [PatternEngine] {c : Config} {source : Source} {world : World}
    {report : Report} (h : (generate c source world).result = .ok report) :
    ∃ (ts : List Table) (fates : List Fate),
      (c.runTables source).result = .ok ts ∧
      List.Forall₂ (Fate.Suits c source) ts fates ∧
      report = Report.ofFates ((ts.map (·.name)).zip fates) ∧
      (report.written.map Prod.fst ++ report.errored ++ report.failed).Perm (ts.map (·.name)) ∧
      ((∀ t ∈ c.tables, t.unreadable = false) →
        report.errored = (ts.filter source.refuses).map (·.name)) ∧
      (report.isComplete = true ↔ report.written.length = ts.length) := by
  obtain ⟨fetched, hfetched, hw⟩ := run_stages h
  obtain ⟨ts, hts, hf⟩ := fetch_tables_found hfetched
  obtain ⟨fates, he, hr⟩ := write_all_fates hw
  obtain ⟨hs, hn⟩ := fates_suit (fetch_all_marks hf) he
  rw [hn] at hr
  have hp : (report.written.map Prod.fst ++ report.errored ++ report.failed).Perm
      (ts.map (·.name)) := by
    have hp := Report.of_fates_partition ((ts.map (·.name)).zip fates)
    rwa [← hr, List.map_fst_zip (by simp [hs.length_eq])] at hp
  refine ⟨ts, fates, hts, hs, hr, hp, ?_, ?_⟩
  · intro hc
    rw [hr, errored_suits hs]
    congr 1
    apply List.filter_congr
    intro t ht
    have hu : t.unreadable = false := Config.run_tables_all (fun _ => rfl) hc hts t ht
    rw [hu, Bool.false_or]
  · have hl := hp.length_eq
    simp only [List.length_append, List.length_map] at hl
    rw [Report.complete_iff, hl]

def mixedSettings : Json := .object [("driver", .string "mysql"),
  ("driverOptions", .object [("host", .string "h"), ("user", .string "u")]),
  ("dir", .string "out"), ("defaultDb", .string "shop"),
  ("tables", .array [.string "users", .string "audit",
    .object [("name", .string "orders"), ("file", .string "blocked/orders")], .string "users"])]

def mixedOutput : Config where
  connect := { host := "h", user := "u" }
  dir := "out"
  defaultDb := "shop"

def mixed : Config :=
  { mixedOutput with tables := [mixedOutput.bareTable "users", mixedOutput.bareTable "audit",
      { mixedOutput.bareTable "orders" with file := "blocked/orders" },
      mixedOutput.bareTable "users"] }

def guardedAudit : Source where
  list _ _ := .ok []
  columns _ table :=
    if table = "audit" then .error (.tableNotFound table "denied") else .ok oneColumn

def mixedReport : Report where
  written := [("users", "out/users-model.ts"), ("users", "out/users-model.ts")]
  errored := ["audit"]
  failed := ["orders"]

theorem mixed_run_accounted : ∃ fates : List Fate,
    Config.ofJson mixedSettings = .ok mixed ∧
    (generate mixed guardedAudit ⟨sharedTree, ""⟩).result = .ok mixedReport ∧
    List.Forall₂ (Fate.Suits mixed guardedAudit) mixed.tables fates ∧
    mixedReport = Report.ofFates ((mixed.tables.map (·.name)).zip fates) ∧
    mixedReport.errored = (mixed.tables.filter guardedAudit.refuses).map (·.name) := by
  have hc : Config.ofJson mixedSettings = .ok mixed := by decide +kernel
  have hr : (generate mixed guardedAudit ⟨sharedTree, ""⟩).result = .ok mixedReport := by
    decide +kernel
  obtain ⟨ts, fates, hts, hs, hf, -, he, -⟩ := report_accounts_for_run hr
  obtain rfl : mixed.tables = ts := Except.ok.inj hts
  exact ⟨fates, hc, hr, hs, hf, he (Config.read_tables_unmarked hc)⟩

end SchemaTypes
