import SchemaTypes.Proofs.Run.Calls
import SchemaTypes.Proofs.Run.Reporting

/-!
# Dry runs

A dry run asks the same questions as the real one and fails with it. It prints what the real run
hands to its files, in the same order, and reports as written whatever the real run writes or
fails to write.
-/

set_option autoImplicit false

namespace SchemaTypes

theorem write_all_dry_tree [PatternEngine] {c : Config} {w : Writer} (hd : w.dryRun = true)
    (world : World) (ts : List Table) : (writeAll c w world ts).1.tree = world.tree := by
  induction ts generalizing world with
  | nil => rfl
  | cons t ts ih =>
    rw [writeAll]
    split
    · exact ih world
    · split
      · rfl
      · next code hcode =>
        rw [w.dry_write world t.file code hd]
        exact ih _

theorem dry_run_tree [PatternEngine] {c : Config} (hd : c.dryRun = true) (source : Source)
    (world : World) : (generate c source world).world.tree = world.tree := by
  cases h : (c.fetchTables source).result with
  | error failure => simp [generate, h]
  | ok ts =>
    simp only [generate, h]
    exact write_all_dry_tree hd world ts

/-- The report on a dry run: all that could be read counts as written. -/
theorem report_of_success (w : Writer) (unread : List Table) (declared : List (Table × String)) :
    Report.ofAnswers w unread declared ((callsFor declared).map fun _ => true) = {
      written := declared.map fun d => (d.1.name, w.outputPath d.1.file)
      errored := unread.map (·.name) } := by
  induction declared with
  | nil => rfl
  | cons d rest ih =>
    obtain ⟨t, code⟩ := d
    rw [callsFor, List.map_cons, List.map_cons, Report.of_answers_success]
    change (Report.ofAnswers w unread rest ((callsFor rest).map fun _ => true)).addWritten _ _ = _
    rw [ih]
    rfl

theorem dry_run_of_declared [PatternEngine] {c : Config} (hd : c.dryRun = true) {source : Source}
    {ts : List Table} (hts : (c.fetchTables source).result = .ok ts)
    {declared : List (Table × String)} (h : c.declared ts = .ok declared) (world : World) :
    generate c source world = {
      result := .ok {
        written := declared.map fun d => (d.1.name, c.writer.outputPath d.1.file)
        errored := (ts.filter (·.unreadable)).map (·.name) }
      calls := (c.fetchTables source).calls
      world := world.print (c.writer.dryTexts (callsFor declared)) } := by
  have hw : c.writer.dryRun = true := hd
  rw [run_of_declared hts h, Writer.dry_answers hw, report_of_success, Writer.dry_calls hw]

/-- A dry run asks the same as the real one, changes no file and fails exactly if the real one
does, with the same failure. If they succeed, both are about the same declarations: those of the
tables that could be read, in the order of the run. The real run hands each to its file and
reports it as written or as failed, as the writer answers. The dry run reports all of them as
written, at the same paths, and prints each under a line with the path. -/
theorem dry_run_mirrors [PatternEngine] (c : Config) (source : Source) (world : World) :
    let real := generate { c with dryRun := false } source world
    let dry := generate { c with dryRun := true } source world
    let writer := ({ c with dryRun := false } : Config).writer
    dry.calls = real.calls ∧ dry.world.tree = world.tree ∧
    (∀ failure, dry.result = .error failure ↔ real.result = .error failure) ∧
    ∀ report, real.result = .ok report →
      ∃ (ts : List Table) (declared : List (Table × String)) (answers : List Bool),
        (c.fetchTables source).result = .ok ts ∧
        declared.map Prod.fst = ts.filter (fun t => !t.unreadable) ∧
        (∀ d ∈ declared, d.1.render c = .ok d.2) ∧
        answers.length = declared.length ∧
        report = Report.ofAnswers writer (ts.filter (·.unreadable)) declared answers ∧
        real.world = (writer.writeCalls world (callsFor declared)).world ∧
        dry.result = .ok {
          written := declared.map fun d => (d.1.name, writer.outputPath d.1.file)
          errored := report.errored } ∧
        dry.world.printed = world.printed ++ String.join (declared.map fun d =>
          "// " ++ writer.outputPath d.1.file ++ "\n" ++ d.2 ++ "\n") := by
  intro real dry writer
  have hfetch : ∀ b, ({ c with dryRun := b } : Config).fetchTables source = c.fetchTables source :=
    fun _ => rfl
  refine ⟨?_, dry_run_tree rfl source world, fun failure => ?_, fun report h => ?_⟩
  · simp only [real, dry, run_calls, hfetch]
  · simp only [real, dry, run_error_iff]
    rfl
  · obtain ⟨ts, declared, hts, hd, rfl⟩ := run_declared h
    have hreal := run_of_declared hts hd world
    have hdry := dry_run_of_declared (c := { c with dryRun := true }) rfl hts hd world
    obtain ⟨htables, hcodes⟩ := declared_tables hd
    refine ⟨ts, declared, writer.answers world (callsFor declared), hts, htables, hcodes,
      by simp [Writer.answers_length, callsFor], rfl, ?_, ?_, ?_⟩
    · simp only [real, hreal]
      rfl
    · simp only [dry, hdry]
      rfl
    · simp only [dry, hdry, World.print, Writer.dryTexts, callsFor, List.map_map]
      rfl

theorem mixed_run_mirrored :
    (generate { mixed with dryRun := false } guardedAudit ⟨sharedTree, ""⟩).result =
      .ok mixedReport ∧
    (generate { mixed with dryRun := true } guardedAudit ⟨sharedTree, ""⟩).result = .ok {
      written := [("users", "out/users-model.ts"), ("orders", "out/blocked/orders.ts"),
        ("users", "out/users-model.ts")]
      errored := ["audit"] } ∧
    (generate { mixed with dryRun := true } guardedAudit ⟨sharedTree, ""⟩).world.tree =
      sharedTree := by
  have hr : (generate { mixed with dryRun := false } guardedAudit ⟨sharedTree, ""⟩).result =
      .ok mixedReport := by decide +kernel
  obtain ⟨-, htree, -, hsuccess⟩ := dry_run_mirrors mixed guardedAudit ⟨sharedTree, ""⟩
  obtain ⟨ts, declared, answers, hts, htables, -, -, -, -, hdry, -⟩ := hsuccess mixedReport hr
  have hfetched : (mixed.fetchTables guardedAudit).result = .ok (mixed.tables.map fun t =>
      if t.name = "audit" then { t with unreadable := true }
      else { t with columns := oneColumn }) := by decide +kernel
  obtain rfl := Except.ok.inj (hts.symm.trans hfetched)
  have hwritten : declared.map (fun d => (d.1.name, mixed.writer.outputPath d.1.file)) =
      [("users", "out/users-model.ts"), ("orders", "out/blocked/orders.ts"),
        ("users", "out/users-model.ts")] := by
    have hpaths : declared.map (fun d => (d.1.name, mixed.writer.outputPath d.1.file)) =
        (declared.map Prod.fst).map fun t => (t.name, mixed.writer.outputPath t.file) := by simp
    rw [hpaths, htables]
    decide +kernel
  refine ⟨hr, ?_, htree⟩
  rw [hdry]
  exact congrArg (fun written => Except.ok { mixedReport with written := written, failed := [] })
    hwritten

end SchemaTypes
