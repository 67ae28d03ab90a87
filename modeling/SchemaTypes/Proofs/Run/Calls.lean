import SchemaTypes.Proofs.Config.Reading
import SchemaTypes.Proofs.Output.Answers

/-!
# The writing of a run as calls

Once its tables are fetched, a run hands the declarations of those that could be read to its
writer, in order. The report tells these tables with the answers of the writer. A declaration that
cannot be rendered ends the run, and nothing that the writer answers does.
-/

set_option autoImplicit false

namespace SchemaTypes

def Config.declared [PatternEngine] (c : Config) (ts : List Table) :
    Except ConfigFault (List (Table × String)) :=
  (ts.filter fun t => !t.unreadable).mapM fun t => (t.render c).map fun code => (t, code)

def callsFor (declared : List (Table × String)) : List (String × String) :=
  declared.map fun d => (d.1.file, d.2)

/-- The report on the tables that could not be read and on declarations with the answers of a
writer. -/
def Report.ofAnswers (w : Writer) (unread : List Table) (declared : List (Table × String))
    (answers : List Bool) : Report where
  written := ((declared.zip answers).filter (·.2)).map fun a =>
    (a.1.1.name, w.outputPath a.1.1.file)
  errored := unread.map (·.name)
  failed := ((declared.zip answers).filter (!·.2)).map (·.1.1.name)

theorem report_of_dir {w w' : Writer} (h : w'.dir = w.dir) (unread : List Table)
    (declared : List (Table × String)) (answers : List Bool) :
    Report.ofAnswers w' unread declared answers = Report.ofAnswers w unread declared answers := by
  simp [Report.ofAnswers, Writer.output_path_of_dir h]

section Declared
variable {c : Config} {t : Table} {ts : List Table}

theorem declared_unreadable [PatternEngine] (hu : t.unreadable = true) :
    c.declared (t :: ts) = c.declared ts := by
  rw [Config.declared, List.filter_cons_of_neg (by simp [hu])]
  rfl

theorem declared_readable [PatternEngine] (hu : t.unreadable = false) :
    c.declared (t :: ts) = do
      let code ← t.render c
      let rest ← c.declared ts
      return (t, code) :: rest := by
  rw [Config.declared, List.filter_cons_of_pos (by simp [hu]), List.mapM_cons]
  cases t.render c <;> rfl

theorem declared_ok [PatternEngine] (hu : t.unreadable = false) {declared : List (Table × String)}
    (h : c.declared (t :: ts) = .ok declared) :
    ∃ code rest, t.render c = .ok code ∧ c.declared ts = .ok rest ∧
      declared = (t, code) :: rest := by
  rw [declared_readable hu] at h
  obtain ⟨code, hcode, h⟩ := bind_ok h
  obtain ⟨rest, hrest, h⟩ := bind_ok h
  cases h
  exact ⟨code, rest, hcode, hrest, rfl⟩

theorem declared_fault [PatternEngine] (hu : t.unreadable = false) {fault : ConfigFault}
    (h : c.declared (t :: ts) = .error fault) :
    t.render c = .error fault ∨ ∃ code, t.render c = .ok code ∧ c.declared ts = .error fault := by
  rw [declared_readable hu] at h
  cases hr : t.render c with
  | error fault' =>
    rw [hr] at h
    cases h
    exact Or.inl rfl
  | ok code =>
    rw [hr] at h
    cases hd : c.declared ts with
    | error fault' =>
      rw [hd] at h
      cases h
      exact Or.inr ⟨code, rfl, rfl⟩
    | ok rest =>
      rw [hd] at h
      cases h

theorem declared_tables [PatternEngine] {declared : List (Table × String)}
    (h : c.declared ts = .ok declared) :
    declared.map Prod.fst = ts.filter (fun t => !t.unreadable) ∧
      ∀ d ∈ declared, d.1.render c = .ok d.2 := by
  induction ts generalizing declared with
  | nil =>
    cases h
    exact ⟨rfl, nofun⟩
  | cons t ts ih =>
    cases hu : t.unreadable with
    | true =>
      rw [declared_unreadable hu] at h
      rw [List.filter_cons_of_neg (by simp [hu])]
      exact ih h
    | false =>
      obtain ⟨code, rest, hr, hd, rfl⟩ := declared_ok hu h
      obtain ⟨htables, hcodes⟩ := ih hd
      rw [List.filter_cons_of_pos (by simp [hu]), List.map_cons, htables]
      exact ⟨rfl, List.forall_mem_cons.mpr ⟨hr, hcodes⟩⟩

end Declared

namespace Report
variable (w : Writer) (unread : List Table) (t : Table) (code : String)
  (declared : List (Table × String)) (answers : List Bool)

theorem of_answers_unread :
    ofAnswers w (t :: unread) declared answers =
      (ofAnswers w unread declared answers).addErrored t.name := rfl

theorem of_answers_success :
    ofAnswers w unread ((t, code) :: declared) (true :: answers) =
      (ofAnswers w unread declared answers).addWritten t.name (w.outputPath t.file) := rfl

end Report

/-- Writing calls the writer with the declarations, and its answers make the report. -/
theorem write_all_of_declared [PatternEngine] {c : Config} {ts : List Table}
    {declared : List (Table × String)} (h : c.declared ts = .ok declared) (w : Writer)
    (world : World) :
    writeAll c w world ts = ((w.writeCalls world (callsFor declared)).world,
      .ok (Report.ofAnswers w (ts.filter (·.unreadable)) declared
        (w.answers world (callsFor declared)))) := by
  induction ts generalizing w world declared with
  | nil =>
    cases h
    rfl
  | cons t ts ih =>
    cases hu : t.unreadable with
    | true =>
      rw [declared_unreadable hu] at h
      rw [writeAll, if_pos hu, ih h, List.filter_cons_of_pos hu, Report.of_answers_unread]
      rfl
    | false =>
      obtain ⟨code, rest, hr, hd, rfl⟩ := declared_ok hu h
      rw [writeAll, if_neg (by simp [hu]), List.filter_cons_of_neg (by simp [hu])]
      rcases hw : w.write world t.file code with ⟨w', world', answer⟩
      have hrest := ih hd w' world'
      rw [report_of_dir (write_tells hw).1] at hrest
      cases answer with
      | ok path =>
        simp only [hr, hrest, callsFor, List.map_cons, Writer.writeCalls, Writer.answers, hw,
          write_path hw, Except.isOk, Except.toBool, Report.of_answers_success]
        rfl
      | error failure =>
        simp only [hr, hrest, callsFor, List.map_cons, Writer.writeCalls, Writer.answers, hw,
          write_failure hw, Except.isOk, Except.toBool]
        rfl

theorem write_all_of_fault [PatternEngine] {c : Config} {ts : List Table} {fault : ConfigFault}
    (h : c.declared ts = .error fault) (w : Writer) (world : World) :
    (writeAll c w world ts).2 = .error (.validation fault) := by
  induction ts generalizing w world with
  | nil => cases h
  | cons t ts ih =>
    cases hu : t.unreadable with
    | true =>
      rw [declared_unreadable hu] at h
      simp only [writeAll, hu, if_true, ih h]
      rfl
    | false =>
      rw [writeAll, if_neg (by simp [hu])]
      rcases declared_fault hu h with hr | ⟨code, hr, hd⟩
      · simp only [hr]
      · rcases hw : w.write world t.file code with ⟨w', world', answer⟩
        cases answer with
        | ok path =>
          simp only [hr, hw, ih hd]
          rfl
        | error failure =>
          simp only [hr, hw, write_failure hw, ih hd]
          rfl

theorem reported_paths (w : Writer) (unread : List Table) (declared : List (Table × String))
    (answers : List Bool) :
    (Report.ofAnswers w unread declared answers).written.map Prod.snd =
      (w.writtenOf (callsFor declared) answers).map Entry.path := by
  simp [Report.ofAnswers, Writer.writtenOf, callsFor, List.zip_map_left, List.filter_map,
    Function.comp_def]

theorem answers_of_unfailed {w : Writer} {unread : List Table} {declared : List (Table × String)}
    {answers : List Bool} (hl : answers.length = declared.length)
    (hf : (Report.ofAnswers w unread declared answers).failed = []) :
    ∀ answer ∈ answers, answer = true := by
  intro answer ha
  have hz : (declared.zip answers).map Prod.snd = answers := List.map_snd_zip (Nat.le_of_eq hl)
  obtain ⟨a, hm, rfl⟩ := List.mem_map.mp (hz ▸ ha)
  have hn := List.filter_eq_nil_iff.mp (List.map_eq_nil_iff.mp hf) a hm
  simpa using hn

section Run
variable {c : Config} {source : Source} {ts : List Table}

theorem run_of_declared [PatternEngine] (hts : (c.fetchTables source).result = .ok ts)
    {declared : List (Table × String)} (hd : c.declared ts = .ok declared) (world : World) :
    generate c source world = {
      result := .ok (Report.ofAnswers c.writer (ts.filter (·.unreadable)) declared
        (c.writer.answers world (callsFor declared)))
      calls := (c.fetchTables source).calls
      world := (c.writer.writeCalls world (callsFor declared)).world } := by
  simp only [generate, hts, write_all_of_declared hd]

theorem run_of_fault [PatternEngine] (hts : (c.fetchTables source).result = .ok ts)
    {fault : ConfigFault} (hd : c.declared ts = .error fault) (world : World) :
    (generate c source world).result = .error (.validation fault) := by
  simp only [generate, hts, write_all_of_fault hd]

theorem run_calls [PatternEngine] (c : Config) (source : Source) (world : World) :
    (generate c source world).calls = (c.fetchTables source).calls := by
  cases h : (c.fetchTables source).result <;> simp [generate, h]

theorem run_error_iff [PatternEngine] (c : Config) (source : Source) (world : World)
    (failure : Failure) :
    (generate c source world).result = .error failure ↔
      (c.fetchTables source).result = .error failure ∨
      ∃ ts fault, (c.fetchTables source).result = .ok ts ∧ c.declared ts = .error fault ∧
        failure = .validation fault := by
  cases hts : (c.fetchTables source).result with
  | error failure' => simp [generate, hts]
  | ok ts =>
    cases hd : c.declared ts with
    | error fault => simp [run_of_fault hts hd, hd, eq_comm]
    | ok declared => simp [run_of_declared hts hd, hd]

theorem run_declared [PatternEngine] {world : World} {report : Report}
    (h : (generate c source world).result = .ok report) :
    ∃ ts declared, (c.fetchTables source).result = .ok ts ∧ c.declared ts = .ok declared ∧
      report = Report.ofAnswers c.writer (ts.filter (·.unreadable)) declared
        (c.writer.answers world (callsFor declared)) := by
  obtain ⟨ts, hts, -⟩ := run_stages h
  cases hd : c.declared ts with
  | ok declared =>
    rw [run_of_declared hts hd] at h
    exact ⟨ts, declared, hts, hd, (Except.ok.inj h).symm⟩
  | error fault =>
    rw [run_of_fault hts hd] at h
    cases h

end Run

end SchemaTypes
