import SchemaTypes.Proofs.Run.Calls
import SchemaTypes.Proofs.Run.Reporting

/-!
# Tables that a source refuses

A table that the source refuses is named in the report and leaves no other trace: a run without it
writes the same files and prints the same text.
-/

set_option autoImplicit false

namespace SchemaTypes

/-- The tables that the source does not refuse. -/
def Source.admitted (source : Source) (ts : List Table) : List Table :=
  ts.filter fun t => !source.refuses t

def Config.admittedBy (c : Config) (source : Source) : Config :=
  { c with tables := source.admitted c.tables }

section Fetching
variable {source : Source} {t : Table} {ts fetched : List Table}

theorem admitted_refused (hr : source.refuses t = true) :
    source.admitted (t :: ts) = source.admitted ts := by
  simp [Source.admitted, hr]

theorem admitted_other (hr : source.refuses t = false) :
    source.admitted (t :: ts) = t :: source.admitted ts := by
  simp [Source.admitted, hr]

theorem fetch_all_cons {t' : Table} (ht : source.fetch t = .ok t')
    (h : (fetchAll source ts).result = .ok fetched) :
    (fetchAll source (t :: ts)).result = .ok (t' :: fetched) := by
  simp only [fetchAll, ht, h]
  rfl

/-- Fetching the admitted tables alone gives the same readable tables, and as unreadable only those
that were marked before. -/
theorem fetch_admitted (h : (fetchAll source ts).result = .ok fetched) :
    ∃ kept, (fetchAll source (source.admitted ts)).result = .ok kept ∧
      kept.filter (fun t => !t.unreadable) = fetched.filter (fun t => !t.unreadable) ∧
      (kept.filter (·.unreadable)).map (·.name) =
        ((source.admitted ts).filter (·.unreadable)).map (·.name) := by
  have hp := fetch_all_pairs h
  clear h
  induction hp with
  | nil => exact ⟨[], rfl, rfl, rfl⟩
  | @cons t t' ts fetched ht _ ih =>
    obtain ⟨kept, hk, hread, hmarked⟩ := ih
    have hm := fetch_marks ht
    cases hr : source.refuses t with
    | true =>
      have hu : t'.unreadable = true := hm.unreadable.mpr (.inr hr)
      rw [admitted_refused hr, List.filter_cons_of_neg (by simp [hu])]
      exact ⟨kept, hk, hread, hmarked⟩
    | false =>
      have hu : t'.unreadable = t.unreadable := by
        rw [Bool.eq_iff_iff, hm.unreadable, hr]
        simp
      rw [admitted_other hr]
      refine ⟨t' :: kept, fetch_all_cons ht hk, ?_, ?_⟩
      · rw [List.filter_cons, List.filter_cons, hread]
      · rw [List.filter_cons, List.filter_cons, hu]
        cases t.unreadable <;> simp [hmarked, hm.name]

end Fetching

theorem declared_of_readable [PatternEngine] {c : Config} {ts us : List Table}
    (h : us.filter (fun t => !t.unreadable) = ts.filter (fun t => !t.unreadable)) :
    c.declared us = c.declared ts := by
  rw [Config.declared, Config.declared, h]

theorem fetch_configured {c : Config} (he : c.entireDatabase = false) (source : Source) :
    c.fetchTables source = fetchAll source c.tables := by
  simp [Config.fetchTables, Config.runTables, he]

/-- In a run over the configured tables that succeeds, the tables that the source refuses cannot be
seen but in the report. Without them the run has the same files and the same printed text, and it
reports the same tables as written and as failed. As errored it reports those that had been marked
before. No table is in a configuration that was read (`Config.read_tables_unmarked`), and then
there is none to report. -/
theorem errored_tables_invisible [PatternEngine] {c : Config} {source : Source} {world : World}
    {report : Report} (he : c.entireDatabase = false)
    (h : (generate c source world).result = .ok report) :
    let run := generate c source world
    let quiet := generate (c.admittedBy source) source world
    quiet.world = run.world ∧
    quiet.result = .ok { report with
      errored := ((source.admitted c.tables).filter (·.unreadable)).map (·.name) } ∧
    ((∀ t ∈ c.tables, t.unreadable = false) →
      quiet.result = .ok { report with errored := [] }) := by
  intro run quiet
  obtain ⟨ts, declared, hts, hd, hreport⟩ := run_declared h
  have hf : (fetchAll source c.tables).result = .ok ts := by rwa [fetch_configured he] at hts
  obtain ⟨kept, hk, hread, hmarked⟩ := fetch_admitted hf
  have he' : (c.admittedBy source).entireDatabase = false := he
  have hkt : ((c.admittedBy source).fetchTables source).result = .ok kept := by
    rw [fetch_configured he']
    exact hk
  have hkd : (c.admittedBy source).declared kept = .ok declared :=
    (declared_of_readable hread).trans hd
  have hrun : run = _ := run_of_declared hts hd world
  have hquiet : quiet = _ := run_of_declared hkt hkd world
  have hresult : quiet.result = .ok { report with
      errored := ((source.admitted c.tables).filter (·.unreadable)).map (·.name) } := by
    rw [hquiet, hreport, ← hmarked]
    rfl
  refine ⟨by rw [hrun, hquiet]; rfl, hresult, fun hu => ?_⟩
  have hn : (source.admitted c.tables).filter (·.unreadable) = [] := by
    rw [List.filter_eq_nil_iff]
    intro t ht
    simp [hu t (List.mem_of_mem_filter ht)]
  rw [hresult, hn]
  rfl

def auditedModels : Config :=
  { mixedOutput with
    reWrite := true
    tables := ["audit", "users", "audit", "orders", "audit"].map fun name =>
      { mixedOutput.bareTable name with file := "models" } }

def auditedReport : Report where
  written := [("users", "out/models.ts"), ("orders", "out/models.ts")]
  errored := ["audit", "audit", "audit"]

theorem audit_invisible :
    auditedModels.entireDatabase = false ∧
    (generate auditedModels guardedAudit ⟨sharedTree, ""⟩).result = .ok auditedReport ∧
    (generate (auditedModels.admittedBy guardedAudit) guardedAudit ⟨sharedTree, ""⟩).world =
      (generate auditedModels guardedAudit ⟨sharedTree, ""⟩).world ∧
    (∀ t ∈ auditedModels.tables, t.unreadable = false) ∧
    (generate (auditedModels.admittedBy guardedAudit) guardedAudit ⟨sharedTree, ""⟩).result =
      .ok { auditedReport with errored := [] } := by
  have hr : (generate auditedModels guardedAudit ⟨sharedTree, ""⟩).result = .ok auditedReport := by
    decide +kernel
  have hu : ∀ t ∈ auditedModels.tables, t.unreadable = false := by
    simp [auditedModels, Config.bareTable]
  obtain ⟨hw, -, hn⟩ := errored_tables_invisible rfl hr
  exact ⟨rfl, hr, hw, hu, hn hu⟩

end SchemaTypes
