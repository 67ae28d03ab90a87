import SchemaTypes.Proofs.Config.Patterns
import SchemaTypes.Proofs.Run.Fetching
import SchemaTypes.Proofs.Run.Merging
import SchemaTypes.Proofs.Run.Writing

/-!
# Failures of a run

A run asks all its questions before it writes, and the patterns of a configuration have been
checked when it was read. So a run fails with what the source answers and with nothing else, and
a run that fails has neither written nor printed.
-/

set_option autoImplicit false

namespace SchemaTypes

namespace Config

theorem run_tables_checked [PatternEngine] (c : Config) (source : Source)
    (hc : ∀ t ∈ c.tables, t.Checked) {ts : List Table}
    (h : (c.runTables source).result = .ok ts) : ∀ t ∈ ts, t.Checked :=
  run_tables_all (by simp [Table.Checked, bareTable]) hc h

def ListingFails (c : Config) (source : Source) (e : SchemaError) : Prop :=
  c.entireDatabase = true ∧ source.list c.defaultDb c.modelViews = .error e

/-- The columns of some table of the run cannot be fetched, for a reason that is no fault of this
table alone, and the run has got to this table. -/
def FetchFails (c : Config) (source : Source) (e : SchemaError) : Prop :=
  ∃ before t after, (c.runTables source).result = .ok (before ++ t :: after) ∧
    (∀ b ∈ before, ∀ e', source.columns b.database b.name = .error e' →
      e'.isTableError = true) ∧
    source.columns t.database t.name = .error e ∧ e.isTableError = false

theorem run_tables_failure_iff (c : Config) (source : Source) (failure : Failure) :
    (c.runTables source).result = .error failure ↔
      ∃ e, c.ListingFails source e ∧ failure = .ofSchemaError e := by
  unfold runTables ListingFails
  cases hd : c.entireDatabase with
  | false => simp
  | true =>
    cases source.list c.defaultDb c.modelViews with
    | ok listed => simp
    | error e => simp [eq_comm]

theorem fetch_tables_failure_iff (c : Config) (source : Source) (failure : Failure) :
    (c.fetchTables source).result = .error failure ↔
      ∃ e, (c.ListingFails source e ∨ c.FetchFails source e) ∧ failure = .ofSchemaError e := by
  cases hr : (c.runTables source).result with
  | error failure' =>
    have hl := run_tables_failure_iff c source failure
    have hn : ∀ e, ¬ c.FetchFails source e := by
      rintro e ⟨before, t, after, ht, -⟩
      rw [hr] at ht
      cases ht
    simp only [hr] at hl
    simp [fetchTables, hr, hn, hl]
  | ok ts =>
    have hn : ∀ e, ¬ c.ListingFails source e := by
      intro e he
      have hf := (run_tables_failure_iff c source _).mpr ⟨e, he, rfl⟩
      rw [hr] at hf
      cases hf
    have hf : (c.fetchTables source).result = (fetchAll source ts).result := by
      simp [fetchTables, hr]
    rw [hf, fetch_all_failure_iff]
    simp only [fetch_continues_iff, fetch_failure_iff, hn, false_or]
    constructor
    · rintro ⟨before, t, after, rfl, hb, e, he, hk, rfl⟩
      exact ⟨e, ⟨before, t, after, hr, hb, he, hk⟩, rfl⟩
    · rintro ⟨e, ⟨before, t, after, ht, hb, he, hk⟩, rfl⟩
      rw [hr] at ht
      cases ht
      exact ⟨before, t, after, rfl, hb, e, he, hk, rfl⟩

theorem fetched_tables_checked [PatternEngine] (c : Config) (source : Source)
    (hc : ∀ t ∈ c.tables, t.Checked) {ts : List Table}
    (h : (c.fetchTables source).result = .ok ts) : ∀ t ∈ ts, t.Checked := by
  obtain ⟨found, hr, hf⟩ := fetch_tables_found h
  intro t ht
  obtain ⟨s, hs, hst⟩ := paired_left (fetch_all_pairs hf) ht
  have hp : t.omitPatterns = s.omitPatterns := by
    rcases fetch_result hst with ⟨_, -, rfl⟩ | ⟨_, -, -, rfl⟩ <;> rfl
  intro p hpt
  exact run_tables_checked c source hc hr s hs p (hp ▸ hpt)

end Config

/-- Writing gets to its end when every table can be rendered: a failed write is reported. -/
theorem write_all_reports [PatternEngine] (c : Config) (w : Writer) (world : World)
    (ts : List Table) (hts : ∀ t ∈ ts, t.Checked) :
    ∃ report, (writeAll c w world ts).2 = .ok report := by
  induction ts generalizing w world with
  | nil => exact ⟨{}, rfl⟩
  | cons t ts ih =>
    have hrest := fun w world => ih w world fun s hs => hts s (by simp [hs])
    rw [writeAll]
    split
    · obtain ⟨report, hr⟩ := hrest w world
      exact ⟨report.addErrored t.name, by simp [hr, Except.map]⟩
    · obtain ⟨code, hcode⟩ := checked_renders c t (hts t (by simp))
      simp only [hcode]
      split
      · next w' world' path hw =>
        obtain ⟨report, hr⟩ := hrest w' world'
        exact ⟨report.addWritten t.name path, by simp [hr, Except.map]⟩
      · next w' world' failure hw =>
        obtain ⟨report, hr⟩ := hrest w' world'
        have hf := write_failure hw
        subst hf
        exact ⟨report.addFailed t.name, by simp [Failure.isRecoverable, hr, Except.map]⟩

theorem fetched_run_reports [PatternEngine] (c : Config) (source : Source) (world : World)
    (hc : ∀ t ∈ c.tables, t.Checked) {ts : List Table}
    (h : (c.fetchTables source).result = .ok ts) :
    ∃ report, (generate c source world).result = .ok report := by
  obtain ⟨report, hr⟩ :=
    write_all_reports c c.writer world ts (c.fetched_tables_checked source hc h)
  exact ⟨report, by simp [generate, h, hr]⟩

theorem run_failure_iff [PatternEngine] (c : Config) (source : Source) (world : World)
    (hc : ∀ t ∈ c.tables, t.Checked) (failure : Failure) :
    (generate c source world).result = .error failure ↔
      (c.fetchTables source).result = .error failure := by
  cases hf : (c.fetchTables source).result with
  | error failure' => simp [generate, hf]
  | ok ts =>
    obtain ⟨report, hr⟩ := fetched_run_reports c source world hc hf
    simp [hr]

theorem failed_run_writes_nothing [PatternEngine] (c : Config) (source : Source) (world : World)
    (hc : ∀ t ∈ c.tables, t.Checked) {failure : Failure}
    (h : (generate c source world).result = .error failure) :
    (generate c source world).world = world := by
  have hf := (run_failure_iff c source world hc failure).mp h
  simp [generate, hf]

theorem schema_failure_ne_validation (e : SchemaError) (fault : ConfigFault) :
    Failure.ofSchemaError e ≠ .validation fault := by
  cases e <;> simp [Failure.ofSchemaError]

theorem schema_failure_ne_write (e : SchemaError) (path : String) :
    Failure.ofSchemaError e ≠ .fileWrite path := by
  cases e <;> simp [Failure.ofSchemaError]

/-- Whatever the source answers and whether or not the run is dry, a run of a configuration that
has been read fails exactly with the conversion of the error of its listing or of its first fetch
that is no fault of a single table; then it has changed nothing and printed nothing. No pattern
and no file ends a run. -/
theorem failed_run_is_schema_error [PatternEngine] {raw : Json} {c : Config}
    (hc : Config.ofJson raw = .ok c) (dry : Bool) (source : Source) (world : World) :
    let run := generate { c with dryRun := dry } source world
    (∀ failure, run.result = .error failure ↔
      ∃ e, (c.ListingFails source e ∨ c.FetchFails source e) ∧ failure = .ofSchemaError e) ∧
    (∀ failure, run.result = .error failure → run.world = world) ∧
    (∀ fault, run.result ≠ .error (.validation fault)) ∧
    (∀ path, run.result ≠ .error (.fileWrite path)) := by
  have hr := Config.read_tables_checked hc
  have hd : ∀ t ∈ ({ c with dryRun := dry } : Config).tables, t.Checked := hr
  have hi : ∀ failure, (generate { c with dryRun := dry } source world).result =
      .error failure ↔
      ∃ e, (c.ListingFails source e ∨ c.FetchFails source e) ∧ failure = .ofSchemaError e :=
    fun failure => (run_failure_iff _ source world hd failure).trans
      (Config.fetch_tables_failure_iff _ source failure)
  refine ⟨hi, fun failure h => failed_run_writes_nothing _ source world hd h, ?_, ?_⟩
  · intro fault h
    obtain ⟨e, -, he⟩ := (hi _).mp h
    exact schema_failure_ne_validation e fault he.symm
  · intro path h
    obtain ⟨e, -, he⟩ := (hi _).mp h
    exact schema_failure_ne_write e path he.symm

def shopSettings : Json := .object [("driver", .string "mysql"),
  ("driverOptions", .object [("host", .string "h"), ("user", .string "u")]),
  ("dir", .string "out"), ("defaultDb", .string "shop"),
  ("tables", .array [.string "users",
    .object [("name", .string "orders"), ("omit", .array [.string "^id$"])]])]

def lostAfterUsers : Source where
  list _ _ := .ok []
  columns _ table :=
    if table = "users" then .ok [] else .error (.connection (some "refused"))

theorem lost_source_fails_run :
    ∃ c, Config.ofJson shopSettings = .ok c ∧
      (generate { c with dryRun := true } lostAfterUsers {}).result =
        .error (.connection "Connection error: refused") ∧
      (generate { c with dryRun := true } lostAfterUsers {}).world = {} := by
  refine ⟨_, rfl, ?_⟩
  have h := failed_run_is_schema_error (show Config.ofJson shopSettings = .ok _ from rfl) true
    lostAfterUsers {}
  have hf := (h.1 _).mpr ⟨.connection (some "refused"),
    Or.inr ⟨[_], _, [], rfl, by simp [lostAfterUsers, Config.bareTable], rfl, rfl⟩, rfl⟩
  exact ⟨hf, h.2.1 _ hf⟩

end SchemaTypes
