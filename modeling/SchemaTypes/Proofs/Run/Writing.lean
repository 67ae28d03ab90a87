import SchemaTypes.Proofs.Output.History
import SchemaTypes.Run

/-!
# Writing declarations

What one write tells, and how the writes of a run go on: a table that could not be fetched is left
out, and a write that fails costs its own table alone.
-/

set_option autoImplicit false

namespace SchemaTypes

theorem write_tells {w w' : Writer} {world world' : World} {file code : String}
    {result : Except Failure String} (h : w.write world file code = (w', world', result)) :
    w'.dir = w.dir ∧ (result = .ok (w.outputPath file) ∨
      result = .error (.fileWrite (w.outputPath file))) := by
  cases hd : w.dryRun with
  | true =>
    rw [w.dry_write world file code hd] at h
    cases h
    exact ⟨rfl, Or.inl rfl⟩
  | false =>
    rcases w.write_cases world file code hd with ⟨_, -, he⟩ | ⟨_, _, -, he⟩
    · rw [he] at h
      cases h
      exact ⟨Writer.touch_dir _ _, Or.inl rfl⟩
    · rw [he] at h
      cases h
      exact ⟨rfl, Or.inr rfl⟩

theorem write_path {w w' : Writer} {world world' : World} {file code path : String}
    (h : w.write world file code = (w', world', .ok path)) : path = w.outputPath file := by
  rcases (write_tells h).2 with hp | hp
  · exact Except.ok.inj hp
  · cases hp

theorem write_failure {w w' : Writer} {world world' : World} {file code : String}
    {failure : Failure} (h : w.write world file code = (w', world', .error failure)) :
    failure = .fileWrite (w.outputPath file) := by
  rcases (write_tells h).2 with hf | hf
  · cases hf
  · exact Except.error.inj hf

theorem rest_reported {later : World × Except Failure Report} {line : Report → Report}
    {world : World} {report : Report} (h : (later.1, later.2.map line) = (world, .ok report)) :
    ∃ rest, later = (world, .ok rest) ∧ report = line rest := by
  obtain ⟨end_, failure | rest⟩ := later
  · simp [Except.map] at h
  · simp only [Except.map, Prod.mk.injEq, Except.ok.injEq] at h
    obtain ⟨rfl, rfl⟩ := h
    exact ⟨rest, rfl, rfl⟩

/-- What writing does with the first table before it goes on with the rest: it leaves the table out
if its columns could not be fetched, and otherwise writes its declaration or fails to. -/
theorem write_all_step [PatternEngine] {c : Config} {w : Writer} {world world' : World} {t : Table}
    {ts : List Table} {report : Report}
    (h : writeAll c w world (t :: ts) = (world', .ok report)) :
    (t.unreadable = true ∧ ∃ rest, writeAll c w world ts = (world', .ok rest) ∧
      report = rest.addErrored t.name) ∨
    (t.unreadable = false ∧ ∃ code w₁ world₁ rest, t.render c = .ok code ∧
      writeAll c w₁ world₁ ts = (world', .ok rest) ∧
      ((∃ path, w.write world t.file code = (w₁, world₁, .ok path) ∧
          report = rest.addWritten t.name path) ∨
        (∃ failure, w.write world t.file code = (w₁, world₁, .error failure) ∧
          report = rest.addFailed t.name))) := by
  rw [writeAll] at h
  split at h
  · next hu => exact Or.inl ⟨hu, rest_reported h⟩
  · next hu =>
    refine Or.inr ⟨by simpa using hu, ?_⟩
    split at h
    · cases h
    · next code hcode =>
      split at h
      · next w₁ world₁ path hw =>
        obtain ⟨rest, hr, he⟩ := rest_reported h
        exact ⟨code, w₁, world₁, rest, hcode, hr, Or.inl ⟨path, hw, he⟩⟩
      · next w₁ world₁ failure hw =>
        rw [write_failure hw] at h hw
        simp only [Failure.isRecoverable, if_true] at h
        obtain ⟨rest, hr, he⟩ := rest_reported h
        exact ⟨code, w₁, world₁, rest, hcode, hr, Or.inr ⟨_, hw, he⟩⟩

/-- Writing depends on a configuration through the text of declarations alone. -/
theorem write_all_congr [PatternEngine] {c c' : Config}
    (hr : ∀ t : Table, t.render c = t.render c') (w : Writer) (world : World) (ts : List Table) :
    writeAll c w world ts = writeAll c' w world ts := by
  induction ts generalizing w world with
  | nil => rfl
  | cons t ts ih =>
    rw [writeAll, writeAll, hr]
    simp only [ih]

theorem run_stages [PatternEngine] {c : Config} {source : Source} {world : World} {report : Report}
    (h : (generate c source world).result = .ok report) :
    ∃ ts, (c.fetchTables source).result = .ok ts ∧
      writeAll c c.writer world ts = ((generate c source world).world, .ok report) := by
  cases hts : (c.fetchTables source).result with
  | error failure => simp [generate, hts] at h
  | ok ts =>
    simp only [generate, hts] at h ⊢
    exact ⟨ts, rfl, Prod.ext rfl h⟩

end SchemaTypes
