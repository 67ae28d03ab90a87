import SchemaTypes.Proofs.Run.Calls
import SchemaTypes.Proofs.Run.Survival

/-!
# Repeated runs

A run that rewrites drops what its files held before: it empties each of them before it first adds
to it, under whatever spelling. So what it leaves does not depend on earlier contents, and a run
that has written all its files does the same when it is repeated.
-/

set_option autoImplicit false

namespace SchemaTypes

namespace FileTree

theorem locate_of_home {t t' : FileTree} (h : t'.home = t.home) (path : String) :
    t'.locate path = t.locate path := by
  rw [locate, h, locate]

theorem unwritten_content {t : FileTree} {reWrite : Bool} {l : Location} {history : List Entry}
    (h : ∀ e ∈ history, t.locate e.path ≠ l) :
    t.contentAfterWrites reWrite l history = t.content? l := by
  induction history with
  | nil => rfl
  | cons e earlier ih =>
    obtain ⟨he, hearlier⟩ := List.forall_mem_cons.mp h
    rw [contentAfterWrites, if_neg he, ih hearlier]

theorem written_content (t : FileTree) (reWrite : Bool) {history : List Entry} {e : Entry}
    (he : e ∈ history) :
    ∃ text, t.contentAfterWrites reWrite (t.locate e.path) history = some text := by
  induction history with
  | nil => cases he
  | cons last earlier ih =>
    rw [contentAfterWrites]
    split
    · exact ⟨_, rfl⟩
    · next hl =>
      rcases List.mem_cons.mp he with rfl | he
      · exact absurd rfl hl
      · exact ih he

/-- A file that has been rewritten holds the same whatever it held before. The first write that
went to it did so under a spelling that was new, since every spelling written before leads
elsewhere. -/
theorem content_forgotten {t t' : FileTree} (hh : t'.home = t.home) {l : Location}
    {history : List Entry} (h : ∃ e ∈ history, t.locate e.path = l) :
    t'.contentAfterWrites true l history = t.contentAfterWrites true l history := by
  induction history with
  | nil =>
    obtain ⟨e, he, -⟩ := h
    cases he
  | cons last earlier ih =>
    rw [contentAfterWrites, contentAfterWrites, locate_of_home hh]
    by_cases hearlier : ∃ e ∈ earlier, t.locate e.path = l
    · rw [ih hearlier]
    · obtain ⟨e, he, hl⟩ := h
      rcases List.mem_cons.mp he with rfl | he
      · have hnew : Entry.mentions earlier e.path = false := by
          refine List.any_eq_false.mpr fun f hf hs => hearlier ⟨f, hf, ?_⟩
          rw [← t.same_located hs, hl]
        simp [hl, hnew, contentAfter]
      · exact absurd ⟨e, he, hl⟩ hearlier

end FileTree

namespace Writer
variable {w : Writer} {world : World} {calls : List (String × String)}

theorem calls_follow (hd : w.dryRun = false) (ht : w.touched = []) (world : World)
    (calls : List (String × String)) :
    let run := w.writeCalls world calls
    Follows world.tree run.written.reverse run.writer run.world.tree ∧
      run.writer.reWrite = w.reWrite ∧ ∀ e ∈ run.written, Path.endsAsDirectory e.path = false := by
  obtain ⟨hf, hre, hm⟩ := follows_calls calls (follows_start w world.tree hd ht)
  rw [List.append_nil] at hf
  refine ⟨hf, hre, fun e he => ?_⟩
  obtain ⟨call, -, hp, -⟩ := hm e he
  rw [hp]
  exact output_names_file w call.1

theorem written_settled (hd : w.dryRun = false) (ht : w.touched = []) {e : Entry}
    (he : e ∈ (w.writeCalls world calls).written) :
    let tree := (w.writeCalls world calls).world.tree
    tree.Settled (Path.components e.path) ∧
      ∃ text, tree.read? e.path = some text ∧
        tree.content? (world.tree.locate e.path) = some text := by
  obtain ⟨hf, hre, hfile⟩ := calls_follow hd ht world calls
  have hm : e ∈ (w.writeCalls world calls).written.reverse := List.mem_reverse.mpr he
  obtain ⟨text, htext⟩ :=
    FileTree.written_content world.tree (w.writeCalls world calls).writer.reWrite hm
  have hc := (hf.content (world.tree.locate e.path)).trans htext
  have hr := FileTree.read_target (hfile e he) (hf.resolved e hm)
  exact ⟨⟨_, text, hf.resolved e hm, FileTree.node_of_content hc⟩, text, hr.trans hc, hc⟩

theorem rewritten_content (hre : w.reWrite = true) (hd : w.dryRun = false) (ht : w.touched = [])
    {other : World} (hh : other.tree.home = world.tree.home)
    (ha : w.answers other calls = w.answers world calls) {l : Location}
    (hl : ∃ e ∈ (w.writeCalls world calls).written, world.tree.locate e.path = l) :
    (w.writeCalls other calls).world.tree.content? l =
      (w.writeCalls world calls).world.tree.content? l := by
  obtain ⟨hf, hfre, -⟩ := calls_follow hd ht world calls
  obtain ⟨hf', hfre', -⟩ := calls_follow hd ht other calls
  obtain ⟨e, he, hel⟩ := hl
  rw [hf'.content, hf.content, hfre', hfre, hre, written_alike ha]
  exact FileTree.content_forgotten hh ⟨e, List.mem_reverse.mpr he, hel⟩

theorem rewritten_read (hre : w.reWrite = true) (hd : w.dryRun = false) (ht : w.touched = [])
    {other : World} (hh : other.tree.home = world.tree.home)
    (ha : w.answers other calls = w.answers world calls) {e : Entry}
    (he : e ∈ (w.writeCalls world calls).written) :
    ∃ text, (w.writeCalls world calls).world.tree.read? e.path = some text ∧
      (w.writeCalls other calls).world.tree.read? e.path = some text := by
  have he' : e ∈ (w.writeCalls other calls).written := written_alike ha ▸ he
  obtain ⟨-, text, hread, hcontent⟩ := written_settled hd ht he
  obtain ⟨-, text', hread', hcontent'⟩ := written_settled hd ht he'
  have hsame := rewritten_content hre hd ht hh ha ⟨e, he, rfl⟩
  rw [← FileTree.locate_of_home hh, hcontent', FileTree.locate_of_home hh, hcontent] at hsame
  cases hsame
  exact ⟨text, hread, hread'⟩

/-- Calls that have all succeeded succeed again and change nothing. -/
theorem rewritten_again (hre : w.reWrite = true) (hd : w.dryRun = false) (ht : w.touched = [])
    (ha : ∀ answer ∈ w.answers world calls, answer = true) :
    let first := w.writeCalls world calls
    let second := w.writeCalls first.world calls
    w.answers first.world calls = w.answers world calls ∧
      first.world.tree.SameShape second.world.tree ∧
      ∀ l, second.world.tree.node? l = first.world.tree.node? l := by
  intro first second
  have hall := answers_all ha
  have hs : ∀ call ∈ calls, first.world.tree.Settled (Path.components (w.outputPath call.1)) := by
    intro call hc
    have he : (⟨w.outputPath call.1, call.2⟩ : Entry) ∈ first.written := by
      rw [written_of_answers, hall, written_of_success]
      exact List.mem_map_of_mem hc
    exact (written_settled hd ht he).1
  obtain ⟨hagain, hshape⟩ := settled_answers hd hs
  have hsame : w.answers first.world calls = w.answers world calls := hagain.trans hall.symm
  refine ⟨hsame, hshape, fun l => hshape.node_eq ?_⟩
  obtain ⟨hf, -, -⟩ := calls_follow hd ht world calls
  by_cases hl : ∃ e ∈ first.written, world.tree.locate e.path = l
  · exact rewritten_content hre hd ht hf.home hsame hl
  · obtain ⟨hf', -, -⟩ := calls_follow hd ht first.world calls
    rw [hf'.content]
    refine FileTree.unwritten_content fun e he hel => hl ⟨e, ?_, ?_⟩
    · rw [← written_alike hsame]
      exact List.mem_reverse.mp he
    · rw [← hel, FileTree.locate_of_home hf.home]

end Writer

/-- What a run that rewrites leaves does not depend on what was in its files. If it has written
all that it should, a second run gives the same report after the same questions and leaves every
file and directory as it is. And from two trees that differ in the contents of files alone it
gives the same report, and the same content in every file that it has written. -/
theorem rewriting_run_repeats [PatternEngine] {c : Config} {source : Source} {world : World}
    {report : Report} (hre : c.reWrite = true) (hd : c.dryRun = false)
    (h : (generate c source world).result = .ok report) :
    (report.failed = [] →
      let first := generate c source world
      let second := generate c source first.world
      second.result = .ok report ∧ second.calls = first.calls ∧
        second.world.tree.home = first.world.tree.home ∧
        ∀ l, second.world.tree.node? l = first.world.tree.node? l) ∧
    ∀ other : World, world.tree.SameShape other.tree →
      (generate c source other).result = .ok report ∧
      ∀ line ∈ report.written, ∃ text,
        (generate c source world).world.tree.read? line.2 = some text ∧
        (generate c source other).world.tree.read? line.2 = some text := by
  obtain ⟨ts, declared, hts, hdeclared, rfl⟩ := run_declared h
  have hrun := run_of_declared hts hdeclared
  refine ⟨fun hf => ?_, fun other hs => ?_⟩
  · have hall := answers_of_unfailed (by simp [Writer.answers_length, callsFor]) hf
    obtain ⟨ha, hshape, hnodes⟩ := Writer.rewritten_again hre hd rfl hall
    simp only [hrun, ha, true_and]
    exact ⟨hshape.home, hnodes⟩
  · have ha := c.writer.same_shape_answers hs (callsFor declared)
    simp only [hrun, ha, true_and]
    intro line hl
    have hpath := List.mem_map_of_mem (f := Prod.snd) hl
    rw [reported_paths, ← Writer.written_of_answers] at hpath
    obtain ⟨e, he, hep⟩ := List.mem_map.mp hpath
    rw [← hep]
    exact Writer.rewritten_read hre hd rfl hs.home ha he

def olderTree : FileTree := sharedTree.put ["models.ts", "out", "work"] (.file "older")

theorem older_shape : sharedTree.SameShape olderTree := by
  have hstale : sharedTree.node? ["models.ts", "out", "work"] = some (.file "stale") := by
    decide +kernel
  exact FileTree.put_file_shape hstale "older"

def respelledReport : Report where
  written := [("users", "out/models.ts"), ("orders", "out/x/../models.ts")]

theorem respelled_run_repeats :
    (generate respelled alikeTables ⟨sharedTree, ""⟩).result = .ok respelledReport ∧
    (generate respelled alikeTables
      (generate respelled alikeTables ⟨sharedTree, ""⟩).world).result = .ok respelledReport ∧
    (∀ l, (generate respelled alikeTables
        (generate respelled alikeTables ⟨sharedTree, ""⟩).world).world.tree.node? l =
      (generate respelled alikeTables ⟨sharedTree, ""⟩).world.tree.node? l) ∧
    ∀ line ∈ respelledReport.written, ∃ text,
      (generate respelled alikeTables ⟨sharedTree, ""⟩).world.tree.read? line.2 = some text ∧
      (generate respelled alikeTables ⟨olderTree, ""⟩).world.tree.read? line.2 = some text := by
  have hfirst : (generate respelled alikeTables ⟨sharedTree, ""⟩).result =
      .ok respelledReport := by decide +kernel
  obtain ⟨hsecond, hother⟩ := rewriting_run_repeats rfl rfl hfirst
  obtain ⟨hresult, -, -, hnodes⟩ := hsecond rfl
  exact ⟨hfirst, hresult, hnodes, (hother ⟨olderTree, ""⟩ older_shape).2⟩

end SchemaTypes
