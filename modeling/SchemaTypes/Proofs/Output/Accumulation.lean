import SchemaTypes.Proofs.Output.Paths

/-!
# Declarations that share files

Any number of calls of one writer, to any files and with failures in between. Where no file is
reached under two spellings, every file ends with what was written to it, in order and parted by
line ends, after its old content or in its place.
-/

set_option autoImplicit false

namespace SchemaTypes

/-- Where a number of calls has led, and the successful ones among them, in order. -/
structure Writing where
  writer : Writer
  world : World
  written : List Entry

namespace Writer

def writeCalls (w : Writer) (world : World) : List (String × String) → Writing
  | [] => ⟨w, world, []⟩
  | (file, code) :: rest =>
    match w.write world file code with
    | (w', world', .ok path) =>
      let later := writeCalls w' world' rest
      { later with written := ⟨path, code⟩ :: later.written }
    | (w', world', .error _) => writeCalls w' world' rest

theorem follows_calls {start : FileTree} (calls : List (String × String)) {history : List Entry}
    {w : Writer} {world : World} (hf : Follows start history w world.tree) :
    Follows start ((w.writeCalls world calls).written.reverse ++ history)
        (w.writeCalls world calls).writer (w.writeCalls world calls).world.tree ∧
      (w.writeCalls world calls).writer.reWrite = w.reWrite ∧
      ∀ e ∈ (w.writeCalls world calls).written,
        ∃ call ∈ calls, e.path = w.outputPath call.1 ∧ e.code = call.2 := by
  induction calls generalizing history w world with
  | nil => exact ⟨hf, rfl, by simp [writeCalls]⟩
  | cons call rest ih =>
    obtain ⟨file, code⟩ := call
    rcases hw : w.write world file code with ⟨w', world', failure | path⟩
    · obtain ⟨-, rfl, hf'⟩ := follows_failure hf hw
      obtain ⟨hr, hre, hm⟩ := ih hf'
      simp only [writeCalls, hw]
      refine ⟨hr, hre, fun e he => ?_⟩
      obtain ⟨call, hc, h⟩ := hm e he
      exact ⟨call, by simp [hc], h⟩
    · obtain ⟨rfl, hd, hre', hf'⟩ := follows_write hf hw
      obtain ⟨hr, hre, hm⟩ := ih hf'
      simp only [writeCalls, hw]
      refine ⟨by simpa using hr, hre.trans hre', fun e he => ?_⟩
      rcases List.mem_cons.mp he with rfl | he
      · exact ⟨(file, code), by simp, rfl, rfl⟩
      · obtain ⟨call, hc, hp, hcode⟩ := hm e he
        exact ⟨call, by simp [hc], by rw [hp, output_path_of_dir hd], hcode⟩

end Writer

namespace FileTree

def codesAt (t : FileTree) (l : Location) (history : List Entry) : List String :=
  (history.filter (fun e => t.locate e.path = l)).map Entry.code

def stacked (base : String) (codes : List String) : String :=
  codes.foldr (fun code old => joined old code) base

theorem Apart.subset {t : FileTree} {ps qs : List String} (h : t.Apart qs)
    (hs : ∀ p ∈ ps, p ∈ qs) : t.Apart ps :=
  fun p hp q hq => h p (hs p hp) q (hs q hq)

theorem codes_at_nil_iff (t : FileTree) (l : Location) (history : List Entry) :
    t.codesAt l history = [] ↔ ∀ e ∈ history, t.locate e.path ≠ l := by
  simp [codesAt, List.filter_eq_nil_iff]

/-- Among spellings that are apart, a path is new exactly if its place has not been written. -/
theorem unmentioned_iff_unwritten {t : FileTree} {e : Entry} {earlier : List Entry}
    (ha : t.Apart ((e :: earlier).map Entry.path)) :
    Entry.mentions earlier e.path = false ↔ t.codesAt (t.locate e.path) earlier = [] := by
  rw [codes_at_nil_iff, Entry.mentions, List.any_eq_false]
  constructor
  · intro h f hf hl
    exact h f hf (ha e.path (by simp) f.path (by simpa using Or.inr ⟨f, hf, rfl⟩) hl.symm)
  · intro h f hf hs
    exact h f hf (t.same_located hs).symm

theorem content_accumulates (t : FileTree) (reWrite : Bool) (l : Location) (history : List Entry)
    (ha : t.Apart (history.map Entry.path)) :
    t.contentAfterWrites reWrite l history =
      if t.codesAt l history = [] then t.content? l
      else
        some (stacked (if reWrite then "" else (t.content? l).getD "") (t.codesAt l history)) := by
  induction history with
  | nil => rfl
  | cons e earlier ih =>
    have ih := ih (ha.subset fun p hp => by simp [hp])
    rw [contentAfterWrites]
    by_cases hl : t.locate e.path = l
    · have hc : t.codesAt l (e :: earlier) = e.code :: t.codesAt l earlier := by
        simp [codesAt, hl]
      have hm := unmentioned_iff_unwritten ha
      rw [hl] at hm
      rw [if_pos hl, hc, if_neg (by simp), ih]
      by_cases hn : t.codesAt l earlier = []
      · rw [if_pos hn, hn, hm.mpr hn]
        cases reWrite <;> rfl
      · have hm' : Entry.mentions earlier e.path = true :=
          Bool.of_not_eq_false fun h => hn (hm.mp h)
        rw [if_neg hn, hm']
        simp [contentAfter, stacked]
    · have hc : t.codesAt l (e :: earlier) = t.codesAt l earlier := by
        simp [codesAt, hl]
      rw [if_neg hl, hc, ih]

theorem stacked_in_order (t : FileTree) (l : Location) (base : String) (written : List Entry) :
    stacked base (t.codesAt l written.reverse) = (t.codesAt l written).foldl joined base := by
  simp [stacked, codesAt, List.filter_reverse, List.map_reverse]

end FileTree

/-- The declarations among successful writes that went to a path, in order. -/
def codesTo (path : String) (written : List Entry) : List String :=
  (written.filter (fun e => Path.same path e.path)).map Entry.code

theorem codes_to_place {t : FileTree} {written : List Entry}
    (ha : t.Apart (written.map Entry.path)) {e : Entry} (he : e ∈ written) :
    t.codesAt (t.locate e.path) written = codesTo e.path written := by
  have hs : ∀ f ∈ written, decide (t.locate f.path = t.locate e.path) =
      Path.same e.path f.path := by
    intro f hf
    cases hsame : Path.same e.path f.path with
    | true => simpa using (t.same_located hsame).symm
    | false =>
      simp only [decide_eq_false_iff_not]
      intro hl
      rw [ha e.path (List.mem_map_of_mem he) f.path (List.mem_map_of_mem hf) hl.symm] at hsame
      cases hsame
  rw [FileTree.codesAt, codesTo, List.filter_congr hs]

theorem calls_content {w : Writer} {world : World} {calls : List (String × String)}
    (hd : w.dryRun = false) (ht : w.touched = [])
    (ha : world.tree.Apart (calls.map fun call => w.outputPath call.1)) :
    world.tree.Apart ((w.writeCalls world calls).written.map Entry.path) ∧
    ∀ l, (w.writeCalls world calls).world.tree.content? l =
      if world.tree.codesAt l (w.writeCalls world calls).written = [] then world.tree.content? l
      else some ((world.tree.codesAt l (w.writeCalls world calls).written).foldl FileTree.joined
        (if w.reWrite then "" else (world.tree.content? l).getD "")) := by
  obtain ⟨hf, hre, hm⟩ := Writer.follows_calls calls (Writer.follows_start w world.tree hd ht)
  rw [List.append_nil] at hf
  have hw : world.tree.Apart ((w.writeCalls world calls).written.map Entry.path) := by
    refine ha.subset fun p hp => ?_
    obtain ⟨e, he, rfl⟩ := List.mem_map.mp hp
    obtain ⟨call, hc, hpath, -⟩ := hm e he
    exact List.mem_map.mpr ⟨call, hc, hpath.symm⟩
  refine ⟨hw, fun l => ?_⟩
  have hback : world.tree.codesAt l (w.writeCalls world calls).written.reverse = [] ↔
      world.tree.codesAt l (w.writeCalls world calls).written = [] := by
    simp [FileTree.codes_at_nil_iff]
  rw [hf.content l, hre,
    FileTree.content_accumulates _ _ _ _ (hw.subset fun p hp => by simpa using hp),
    FileTree.stacked_in_order]
  simp only [hback]

/-- Calls of one writer to any files, over any tree, where two output paths lead to one place only
if their components are equal. A file that has been written holds its declarations in order, after
its old content unless the writer rewrites; other files keep their content; a failed call changes
no file and leaves the writer as it was; and the paths touched are those written. -/
theorem calls_accumulate (dir : String) (reWrite : Bool) (world : World)
    (calls : List (String × String))
    (ha : world.tree.Apart (calls.map fun call =>
      ({ dir := dir, reWrite := reWrite } : Writer).outputPath call.1)) :
    let run := ({ dir := dir, reWrite := reWrite } : Writer).writeCalls world calls
    (∀ e ∈ run.written, run.world.tree.read? e.path =
      some ((codesTo e.path run.written).foldl FileTree.joined
        (if reWrite then "" else (world.tree.content? (world.tree.locate e.path)).getD ""))) ∧
    (∀ l, (∀ e ∈ run.written, world.tree.locate e.path ≠ l) →
      run.world.tree.content? l = world.tree.content? l) ∧
    (∀ (w : Writer) (before : World) (file code : String) (failure : Failure),
      (w.write before file code).2.2 = .error failure →
        (w.write before file code).1 = w ∧
        ∀ l, (w.write before file code).2.1.tree.content? l = before.tree.content? l) ∧
    (∀ path, run.writer.hasTouched path = true ↔
      ∃ e ∈ run.written, Path.same path e.path = true) := by
  intro run
  obtain ⟨hw, hcontent⟩ := calls_content rfl rfl ha
  obtain ⟨hf, -, hm⟩ := Writer.follows_calls calls
    (Writer.follows_start { dir := dir, reWrite := reWrite } world.tree rfl rfl)
  change Writer.Follows world.tree (run.written.reverse ++ []) run.writer run.world.tree at hf
  rw [List.append_nil] at hf
  refine ⟨fun e he => ?_, fun l hl => ?_, fun w before file code failure hfail => ?_,
    fun path => ?_⟩
  · have hfile : Path.endsAsDirectory e.path = false := by
      obtain ⟨call, -, hpath, -⟩ := hm e he
      rw [hpath]
      exact Writer.output_names_file _ _
    have hn : world.tree.codesAt (world.tree.locate e.path) run.written ≠ [] :=
      fun h => (FileTree.codes_at_nil_iff _ _ _).mp h e he rfl
    rw [FileTree.read_target hfile (hf.resolved e (by simpa using he)), hcontent, if_neg hn,
      codes_to_place hw he]
  · rw [hcontent, if_pos ((FileTree.codes_at_nil_iff _ _ _).mpr hl)]
  · exact Writer.write_error_frame hfail
  · rw [hf.touched, Entry.mentions, List.any_reverse, List.any_eq_true]

def sharedTree : FileTree where
  home := ["work"]
  nodes := [(["work"], .directory), (["out", "work"], .directory),
    (["models.ts", "out", "work"], .file "stale"), (["blocked", "out", "work"], .file "kept")]

def sharedCalls : List (String × String) :=
  [("models", "A"), ("blocked/view", "B"), ("models.ts", "C")]

theorem shared_file_accumulates :
    sharedTree.Apart ["out/models.ts", "out/blocked/view.ts", "out/models.ts"] ∧
    (({ dir := "out", reWrite := true } : Writer).writeCalls ⟨sharedTree, ""⟩
      sharedCalls).world.tree.read? "out/models.ts" = some "A\nC" ∧
    (({ dir := "out", reWrite := true } : Writer).writeCalls ⟨sharedTree, ""⟩
      sharedCalls).world.tree.content? ["blocked", "out", "work"] = some "kept" := by
  have ha : sharedTree.Apart ["out/models.ts", "out/blocked/view.ts", "out/models.ts"] :=
    FileTree.alike_apart _ _ [] (by decide +kernel) (by decide +kernel)
  obtain ⟨hwritten, hother, -, -⟩ := calls_accumulate "out" true ⟨sharedTree, ""⟩ sharedCalls ha
  refine ⟨ha, ?_, ?_⟩
  · have hread := hwritten ⟨"out/models.ts", "A"⟩ (by decide +kernel)
    exact hread.trans (by decide +kernel)
  · exact hother ["blocked", "out", "work"] (by decide +kernel)

end SchemaTypes
