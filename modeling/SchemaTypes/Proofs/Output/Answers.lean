import SchemaTypes.Proofs.FileTree.Shape
import SchemaTypes.Proofs.Output.Accumulation
import SchemaTypes.Proofs.Run.Writing

/-!
# What a writer answers

Which calls of a writer succeed. The answers decide what has been written; they depend on the shape
of the file tree and not on contents. Files that are there can all be written again, and a dry
run never fails.
-/

set_option autoImplicit false

namespace SchemaTypes

namespace Writer

/-- Which of a number of calls succeed, in order. -/
def answers (w : Writer) (world : World) : List (String × String) → List Bool
  | [] => []
  | (file, code) :: rest =>
    match w.write world file code with
    | (w', world', answer) => answer.isOk :: w'.answers world' rest

def writtenOf (w : Writer) (calls : List (String × String)) (answers : List Bool) : List Entry :=
  ((calls.zip answers).filter (·.2)).map fun a => ⟨w.outputPath a.1.1, a.1.2⟩

theorem answers_length (w : Writer) (world : World) (calls : List (String × String)) :
    (w.answers world calls).length = calls.length := by
  induction calls generalizing w world with
  | nil => rfl
  | cons call rest ih => simp [answers, ih]

theorem answers_all {w : Writer} {world : World} {calls : List (String × String)}
    (h : ∀ answer ∈ w.answers world calls, answer = true) :
    w.answers world calls = calls.map (fun _ => true) := by
  rw [List.map_const', List.eq_replicate_iff]
  exact ⟨w.answers_length world calls, h⟩

theorem written_of_success (w : Writer) (calls : List (String × String)) :
    w.writtenOf calls (calls.map fun _ => true) =
      calls.map fun call => ⟨w.outputPath call.1, call.2⟩ := by
  induction calls with
  | nil => rfl
  | cons call rest ih => simpa [writtenOf] using ih

theorem written_of_dir {w w' : Writer} (h : w'.dir = w.dir) (calls : List (String × String))
    (answers : List Bool) : w'.writtenOf calls answers = w.writtenOf calls answers := by
  simp [writtenOf, output_path_of_dir h]

theorem written_of_answers (w : Writer) (world : World) (calls : List (String × String)) :
    (w.writeCalls world calls).written = w.writtenOf calls (w.answers world calls) := by
  induction calls generalizing w world with
  | nil => rfl
  | cons call rest ih =>
    obtain ⟨file, code⟩ := call
    rcases hw : w.write world file code with ⟨w', world', answer⟩
    have hrest := ih w' world'
    rw [written_of_dir (write_tells hw).1] at hrest
    cases answer with
    | error failure =>
      simp [writeCalls, answers, hw, hrest, writtenOf, Except.isOk, Except.toBool]
    | ok path =>
      simp [writeCalls, answers, hw, hrest, writtenOf, Except.isOk, Except.toBool, write_path hw]

theorem written_alike {w : Writer} {world other : World} {calls : List (String × String)}
    (h : w.answers other calls = w.answers world calls) :
    (w.writeCalls other calls).written = (w.writeCalls world calls).written := by
  rw [written_of_answers, written_of_answers, h]

theorem same_shape_write (w : Writer) {world world' : World}
    (h : world.tree.SameShape world'.tree) (file code : String) :
    ∃ w₁ answer u u', w.write world file code = (w₁, u, answer) ∧
      w.write world' file code = (w₁, u', answer) ∧ u.tree.SameShape u'.tree := by
  cases hd : w.dryRun with
  | true =>
    rw [w.dry_write world file code hd, w.dry_write world' file code hd]
    exact ⟨_, _, _, _, rfl, rfl, h⟩
  | false =>
    have he := h.write (Path.components (w.outputPath file)) (w.truncates (w.outputPath file))
      (w.truncates (w.outputPath file)) code code
    simp only [write, hd, Bool.false_eq_true, if_false]
    generalize world.tree.write _ _ _ = r, world'.tree.write _ _ _ = r' at he
    cases he with
    | ended hs e =>
      cases e with
      | none => exact ⟨_, _, _, _, rfl, rfl, hs⟩
      | some e => exact ⟨_, _, _, _, rfl, rfl, hs⟩

/-- Contents do not decide what succeeds. -/
theorem same_shape_answers (w : Writer) {world world' : World}
    (h : world.tree.SameShape world'.tree) (calls : List (String × String)) :
    w.answers world' calls = w.answers world calls := by
  induction calls generalizing w world world' with
  | nil => rfl
  | cons call rest ih =>
    obtain ⟨w₁, answer, u, u', hw, hw', hs⟩ := w.same_shape_write h call.1 call.2
    simp only [answers, hw, hw', ih w₁ hs]

theorem settled_call {w : Writer} {world : World} {file : String} (hd : w.dryRun = false)
    (hs : world.tree.Settled (Path.components (w.outputPath file))) (code : String) :
    ∃ tree, w.write world file code =
        (w.touch (w.outputPath file), { world with tree := tree }, .ok (w.outputPath file)) ∧
      world.tree.SameShape tree := by
  obtain ⟨tree, ht, hshape⟩ := FileTree.settled_write hs (w.truncates (w.outputPath file)) code
  exact ⟨tree, by simp [write, hd, ht], hshape⟩

theorem settled_answers {w : Writer} {world : World} {calls : List (String × String)}
    (hd : w.dryRun = false)
    (hs : ∀ call ∈ calls, world.tree.Settled (Path.components (w.outputPath call.1))) :
    w.answers world calls = calls.map (fun _ => true) ∧
      world.tree.SameShape (w.writeCalls world calls).world.tree := by
  induction calls generalizing w world with
  | nil => exact ⟨rfl, .refl _⟩
  | cons call rest ih =>
    obtain ⟨hcall, hrest⟩ := List.forall_mem_cons.mp hs
    obtain ⟨tree, hw, hshape⟩ := settled_call hd hcall call.2
    have hrest' : ∀ c ∈ rest, ({ world with tree := tree } : World).tree.Settled
        (Path.components ((w.touch (w.outputPath call.1)).outputPath c.1)) := by
      intro c hc
      rw [output_path_of_dir (touch_dir w _)]
      exact hshape.settled (hrest c hc)
    obtain ⟨ha, hfinal⟩ := ih ((touch_dry_run w _).trans hd) hrest'
    simp only [answers, writeCalls, hw, ha]
    exact ⟨rfl, hshape.trans hfinal⟩

theorem dry_answers {w : Writer} (hd : w.dryRun = true) (world : World)
    (calls : List (String × String)) : w.answers world calls = calls.map (fun _ => true) := by
  induction calls generalizing world with
  | nil => rfl
  | cons call rest ih =>
    simp only [answers, w.dry_write world call.1 call.2 hd, ih]
    rfl

def dryTexts (w : Writer) (calls : List (String × String)) : String :=
  String.join (calls.map fun call => dryText (w.outputPath call.1) call.2)

theorem dry_calls {w : Writer} (hd : w.dryRun = true) (world : World)
    (calls : List (String × String)) :
    (w.writeCalls world calls).world = world.print (w.dryTexts calls) := by
  induction calls generalizing world with
  | nil => simp [writeCalls, dryTexts, World.print]
  | cons call rest ih =>
    simp only [writeCalls, w.dry_write world call.1 call.2 hd, ih]
    simp [World.print, dryTexts, String.append_assoc]

end Writer

end SchemaTypes
