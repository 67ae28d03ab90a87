import SchemaTypes.Output
import SchemaTypes.Proofs.FileTree.Contents

/-!
# The history of a writer

What a writer has written so far decides what it has touched and what every file holds. A history
lists the successful writes, the last one first. Each write keeps the writer and the tree in step
with it, and a failed write adds nothing to it.
-/

set_option autoImplicit false

namespace SchemaTypes

structure Entry where
  path : String
  code : String
  deriving DecidableEq, Repr

namespace Entry

def mentions (history : List Entry) (path : String) : Bool :=
  history.any (fun e => Path.same path e.path)

end Entry

namespace FileTree

def locate (t : FileTree) (path : String) : Location :=
  Path.destination t.home (Path.components path)

/-- What the file at a location holds after a history that starts with a tree. -/
def contentAfterWrites (t : FileTree) (reWrite : Bool) (l : Location) :
    List Entry → Option String
  | [] => t.content? l
  | e :: earlier =>
    if t.locate e.path = l then
      some (contentAfter (reWrite && !Entry.mentions earlier e.path)
        (t.contentAfterWrites reWrite l earlier) e.code)
    else t.contentAfterWrites reWrite l earlier

end FileTree

namespace Writer

theorem write_cases (w : Writer) (world : World) (file code : String) (hd : w.dryRun = false) :
    (∃ tree, world.tree.write (Path.components (w.outputPath file))
        (w.truncates (w.outputPath file)) code = (tree, none) ∧
      w.write world file code =
        (w.touch (w.outputPath file), { world with tree := tree }, .ok (w.outputPath file))) ∨
    (∃ tree e, world.tree.write (Path.components (w.outputPath file))
        (w.truncates (w.outputPath file)) code = (tree, some e) ∧
      w.write world file code =
        (w, { world with tree := tree }, .error (.fileWrite (w.outputPath file)))) := by
  rcases hw : world.tree.write (Path.components (w.outputPath file))
    (w.truncates (w.outputPath file)) code with ⟨tree, _ | e⟩
  · exact Or.inl ⟨tree, rfl, by simp [write, hd, hw]⟩
  · exact Or.inr ⟨tree, e, rfl, by simp [write, hd, hw]⟩

theorem dry_write (w : Writer) (world : World) (file code : String) (hd : w.dryRun = true) :
    w.write world file code =
      (w, world.print (dryText (w.outputPath file) code), .ok (w.outputPath file)) := by
  simp [write, hd]

theorem write_error_frame {w : Writer} {world : World} {file code : String} {failure : Failure}
    (h : (w.write world file code).2.2 = .error failure) :
    (w.write world file code).1 = w ∧
      ∀ l, (w.write world file code).2.1.tree.content? l = world.tree.content? l := by
  cases hd : w.dryRun with
  | true =>
    rw [w.dry_write world file code hd] at h
    cases h
  | false =>
    rcases w.write_cases world file code hd with ⟨_, -, he⟩ | ⟨tree, e, ht, he⟩
    · rw [he] at h
      cases h
    · rw [he]
      exact ⟨rfl, (FileTree.write_failed ht).content⟩

theorem touched_after (w : Writer) (path p : String) :
    (w.touch path).hasTouched p = (Path.same p path || w.hasTouched p) := by
  unfold touch
  split
  · next ht =>
    by_cases hs : Path.components p = Path.components path
    · have hp : w.hasTouched p = true := by
        simpa [hasTouched, Path.same, hs] using ht
      simp [hp]
    · simp [Path.same, hs]
  · simp [hasTouched]

theorem touch_dir (w : Writer) (path : String) : (w.touch path).dir = w.dir := by
  unfold touch
  split <;> rfl

theorem touch_rewrite (w : Writer) (path : String) : (w.touch path).reWrite = w.reWrite := by
  unfold touch
  split <;> rfl

theorem touch_dry_run (w : Writer) (path : String) : (w.touch path).dryRun = w.dryRun := by
  unfold touch
  split <;> rfl

theorem output_path_of_dir {w w' : Writer} (h : w'.dir = w.dir) (file : String) :
    w'.outputPath file = w.outputPath file := by
  simp [outputPath, h]

/-- A writer and a tree are where a history has led from a tree. -/
structure Follows (start : FileTree) (history : List Entry) (w : Writer) (tree : FileTree) :
    Prop where
  home : tree.home = start.home
  real : w.dryRun = false
  touched : ∀ p, w.hasTouched p = Entry.mentions history p
  resolved : ∀ e ∈ history, tree.target (Path.components e.path) = .ok (start.locate e.path)
  content : ∀ l, tree.content? l = start.contentAfterWrites w.reWrite l history

theorem follows_start (w : Writer) (tree : FileTree) (hd : w.dryRun = false)
    (ht : w.touched = []) : Follows tree [] w tree where
  home := rfl
  real := hd
  touched p := by simp [hasTouched, ht, Entry.mentions]
  resolved e he := by cases he
  content _ := rfl

theorem follows_write {start : FileTree} {history : List Entry} {w w' : Writer}
    {world world' : World} {file code path : String}
    (hf : Follows start history w world.tree)
    (hw : w.write world file code = (w', world', .ok path)) :
    path = w.outputPath file ∧ w'.dir = w.dir ∧ w'.reWrite = w.reWrite ∧
      Follows start (⟨path, code⟩ :: history) w' world'.tree := by
  rcases write_cases w world file code hf.real with ⟨tree, ht, he⟩ | ⟨tree, e, -, he⟩
  · rw [he] at hw
    cases hw
    have hd := FileTree.write_done ht
    have hl : Path.destination world.tree.home (Path.components (w.outputPath file)) =
        start.locate (w.outputPath file) := by
      rw [hf.home]
      rfl
    refine ⟨rfl, touch_dir _ _, touch_rewrite _ _, ?_⟩
    constructor
    · exact hd.keeps.home.trans hf.home
    · exact (touch_dry_run _ _).trans hf.real
    · intro p
      rw [touched_after, hf.touched]
      rfl
    · intro e he
      rcases List.mem_cons.mp he with rfl | he
      · exact hl ▸ hd.target
      · exact FileTree.target_kept hd.keeps (hf.resolved e he)
    · intro l
      rw [hd.content l, hl, touch_rewrite, FileTree.contentAfterWrites, hf.content,
        truncates, hf.touched]
  · rw [he] at hw
    cases hw

theorem follows_failure {start : FileTree} {history : List Entry} {w w' : Writer}
    {world world' : World} {file code : String} {failure : Failure}
    (hf : Follows start history w world.tree)
    (hw : w.write world file code = (w', world', .error failure)) :
    failure = .fileWrite (w.outputPath file) ∧ w' = w ∧ Follows start history w world'.tree := by
  rcases write_cases w world file code hf.real with ⟨tree, -, he⟩ | ⟨tree, e, ht, he⟩
  · rw [he] at hw
    cases hw
  · rw [he] at hw
    cases hw
    have hg := FileTree.write_failed ht
    refine ⟨rfl, rfl, hg.home.trans hf.home, hf.real, hf.touched, ?_, ?_⟩
    · exact fun e he => FileTree.target_kept hg.keeps (hf.resolved e he)
    · exact fun l => (hg.content l).trans (hf.content l)

end Writer

end SchemaTypes
