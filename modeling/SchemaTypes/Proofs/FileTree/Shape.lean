import Mathlib.Data.List.Basic
import SchemaTypes.Proofs.FileTree.Contents

/-!
# Shapes of file trees

Whether an operation succeeds depends on where directories and files are and not on what the files
hold. Where a file stands, writing it again always succeeds, and nothing but its content changes.
-/

set_option autoImplicit false

namespace SchemaTypes.FileTree

open SchemaTypes.Path (Component)

inductive SameKind : Option Node → Option Node → Prop
  | nothing : SameKind none none
  | directories : SameKind (some .directory) (some .directory)
  | files (text text' : String) : SameKind (some (.file text)) (some (.file text'))

theorem SameKind.refl (n : Option Node) : SameKind n n := by
  rcases n with _ | (text | _)
  · exact .nothing
  · exact .files text text
  · exact .directories

theorem SameKind.trans {n n' n'' : Option Node} (h : SameKind n n') (h' : SameKind n' n'') :
    SameKind n n'' := by
  cases h with
  | nothing => exact h'
  | directories => exact h'
  | files text text' =>
    cases h' with
    | files _ text'' => exact .files text text''

/-- Two trees differ in the contents of files alone. -/
structure SameShape (t t' : FileTree) : Prop where
  home : t'.home = t.home
  kind : ∀ l, SameKind (t.node? l) (t'.node? l)

theorem SameShape.refl (t : FileTree) : t.SameShape t := ⟨rfl, fun _ => .refl _⟩

theorem SameShape.trans {t t' t'' : FileTree} (h : t.SameShape t') (h' : t'.SameShape t'') :
    t.SameShape t'' :=
  ⟨h'.home.trans h.home, fun l => (h.kind l).trans (h'.kind l)⟩

theorem SameShape.node_eq {t t' : FileTree} (h : t.SameShape t') {l : Location}
    (hc : t'.content? l = t.content? l) : t'.node? l = t.node? l := by
  have hk := h.kind l
  unfold content? at hc
  generalize t.node? l = n, t'.node? l = n' at hk hc
  cases hk with
  | nothing => rfl
  | directories => rfl
  | files text text' => simpa using hc

section SameShape
variable {t t' : FileTree} (h : t.SameShape t')
include h

theorem SameShape.put {l : Location} {n n' : Node} (hn : SameKind (some n) (some n')) :
    (t.put l n).SameShape (t'.put l n') := by
  refine ⟨h.home, fun k => ?_⟩
  by_cases hk : k = l
  · subst hk
    by_cases hl : k = []
    · simp [node?, hl, SameKind.directories]
    · rw [node_put_self _ _ hl, node_put_self _ _ hl]
      exact hn
  · rw [node_put_of_ne _ _ hk, node_put_of_ne _ _ hk]
    exact h.kind k

theorem SameShape.enter (l : Location) (c : Component) : t'.enter l c = t.enter l c := by
  cases c with
  | name text =>
    have hk := h.kind (text :: l)
    simp only [FileTree.enter]
    generalize t.node? (text :: l) = n, t'.node? (text :: l) = n' at hk
    cases hk <;> rfl
  | _ => rfl

theorem SameShape.directory (path : List Component) : t'.directory path = t.directory path := by
  have he : t'.enter = t.enter := funext fun l => funext fun c => h.enter l c
  rw [FileTree.directory, FileTree.directory, he, h.home]

theorem SameShape.target (path : List Component) : t'.target path = t.target path := by
  simp only [FileTree.target, h.directory]

theorem SameShape.is_directory (path : List Component) :
    t'.isDirectory path = t.isDirectory path := by
  simp only [FileTree.isDirectory, h.directory]

end SameShape

inductive SameMade : Except FileError FileTree → Except FileError FileTree → Prop
  | made {t t' : FileTree} (h : t.SameShape t') : SameMade (.ok t) (.ok t')
  | failed (e : FileError) : SameMade (.error e) (.error e)

inductive SameEnd : FileTree × Option FileError → FileTree × Option FileError → Prop
  | ended {t t' : FileTree} (h : t.SameShape t') (e : Option FileError) : SameEnd (t, e) (t', e)

section SameShape
variable {t t' : FileTree} (h : t.SameShape t')
include h

theorem SameShape.make_directory (path : List Component) :
    SameMade (t.makeDirectory path) (t'.makeDirectory path) := by
  unfold makeDirectory
  cases refused? path with
  | some e => exact .failed e
  | none =>
    cases path with
    | nil => exact .failed _
    | cons last above =>
      simp only [h.directory]
      cases t.directory above.reverse with
      | error e => exact .failed e
      | ok l =>
        cases last with
        | name text =>
          have hk := h.kind (text :: l)
          dsimp only
          split
          · exact .failed _
          · generalize t.node? (text :: l) = n, t'.node? (text :: l) = n' at hk
            cases hk with
            | nothing => exact .made (h.put .directories)
            | directories => exact .failed _
            | files => exact .failed _
        | _ => exact .failed _

theorem SameShape.or_existing (path : List Component) {made made' : Except FileError FileTree}
    (hm : SameMade made made') : SameEnd (t.orExisting path made) (t'.orExisting path made') := by
  cases hm with
  | made hs => exact .ended hs none
  | failed e =>
    simp only [orExisting, h.is_directory]
    split
    · exact .ended h none
    · exact .ended h (some e)

theorem SameShape.make_directories (path : List Component) :
    SameEnd (t.makeDirectories path) (t'.makeDirectories path) := by
  induction path with
  | nil => exact .ended h none
  | cons last above ih =>
    have hm := h.make_directory (last :: above)
    rw [makeDirectories, makeDirectories]
    generalize t.makeDirectory (last :: above) = made,
      t'.makeDirectory (last :: above) = made' at hm
    cases hm with
    | made hs => exact h.or_existing _ (.made hs)
    | failed e =>
      cases e with
      | notFound =>
        generalize t.makeDirectories above = r, t'.makeDirectories above = r' at ih
        cases ih with
        | ended hs e =>
          cases e with
          | none => exact hs.or_existing _ (hs.make_directory _)
          | some e => exact .ended hs (some e)
      | _ => exact h.or_existing _ (.failed _)

theorem SameShape.write_file (path : List Component) (truncate truncate' : Bool)
    (addition addition' : String) :
    SameEnd (t.writeFile path truncate addition) (t'.writeFile path truncate' addition') := by
  unfold writeFile
  rw [h.target]
  cases t.target path with
  | error e => exact .ended h (some e)
  | ok l =>
    have hk := h.kind l
    dsimp only
    generalize t.node? l = n, t'.node? l = n' at hk
    cases hk with
    | nothing => exact .ended (h.put (.files _ _)) none
    | directories => exact .ended h _
    | files => exact .ended (h.put (.files _ _)) none

/-- Whatever is written, in trees of one shape it is written in both or fails in both. -/
theorem SameShape.write (path : List Component) (truncate truncate' : Bool)
    (addition addition' : String) :
    SameEnd (t.write path truncate addition) (t'.write path truncate' addition') := by
  have hm := h.make_directories path.reverse.tail
  unfold FileTree.write
  generalize t.makeDirectories path.reverse.tail = r,
    t'.makeDirectories path.reverse.tail = r' at hm
  cases hm with
  | ended hs e =>
    cases e with
    | none => exact hs.write_file path truncate truncate' addition addition'
    | some e => exact .ended hs (some e)

end SameShape

theorem path_bytes_append (above path : List Component) :
    pathBytes (above ++ path) = pathBytes above + pathBytes path := by
  induction above with
  | nil => simp [pathBytes]
  | cons c above ih => simp only [List.cons_append, pathBytes, ih]; omega

theorem path_bytes_reverse (path : List Component) : pathBytes path.reverse = pathBytes path := by
  induction path with
  | nil => rfl
  | cons c path ih => simp only [List.reverse_cons, path_bytes_append, pathBytes, ih]; omega

theorem refused_reverse (path : List Component) : refused? path.reverse = refused? path := by
  simp only [refused?, List.any_reverse, path_bytes_reverse]

theorem refused_front {above path : List Component} (h : refused? (above ++ path) = none) :
    refused? above = none := by
  simp only [refused?, List.any_append, path_bytes_append] at h ⊢
  split at h
  · cases h
  · next hn =>
    split at h
    · cases h
    · next hb =>
      rw [if_neg, if_neg]
      · omega
      · simp only [Bool.or_eq_true, not_or] at hn
        exact hn.1

theorem directory_last {t : FileTree} {above : List Component} {last : Component} {l : Location}
    (h : t.directory (above ++ [last]) = .ok l) :
    ∃ k, t.directory above = .ok k ∧ t.enter k last = .ok l := by
  rw [directory, List.foldlM_append] at h
  change (t.directory above >>= fun k => [last].foldlM t.enter k) = .ok l at h
  cases hk : t.directory above with
  | error e =>
    rw [hk] at h
    cases h
  | ok k =>
    rw [hk] at h
    exact ⟨k, rfl, (bind_pure (t.enter k last)).symm.trans h⟩

theorem make_directories_existing {t : FileTree} {path : List Component} {l : Location}
    (hr : refused? path = none) (h : t.directory path = .ok l) :
    t.makeDirectories path.reverse = (t, none) := by
  rcases List.eq_nil_or_concat' path with rfl | ⟨above, last, rfl⟩
  · rfl
  · have hd : t.isDirectory (above ++ [last]) = true := by
      simp [isDirectory, hr, h]
    obtain ⟨k, hk, hl⟩ := directory_last h
    -- It is refused as existing and not for want of a parent, so nothing above it is tried.
    have hm : t.makeDirectory (last :: above.reverse) = .error .alreadyExists := by
      have hr' : refused? (last :: above.reverse) = none := by
        rw [← hr, ← refused_reverse]
        simp
      rw [makeDirectory, hr']
      simp only [List.reverse_reverse, hk]
      cases last with
      | name text =>
        obtain ⟨hb, hn, -⟩ := enter_name hl
        simp [Nat.not_lt.mpr hb, hn]
      | _ => rfl
    rw [List.reverse_append, List.reverse_singleton, List.singleton_append, makeDirectories, hm]
    simp [orExisting, hd]

theorem node_of_content {t : FileTree} {l : Location} {text : String}
    (h : t.content? l = some text) : t.node? l = some (.file text) := by
  unfold content? at h
  split at h
  · next hn =>
    cases h
    exact hn
  · cases h

/-- A file stands where the path leads. -/
def Settled (t : FileTree) (path : List Component) : Prop :=
  ∃ l text, t.target path = .ok l ∧ t.node? l = some (.file text)

theorem SameShape.settled {t t' : FileTree} (h : t.SameShape t') {path : List Component}
    (hp : t.Settled path) : t'.Settled path := by
  obtain ⟨l, text, hl, hn⟩ := hp
  have hk := h.kind l
  rw [hn] at hk
  generalize hn' : t'.node? l = n' at hk
  cases hk with
  | files _ text' => exact ⟨l, text', (h.target path).trans hl, hn'⟩

theorem put_file_shape {t : FileTree} {l : Location} {text : String}
    (hn : t.node? l = some (.file text)) (text' : String) :
    t.SameShape (t.put l (.file text')) := by
  have hl : l ≠ [] := by
    rintro rfl
    simp [node?] at hn
  refine ⟨rfl, fun k => ?_⟩
  by_cases hk : k = l
  · subst hk
    rw [node_put_self _ _ hl, hn]
    exact .files _ _
  · rw [node_put_of_ne _ _ hk]
    exact .refl _

theorem settled_write {t : FileTree} {path : List Component} (hp : t.Settled path)
    (truncate : Bool) (addition : String) :
    ∃ t', t.write path truncate addition = (t', none) ∧ t.SameShape t' := by
  obtain ⟨l, text, hl, hn⟩ := hp
  obtain ⟨above, name, k, rfl, hr, hk, hb, rfl⟩ := target_cases hl
  have hm : t.makeDirectories (above ++ [Component.name name]).reverse.tail = (t, none) := by
    simpa using make_directories_existing (refused_front hr) hk
  refine ⟨t.put (name :: k) (.file (contentAfter truncate (some text) addition)), ?_, ?_⟩
  · rw [write, hm]
    simp only [writeFile, hl, hn]
  · exact put_file_shape hn _

end SchemaTypes.FileTree
