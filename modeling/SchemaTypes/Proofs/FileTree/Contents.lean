import SchemaTypes.Proofs.FileTree.Resolution

/-!
# What a write changes

Making directories adds directories where nothing was. So a write that fails leaves the content
of every file, and a write that succeeds changes the file of its path alone.
-/

set_option autoImplicit false

namespace SchemaTypes.FileTree

open SchemaTypes.Path (Component)

def content? (t : FileTree) (l : Location) : Option String :=
  match t.node? l with
  | some (.file text) => some text
  | _ => none

theorem content_directory {t : FileTree} {l : Location} (h : t.node? l = some .directory) :
    t.content? l = none := by
  simp [content?, h]

theorem content_nothing {t : FileTree} {l : Location} (h : t.node? l = none) :
    t.content? l = none := by
  simp [content?, h]

/-- The other tree has further directories and nothing else. -/
structure Grows (t t' : FileTree) : Prop where
  home : t'.home = t.home
  node : ∀ l, t'.node? l = t.node? l ∨ (t.node? l = none ∧ t'.node? l = some .directory)

theorem Grows.refl (t : FileTree) : t.Grows t := ⟨rfl, fun _ => Or.inl rfl⟩

theorem Grows.trans {t t' t'' : FileTree} (h : t.Grows t') (h' : t'.Grows t'') :
    t.Grows t'' := by
  refine ⟨h'.home.trans h.home, fun l => ?_⟩
  rcases h'.node l with he | ⟨hn, hd⟩
  · rw [he]
    exact h.node l
  · rcases h.node l with he | ⟨hn', -⟩
    · exact Or.inr ⟨he ▸ hn, hd⟩
    · exact Or.inr ⟨hn', hd⟩

theorem Grows.keeps {t t' : FileTree} (h : t.Grows t') : t.Keeps t' := by
  refine ⟨h.home, fun l hl => ?_⟩
  rcases h.node l with he | ⟨hn, -⟩
  · rw [he, hl]
  · rw [hn] at hl
    cases hl

theorem Grows.content {t t' : FileTree} (h : t.Grows t') (l : Location) :
    t'.content? l = t.content? l := by
  rcases h.node l with he | ⟨hn, hd⟩
  · simp [content?, he]
  · rw [content_directory hd, content_nothing hn]

theorem grows_put {t : FileTree} {l : Location} (h : t.node? l = none) :
    t.Grows (t.put l .directory) := by
  have hl : l ≠ [] := by
    rintro rfl
    simp [node?] at h
  refine ⟨rfl, fun k => ?_⟩
  by_cases hk : k = l
  · subst hk
    exact Or.inr ⟨h, node_put_self t .directory hl⟩
  · exact Or.inl (node_put_of_ne t .directory hk)

theorem make_directory_grows {t t' : FileTree} {path : List Component}
    (h : t.makeDirectory path = .ok t') : t.Grows t' := by
  unfold makeDirectory at h
  split at h
  · cases h
  · split at h
    · cases h
    · split at h
      · cases h
      · split at h
        · split at h
          · cases h
          · split at h
            · next hn =>
              cases h
              exact grows_put hn
            · cases h
        · cases h

theorem or_existing_grows {t : FileTree} {path : List Component} {made : Except FileError FileTree}
    (h : ∀ t', made = .ok t' → t.Grows t') : t.Grows (t.orExisting path made).1 := by
  cases made with
  | ok t' => exact h t' rfl
  | error e =>
    simp only [orExisting]
    split
    · exact Grows.refl t
    · exact Grows.refl t

theorem make_directories_grow (t : FileTree) (path : List Component) :
    t.Grows (t.makeDirectories path).1 := by
  induction path with
  | nil => exact Grows.refl t
  | cons last above ih =>
    rw [makeDirectories]
    split
    · split
      · next t' hm =>
        rw [hm] at ih
        exact ih.trans (or_existing_grows fun _ => make_directory_grows)
      · exact ih
    · exact or_existing_grows fun _ => make_directory_grows

theorem write_file_done {t t' : FileTree} {path : List Component} {truncate : Bool}
    {addition : String} (h : t.writeFile path truncate addition = (t', none)) :
    ∃ l, t.target path = .ok l ∧ t.node? l ≠ some .directory ∧
      t' = t.put l (.file (contentAfter truncate (t.content? l) addition)) := by
  unfold writeFile at h
  cases hl : t.target path with
  | error e => simp [hl] at h
  | ok l =>
    refine ⟨l, rfl, ?_⟩
    cases hn : t.node? l with
    | none =>
      simp only [hl, hn, Prod.mk.injEq, and_true] at h
      exact ⟨by simp, by rw [← h, content_nothing hn]⟩
    | some n =>
      cases n with
      | directory => simp [hl, hn] at h
      | file old =>
        simp only [hl, hn, Prod.mk.injEq, and_true] at h
        exact ⟨by simp, by rw [← h, content?, hn]⟩

theorem write_file_failed {t t' : FileTree} {path : List Component} {truncate : Bool}
    {addition : String} {e : FileError}
    (h : t.writeFile path truncate addition = (t', some e)) : t' = t := by
  unfold writeFile at h
  split at h
  · cases h
    rfl
  · split at h
    · cases h
      rfl
    · cases h
    · cases h

/-- What is known after a successful write to a path. -/
structure Written (t t' : FileTree) (path : List Component) (truncate : Bool)
    (addition : String) : Prop where
  keeps : t.Keeps t'
  target : t'.target path = .ok (Path.destination t.home path)
  content : ∀ l, t'.content? l = if Path.destination t.home path = l
    then some (contentAfter truncate (t.content? l) addition) else t.content? l

theorem write_done {t t' : FileTree} {path : List Component} {truncate : Bool}
    {addition : String} (h : t.write path truncate addition = (t', none)) :
    Written t t' path truncate addition := by
  have hg := make_directories_grow t path.reverse.tail
  unfold write at h
  split at h
  · next made hm =>
    rw [hm] at hg
    obtain ⟨l, hl, hn, rfl⟩ := write_file_done h
    have hd := target_destination hl
    rw [hg.home] at hd
    obtain ⟨-, text, k, -, -, -, -, hlk⟩ := target_cases hl
    have hl0 : l ≠ [] := by simp [hlk]
    have hp : made.Keeps
        (made.put l (.file (contentAfter truncate (made.content? l) addition))) := by
      refine ⟨rfl, fun k hk => ?_⟩
      have hkl : k ≠ l := by
        rintro rfl
        exact hn hk
      rw [node_put_of_ne _ _ hkl, hk]
    refine ⟨hg.keeps.trans hp, hd ▸ target_kept hp hl, fun k => ?_⟩
    subst hd
    split
    · next he =>
      subst he
      rw [content?, node_put_self _ _ hl0, hg.content]
    · next he =>
      rw [content?, node_put_of_ne _ _ (Ne.symm he), ← hg.content k, content?]
  · next hm =>
    rw [h] at hm
    exact absurd rfl (hm t')

theorem write_failed {t t' : FileTree} {path : List Component} {truncate : Bool}
    {addition : String} {e : FileError} (h : t.write path truncate addition = (t', some e)) :
    t.Grows t' := by
  have hg := make_directories_grow t path.reverse.tail
  unfold write at h
  split at h
  · next made hm =>
    rw [hm] at hg
    rw [write_file_failed h]
    exact hg
  · rw [h] at hg
    exact hg

end SchemaTypes.FileTree
