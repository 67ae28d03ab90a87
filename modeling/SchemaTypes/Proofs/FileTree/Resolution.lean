import SchemaTypes.FileTree

/-!
# Where paths lead

A path that can be resolved leads to a location that can be read off the path and the working
directory. Resolution uses directories only, so it goes on to hold while directories stay.
-/

set_option autoImplicit false

namespace SchemaTypes

open SchemaTypes.Path (Component)

namespace Path

def step (l : Location) : Component → Location
  | .root => []
  | .current => l
  | .parent => l.tail
  | .name text => text :: l

/-- The location of a path from a working directory, whether or not anything is there. -/
def destination (home : Location) (path : List Component) : Location := path.foldl step home

theorem destination_append (home : Location) (above : List Component) (c : Component) :
    destination home (above ++ [c]) = step (destination home above) c := by
  simp [destination]

end Path

namespace FileTree

/-- Directories of the one tree are directories of the other, with the same working directory. -/
structure Keeps (t t' : FileTree) : Prop where
  home : t'.home = t.home
  directory : ∀ l, t.node? l = some .directory → t'.node? l = some .directory

theorem Keeps.refl (t : FileTree) : t.Keeps t := ⟨rfl, fun _ h => h⟩

theorem Keeps.trans {t t' t'' : FileTree} (h : t.Keeps t') (h' : t'.Keeps t'') : t.Keeps t'' :=
  ⟨h'.home.trans h.home, fun l hl => h'.directory l (h.directory l hl)⟩

theorem enter_name {t : FileTree} {l l' : Location} {text : String}
    (h : t.enter l (.name text) = .ok l') :
    text.utf8ByteSize ≤ maxNameBytes ∧ t.node? (text :: l) = some .directory ∧
      l' = text :: l := by
  simp only [enter] at h
  split at h
  · cases h
  · next hb =>
    split at h
    · cases h
    · cases h
    · next hn =>
      cases h
      exact ⟨Nat.le_of_not_lt hb, hn, rfl⟩

theorem enter_step {t : FileTree} {l l' : Location} {c : Component} (h : t.enter l c = .ok l') :
    l' = Path.step l c := by
  cases c with
  | root => cases h; rfl
  | current => cases h; rfl
  | parent => cases h; rfl
  | name text => exact (enter_name h).2.2

theorem enter_kept {t t' : FileTree} (hk : t.Keeps t') {l l' : Location} {c : Component}
    (h : t.enter l c = .ok l') : t'.enter l c = .ok l' := by
  cases c with
  | root => exact h
  | current => exact h
  | parent => exact h
  | name text =>
    obtain ⟨hb, hn, rfl⟩ := enter_name h
    simp [enter, Nat.not_lt.mpr hb, hk.directory _ hn]

theorem walk_kept {t t' : FileTree} (hk : t.Keeps t') {path : List Component} {l l' : Location}
    (h : path.foldlM t.enter l = .ok l') :
    l' = Path.destination l path ∧ path.foldlM t'.enter l = .ok l' := by
  induction path generalizing l with
  | nil =>
    cases h
    exact ⟨rfl, rfl⟩
  | cons c path ih =>
    rw [List.foldlM_cons] at h ⊢
    cases hc : t.enter l c with
    | error e =>
      rw [hc] at h
      cases h
    | ok k =>
      rw [hc] at h
      obtain ⟨hl, hw⟩ := ih h
      rw [enter_kept hk hc]
      exact ⟨by rw [hl, enter_step hc]; rfl, hw⟩

theorem directory_kept {t t' : FileTree} (hk : t.Keeps t') {path : List Component} {l : Location}
    (h : t.directory path = .ok l) : t'.directory path = .ok l := by
  rw [directory, hk.home]
  exact (walk_kept hk h).2

theorem directory_destination {t : FileTree} {path : List Component} {l : Location}
    (h : t.directory path = .ok l) : l = Path.destination t.home path :=
  (walk_kept (Keeps.refl t) h).1

theorem target_cases {t : FileTree} {path : List Component} {l : Location}
    (h : t.target path = .ok l) :
    ∃ above text k, path = above ++ [.name text] ∧ refused? path = none ∧
      t.directory above = .ok k ∧ text.utf8ByteSize ≤ maxNameBytes ∧ l = text :: k := by
  unfold target at h
  split at h
  · cases h
  · next text above hr hp =>
    have hpath : path = above.reverse ++ [.name text] := by
      have := congrArg List.reverse hp
      simpa using this
    split at h
    · cases h
    · next k hk =>
      split at h
      · cases h
      · next hb =>
        cases h
        exact ⟨above.reverse, text, k, hpath, hr, hk, Nat.le_of_not_lt hb, rfl⟩
  · cases h

theorem target_destination {t : FileTree} {path : List Component} {l : Location}
    (h : t.target path = .ok l) : l = Path.destination t.home path := by
  obtain ⟨above, text, k, rfl, -, hk, -, rfl⟩ := target_cases h
  rw [Path.destination_append, ← directory_destination hk]
  rfl

theorem target_kept {t t' : FileTree} (hk : t.Keeps t') {path : List Component} {l : Location}
    (h : t.target path = .ok l) : t'.target path = .ok l := by
  obtain ⟨above, text, k, rfl, hr, hd, hb, rfl⟩ := target_cases h
  simp [target, hr, directory_kept hk hd, Nat.not_lt.mpr hb]

end FileTree

end SchemaTypes
