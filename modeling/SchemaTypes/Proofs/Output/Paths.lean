import SchemaTypes.Proofs.Output.History

/-!
# Output paths

Every output path ends in the extension, so it denotes a file and never a directory. Paths are
apart when two of them lead to one place only if their components are equal; this is so for paths
without two dots that start alike.
-/

set_option autoImplicit false

namespace SchemaTypes

namespace Path

theorem segments_last (front : List Char) {c : Char} (hc : c ≠ '/') :
    ∃ s, (segments (front ++ [c])).getLast? = some (s ++ [c]) := by
  induction front with
  | nil => exact ⟨[], by simp [segments, hc]⟩
  | cons d front ih =>
    obtain ⟨s, hs⟩ := ih
    rw [List.cons_append, segments]
    cases hf : segments (front ++ [c]) with
    | nil => exact absurd hf (segments_ne_nil _)
    | cons x rest =>
      rw [hf] at hs
      by_cases hd : d = '/'
      · exact ⟨s, by simpa [hd] using hs⟩
      · cases rest with
        | nil =>
          have hx : x = s ++ [c] := by simpa using hs
          exact ⟨d :: s, by simp [hd, hx]⟩
        | cons y rest => exact ⟨s, by simpa [hd] using hs⟩

theorem names_file {path : String} {front : List Char} {c : Char}
    (hp : path.toList = front ++ [c]) (hc : c ≠ '/') (hd : c ≠ '.') :
    endsAsDirectory path = false := by
  obtain ⟨s, hs⟩ := segments_last front hc
  have h1 : s ++ [c] ≠ ['.'] := by
    intro h
    have := congrArg List.getLast? h
    simp [hd] at this
  have h2 : s ++ [c] ≠ ['.', '.'] := by
    intro h
    have := congrArg List.getLast? h
    simp [hd] at this
  simp [endsAsDirectory, hp, hs, h1, h2]

theorem join_ends (dir : String) {file : String} {front : List Char} {c : Char}
    (hf : file.toList = front ++ [c]) : ∃ front', (join dir file).toList = front' ++ [c] := by
  unfold join
  split
  · exact ⟨front, hf⟩
  · split
    · exact ⟨dir.toList ++ front, by simp [hf]⟩
    · exact ⟨dir.toList ++ "/".toList ++ front, by simp [hf]⟩

def below (path : String) : List Component := (segments path.toList).filterMap ofSegment

theorem destination_names (l : Location) (names : List String) :
    destination l (names.map .name) = names.reverse ++ l := by
  induction names generalizing l with
  | nil => rfl
  | cons text names ih =>
    change destination (text :: l) (names.map .name) = _
    rw [ih]
    simp

theorem all_names (cs : List Component) (h : ∀ c ∈ cs, ∃ text, c = .name text) :
    ∃ names : List String, cs = names.map .name := by
  induction cs with
  | nil => exact ⟨[], rfl⟩
  | cons c cs ih =>
    obtain ⟨text, rfl⟩ := h c (by simp)
    obtain ⟨names, rfl⟩ := ih fun c hc => h c (by simp [hc])
    exact ⟨text :: names, rfl⟩

theorem below_names {path : String} (hp : Component.parent ∉ components path) :
    ∃ names : List String, below path = names.map .name := by
  apply all_names
  intro c hc
  obtain ⟨s, -, hs⟩ := List.mem_filterMap.mp hc
  simp only [ofSegment] at hs
  split at hs
  · cases hs
  · split at hs
    · cases hs
      exact absurd (List.mem_append_right _ hc) hp
    · cases hs
      exact ⟨_, rfl⟩

theorem destination_below {path : String} (hp : Component.parent ∉ components path)
    (home : Location) :
    ∃ names : List String, below path = names.map .name ∧
      destination home (components path) =
        names.reverse ++ destination home (start path.toList) := by
  obtain ⟨names, hn⟩ := below_names hp
  have hc : components path = start path.toList ++ names.map .name := by
    rw [← hn]
    rfl
  refine ⟨names, hn, ?_⟩
  rw [hc, destination, List.foldl_append]
  exact destination_names _ names

end Path

namespace FileTree

/-- Two of the paths lead to one place only if their components are equal. -/
def Apart (t : FileTree) (paths : List String) : Prop :=
  ∀ p ∈ paths, ∀ q ∈ paths, t.locate p = t.locate q → Path.same p q = true

theorem same_located (t : FileTree) {p q : String} (h : Path.same p q = true) :
    t.locate p = t.locate q := by
  have hc : Path.components p = Path.components q := by simpa [Path.same] using h
  rw [locate, hc, locate]

/-- Paths without two dots that all start at the root, all with a dot or all with a name. -/
theorem alike_apart (t : FileTree) (paths : List String) (start : List Path.Component)
    (hp : ∀ p ∈ paths, Path.Component.parent ∉ Path.components p)
    (hs : ∀ p ∈ paths, Path.start p.toList = start) : t.Apart paths := by
  intro p hpm q hqm h
  obtain ⟨ns, hn, hd⟩ := Path.destination_below (hp p hpm) t.home
  obtain ⟨ms, hm, he⟩ := Path.destination_below (hp q hqm) t.home
  rw [locate, locate, hd, he, hs p hpm, hs q hqm] at h
  have hr : ns = ms := by simpa using h
  have hb : Path.below p = Path.below q := by rw [hn, hm, hr]
  have hc : Path.components p = Path.components q := by
    change Path.start p.toList ++ Path.below p = Path.start q.toList ++ Path.below q
    rw [hs p hpm, hs q hqm, hb]
  simp [Path.same, hc]

theorem read_target {t : FileTree} {path : String} {l : Location}
    (hp : Path.endsAsDirectory path = false) (h : t.target (Path.components path) = .ok l) :
    t.read? path = t.content? l := by
  rw [read?, hp]
  simp only [h, content?]
  rfl

end FileTree

namespace Writer

def extended (file : String) : String :=
  if Text.endsWith fileExtension file then file else file ++ fileExtension

theorem extended_ends (file : String) : ∃ front, (extended file).toList = front ++ ['s'] := by
  unfold extended
  split
  · next he =>
    have hp := List.isPrefixOf_iff_prefix.mp he
    obtain ⟨rest, hr⟩ := hp
    have hf : file.toList = (rest.reverse ++ ['.', 't']) ++ ['s'] := by
      have := congrArg List.reverse hr
      simpa [fileExtension] using this.symm
    exact ⟨_, hf⟩
  · exact ⟨file.toList ++ ['.', 't'], by simp [fileExtension]⟩

theorem extended_names_file (file : String) : Path.endsAsDirectory (extended file) = false := by
  obtain ⟨front, hf⟩ := extended_ends file
  exact Path.names_file hf (by decide) (by decide)

theorem output_ends (w : Writer) (file : String) :
    ∃ front, (w.outputPath file).toList = front ++ ['s'] := by
  obtain ⟨front, hf⟩ := extended_ends file
  exact Path.join_ends w.dir hf

theorem output_names_file (w : Writer) (file : String) :
    Path.endsAsDirectory (w.outputPath file) = false := by
  obtain ⟨front, hf⟩ := w.output_ends file
  exact Path.names_file hf (by decide) (by decide)

end Writer

end SchemaTypes
