import SchemaTypes.Proofs.Output.Paths

/-!
# Staying below a directory

A path goes some directories up, or to the root, and from there down through names. It ends below
the directory that it starts from exactly if it goes down again through everything it has left.
The path of an output file leads to where the path of the file alone leads from the output
directory. So this decides whether the file is below the output directory.
-/

set_option autoImplicit false

namespace SchemaTypes

def Location.Inside (d l : Location) : Prop := d <:+ l ∧ l ≠ d

instance (d l : Location) : Decidable (Location.Inside d l) := inferInstanceAs (Decidable (_ ∧ _))

theorem Location.inside_append_iff (left down base : Location) :
    Location.Inside (left ++ base) (down ++ base) ↔ Location.Inside left down := by
  simp [Location.Inside, List.suffix_append_self_iff]

namespace Path

/-- How a path goes: up from where it starts, or from the root, and then down through names, the
last one first. -/
structure Route where
  fromRoot : Bool := false
  up : Nat := 0
  down : List String := []
  deriving DecidableEq, Repr

namespace Route

def step (r : Route) : Component → Route
  | .root => { fromRoot := true }
  | .current => r
  | .parent =>
    match r.down with
    | [] => { r with up := r.up + 1 }
    | _ :: rest => { r with down := rest }
  | .name text => { r with down := text :: r.down }

def left (r : Route) (d : Location) : Location := if r.fromRoot then d else d.take r.up

def base (r : Route) (d : Location) : Location := if r.fromRoot then [] else d.drop r.up

def reaches (r : Route) (d : Location) : Location := r.down ++ r.base d

/-- The route goes down again through all directories that it leaves, and further. -/
def Returns (r : Route) (d : Location) : Prop := Location.Inside (r.left d) r.down

instance (r : Route) (d : Location) : Decidable (r.Returns d) :=
  inferInstanceAs (Decidable (Location.Inside _ _))

def Stays (r : Route) : Prop := r.fromRoot = false ∧ r.up = 0

instance (r : Route) : Decidable r.Stays := inferInstanceAs (Decidable (_ ∧ _))

theorem left_base (r : Route) (d : Location) : r.left d ++ r.base d = d := by
  unfold left base
  split
  · exact List.append_nil d
  · exact List.take_append_drop r.up d

theorem step_reaches (r : Route) (c : Component) (d : Location) :
    (r.step c).reaches d = Path.step (r.reaches d) c := by
  cases c with
  | root => simp [step, reaches, base, Path.step]
  | current => rfl
  | name text => rfl
  | parent =>
    rcases r with ⟨fromRoot, up, _ | ⟨text, rest⟩⟩
    · cases fromRoot <;> simp [step, reaches, base, Path.step]
    · rfl

theorem run_reaches (cs : List Component) (r : Route) (d : Location) :
    (cs.foldl step r).reaches d = destination (r.reaches d) cs := by
  -- The route so far varies: the induction is over what is still to go.
  induction cs generalizing r with
  | nil => rfl
  | cons c cs ih =>
    rw [List.foldl_cons, ih, step_reaches]
    rfl

theorem inside_iff_returns (r : Route) (d : Location) :
    Location.Inside d (r.reaches d) ↔ r.Returns d := by
  have h := Location.inside_append_iff (r.left d) r.down (r.base d)
  rwa [left_base] at h

end Route

def route (path : String) : Route := (components path).foldl Route.step {}

theorem route_reaches (path : String) (d : Location) :
    (route path).reaches d = destination d (components path) := by
  rw [route, Route.run_reaches]
  rfl

theorem segments_slash (cs ds : List Char) :
    segments (cs ++ '/' :: ds) = segments cs ++ segments ds := by
  induction cs with
  | nil =>
    cases hd : segments ds with
    | nil => exact absurd hd (segments_ne_nil ds)
    | cons s rest => simp [segments, hd]
  | cons c cs ih =>
    cases hc : segments cs with
    | nil => exact absurd hc (segments_ne_nil cs)
    | cons s rest => by_cases hs : c = '/' <;> simp [segments, ih, hc, hs]

theorem segments_plain {cs : List Char} (h : '/' ∉ cs) : segments cs = [cs] := by
  induction cs with
  | nil => rfl
  | cons c cs ih =>
    simp only [List.mem_cons, not_or] at h
    simp [segments, ih h.2, Ne.symm h.1]

theorem relative_of_no_slash {path : String}
    (h : ∀ rest, path.toList = '/' :: rest → False) : isAbsolute path = false := by
  cases hp : path.toList with
  | nil => simp [isAbsolute, hp]
  | cons c cs =>
    have hc : c ≠ '/' := by
      rintro rfl
      exact h cs hp
    simp [isAbsolute, hp, hc]

theorem destination_start (home : Location) (path : String) :
    destination home (start path.toList) = if isAbsolute path then [] else home := by
  unfold start
  split
  · next hp => simp [isAbsolute, hp, destination, step]
  · next _ h =>
    rw [relative_of_no_slash h]
    rfl
  · next h _ =>
    rw [relative_of_no_slash h]
    rfl

theorem destination_components (home : Location) (path : String) :
    destination home (components path) =
      destination (if isAbsolute path then [] else home) (below path) := by
  rw [← destination_start]
  exact List.foldl_append

theorem destination_slash {joined dir file : String} {front : List Char} (hd : dir ≠ "")
    (hs : ∃ rest, joined.toList = dir.toList ++ rest)
    (hf : below dir = (segments front).filterMap ofSegment)
    (hj : joined.toList = front ++ '/' :: file.toList) (home : Location) :
    destination home (components joined) =
      destination (destination home (components dir)) (below file) := by
  have ha : isAbsolute joined = isAbsolute dir := by
    obtain ⟨rest, hs⟩ := hs
    obtain ⟨c, cs, hc⟩ := List.exists_cons_of_ne_nil (show dir.toList ≠ [] by simpa using hd)
    simp [isAbsolute, hs, hc]
  have hb : below joined = below dir ++ below file := by
    rw [below, hj, segments_slash, List.filterMap_append, hf, below]
  rw [destination_components, destination_components home dir, ha, hb]
  exact List.foldl_append

theorem destination_join (home : Location) (dir file : String) :
    destination home (components (join dir file)) =
      destination (destination home (components dir)) (components file) := by
  by_cases ha : isAbsolute file = true
  · have hj : join dir file = file := by simp [join, ha]
    rw [hj, destination_components, destination_components _ file, ha, if_pos rfl, if_pos rfl]
  · rw [destination_components _ file, if_neg ha]
    by_cases hd : dir = ""
    · subst hd
      have hj : join "" file = file := by simp [join]
      rw [hj, destination_components, if_neg ha]
      rfl
    · by_cases hl : dir.toList.getLast? = some '/'
      · have hj : join dir file = dir ++ file := by simp [join, ha, hd, hl]
        obtain ⟨front, hfront⟩ := List.getLast?_eq_some_iff.mp hl
        have hf : below dir = (segments front).filterMap ofSegment := by
          rw [below, hfront, segments_slash]
          simp [segments, ofSegment]
        rw [hj]
        exact destination_slash hd ⟨file.toList, by simp⟩ hf (by simp [hfront]) home
      · have hj : join dir file = dir ++ "/" ++ file := by simp [join, ha, hd, hl]
        rw [hj]
        exact destination_slash hd ⟨'/' :: file.toList, by simp⟩ rfl (by simp) home

theorem file_last {path : String} (h : endsAsDirectory path = false) :
    ∃ above text, components path = above ++ [.name text] := by
  unfold endsAsDirectory at h
  split at h
  · next s hs =>
    obtain ⟨front, hfront⟩ := List.getLast?_eq_some_iff.mp hs
    simp only [Bool.or_eq_false_iff, beq_eq_false_iff_ne] at h
    obtain ⟨⟨he, hd⟩, hp⟩ := h
    refine ⟨start path.toList ++ front.filterMap ofSegment, .ofList s, ?_⟩
    simp [components, hfront, ofSegment, he, hd, hp]
  · cases h

theorem stays_returns {path : String} (h : endsAsDirectory path = false)
    (hs : (route path).Stays) (d : Location) : (route path).Returns d := by
  have hl : (route path).left d = [] := by simp [Route.left, hs.1, hs.2]
  have hd : (route path).down ≠ [] := by
    obtain ⟨above, text, hc⟩ := file_last h
    simp [route, hc, Route.step]
  rw [Route.Returns, hl]
  exact ⟨List.nil_suffix, hd⟩

theorem plain_components {path : String} (hp : '/' ∉ path.toList)
    (hf : endsAsDirectory path = false) : components path = [.name path] := by
  simp only [endsAsDirectory, segments_plain hp, List.getLast?_singleton, Bool.or_eq_false_iff,
    beq_eq_false_iff_ne] at hf
  obtain ⟨⟨he, hd⟩, hdd⟩ := hf
  have hs : start path.toList = [] := by
    unfold start
    split
    · next h => simp [h] at hp
    · next h _ =>
      rw [segments_plain hp] at h
      simp only [List.cons.injEq] at h
      exact absurd h.1 hd
    · rfl
  simp [components, hs, segments_plain hp, ofSegment, he, hd, hdd]

end Path

namespace Writer

theorem output_located (w : Writer) (t : FileTree) (file : String) :
    t.locate (w.outputPath file) = (Path.route (extended file)).reaches (t.locate w.dir) := by
  rw [Path.route_reaches]
  exact Path.destination_join t.home w.dir (extended file)

theorem output_inside_iff (w : Writer) (t : FileTree) (file : String) :
    Location.Inside (t.locate w.dir) (t.locate (w.outputPath file)) ↔
      (Path.route (extended file)).Returns (t.locate w.dir) := by
  rw [output_located]
  exact Path.Route.inside_iff_returns _ _

theorem plain_output_located (w : Writer) (t : FileTree) {file : String}
    (hp : '/' ∉ file.toList) :
    t.locate (w.outputPath file) = extended file :: t.locate w.dir := by
  have he : '/' ∉ (extended file).toList := by
    unfold extended
    split
    · exact hp
    · simp [hp, fileExtension]
  rw [output_located, Path.route_reaches,
    Path.plain_components he (extended_names_file file)]
  rfl

end Writer

end SchemaTypes
