import SchemaTypes.Proofs.Name.Boundaries

/-!
# Insertion within the name

Underscores are put in at places that are counted in the characters as they are by then, and a
place behind their end would be none. Every insertion makes the characters longer by one and moves
the places that are left on by one, so a run of insertions stays within the name exactly if its
positions lie within the characters it starts from. Those of the capitals do.
-/

set_option autoImplicit false

namespace SchemaTypes.Case

/-- The run of insertions that is given up at a place behind the end of the characters. -/
def insertUnderscores? (shift : Nat) : List Nat → List Char → Option (List Char)
  | [], cs => some cs
  | i :: rest, cs =>
    if i + shift ≤ cs.length then
      insertUnderscores? (shift + 1) rest (cs.insertIdx (i + shift) '_')
    else none

theorem within_inserted {shift i : Nat} {cs : List Char} (hi : i + shift ≤ cs.length) (j : Nat) :
    j + (shift + 1) ≤ (cs.insertIdx (i + shift) '_').length ↔ j + shift ≤ cs.length := by
  rw [List.length_insertIdx_of_le_length hi]
  omega

/-- A run of insertions is finished exactly if its positions lie within the characters it starts
from, in whatever order, and then with the result of the run that is never given up. -/
theorem insertions_finished_iff (shift : Nat) (positions : List Nat) (cs out : List Char) :
    insertUnderscores? shift positions cs = some out ↔
      (∀ i ∈ positions, i + shift ≤ cs.length) ∧ insertUnderscores shift positions cs = out := by
  induction positions generalizing shift cs with
  | nil => simp [insertUnderscores?, insertUnderscores]
  | cons i rest ih =>
    rw [List.forall_mem_cons, insertUnderscores?]
    by_cases hi : i + shift ≤ cs.length
    · have hr : (∀ j ∈ rest, j + (shift + 1) ≤ (cs.insertIdx (i + shift) '_').length) ↔
          ∀ j ∈ rest, j + shift ≤ cs.length :=
        forall₂_congr fun j _ => within_inserted hi j
      rw [if_pos hi, ih, hr, insertUnderscores]
      simp [hi]
    · simp [hi]

theorem capital_within {cs : List Char} {i : Nat} (hi : i ∈ capitalPositions cs) :
    i < cs.length := by
  obtain ⟨p, hp, rfl⟩ := List.mem_map.mp hi
  simpa using List.snd_lt_of_mem_zipIdx (List.mem_of_mem_filter hp)

/-- Underscores put into the small letters of a name where its capitals stood, each place moved on
by the underscores before it, are never put behind the end. The result is that of one pass over the
name, in which a capital becomes an underscore and its small letter and every other character is
kept. -/
theorem capitals_underscored_in_one_pass (cs : List Char) :
    insertUnderscores? 0 (capitalPositions cs) (lowerAll cs) =
        some (insertUnderscores 0 (capitalPositions cs) (lowerAll cs)) ∧
      insertUnderscores 0 (capitalPositions cs) (lowerAll cs) = cs.flatMap snakeChars := by
  have hw : ∀ i ∈ capitalPositions cs, i + 0 ≤ (lowerAll cs).length := by
    intro i hi
    rw [lower_all_length]
    exact (capital_within hi).le
  exact ⟨(insertions_finished_iff _ _ _ _).mpr ⟨hw, rfl⟩, underscored_pass cs⟩

example : underscored "_ÉlanID2_".toList = "_Élan_i_d2_".toList := by decide

end SchemaTypes.Case
