import Mathlib
import SchemaTypes.Name.Convert

/-!
# Word boundaries in names

The two conversions that move boundaries, one character at a time. Underscores are put in by
position, each insertion shifting the ones after it; the result is that of a single pass that
replaces every capital. Underscores are dropped with a flag that raises the next character.
-/

set_option autoImplicit false

namespace SchemaTypes.Case

def snakeChars (c : Char) : List Char := if c.isUpper then ['_', c.toLower] else [c]

def capitalsFrom (n : Nat) (cs : List Char) : List Nat :=
  ((cs.zipIdx n).filter (fun p => p.1.isUpper)).map Prod.snd

theorem capitals_from_upper {c : Char} (n : Nat) (cs : List Char) (hc : c.isUpper = true) :
    capitalsFrom n (c :: cs) = n :: capitalsFrom (n + 1) cs := by
  simp [capitalsFrom, List.zipIdx_cons, hc]

theorem capitals_from_other {c : Char} (n : Nat) (cs : List Char) (hc : ¬ c.isUpper = true) :
    capitalsFrom n (c :: cs) = capitalsFrom (n + 1) cs := by
  simp [capitalsFrom, List.zipIdx_cons, hc]

theorem insert_after (front back : List Char) (c : Char) :
    (front ++ back).insertIdx front.length c = front ++ c :: back := by
  induction front with
  | nil => simp
  | cons d front ih => simpa using ih

/-- The part in front of `cs` is done: it has grown by one underscore for each insertion, so the
next position is its length. -/
theorem insert_underscores_from (cs front : List Char) (n shift : Nat)
    (hf : front.length = n + shift) :
    insertUnderscores shift (capitalsFrom n cs) (front ++ lowerAll cs) =
      front ++ cs.flatMap snakeChars := by
  induction cs generalizing front n shift with
  | nil => rfl
  | cons c cs ih =>
    by_cases hc : c.isUpper = true
    · have hi : (front ++ lowerAll (c :: cs)).insertIdx (n + shift) '_' =
          (front ++ ['_', c.toLower]) ++ lowerAll cs := by
        rw [← hf, insert_after]
        simp [lowerAll]
      rw [capitals_from_upper n cs hc, insertUnderscores, hi,
        ih _ (n + 1) (shift + 1) (by simp [hf]; omega)]
      simp [snakeChars, hc]
    · have hl : front ++ lowerAll (c :: cs) = (front ++ [c]) ++ lowerAll cs := by
        simp [lowerAll, Char.toLower_eq_of_not_isUpper hc]
      rw [capitals_from_other n cs hc, hl, ih _ (n + 1) shift (by simp [hf]; omega)]
      simp [snakeChars, hc]

theorem underscored_pass (cs : List Char) : underscored cs = cs.flatMap snakeChars :=
  insert_underscores_from cs [] 0 0 rfl

theorem snake_chars_other {cs : List Char} (hs : ∀ c ∈ cs, c.isUpper = false) :
    cs.flatMap snakeChars = cs := by
  induction cs with
  | nil => rfl
  | cons c cs ih =>
    rw [List.flatMap_cons, ih (fun d hd => hs d (by simp [hd]))]
    simp [snakeChars, hs c (by simp)]

theorem lower_all_other {cs : List Char} (hs : ∀ c ∈ cs, c.isUpper = false) :
    lowerAll cs = cs := by
  refine (List.map_congr_left fun c hc => ?_).trans (List.map_id cs)
  exact Char.toLower_eq_of_not_isUpper (by simp [hs c hc])

theorem join_underscores_plain {cs : List Char} (hs : ∀ c ∈ cs, c ≠ '_') (rest : List Char) :
    joinUnderscores false (cs ++ rest) = cs ++ joinUnderscores false rest := by
  induction cs with
  | nil => rfl
  | cons c cs ih =>
    have hc : c ≠ '_' := hs c (by simp)
    simp [joinUnderscores, hc, ih (fun d hd => hs d (by simp [hd]))]

end SchemaTypes.Case
