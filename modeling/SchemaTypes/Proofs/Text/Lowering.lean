import Mathlib
import SchemaTypes.Text.Casing

/-!
# Texts in small letters

Small letters of the whole of Unicode leave none of the capitals `A` to `Z`: no other character has
one of these for its small form.
-/

set_option autoImplicit false

namespace SchemaTypes

namespace Unicode

/-- What the mapping of a text sends to, from the characters of the text. -/
theorem targets_of_text {text : String} {cs : List Char} (h : text = .ofList cs) (p : Nat → Bool)
    (hp : (words cs).all (fun word => p (Text.digitsValue 16 (cut '>' word).2)) = true) :
    ∀ e ∈ Mapping.ofText text, p e.2 = true := by
  intro e he
  rw [Mapping.ofText, h, String.toList_ofList] at he
  obtain ⟨word, hw, rfl⟩ := List.mem_map.mp he
  exact List.all_eq_true.mp hp word hw

-- the whole table is taken as one list of characters
set_option maxRecDepth 20000 in
theorem lower_map_above : ∀ e ∈ lowerMap, 0x5a < e.2 := by
  have hp : ∀ e ∈ lowerMap, decide (0x5a < e.2) = true := by
    rw [lowerMap]
    exact targets_of_text rfl (fun n => decide (0x5a < n)) (by decide +kernel)
  exact fun e he => of_decide_eq_true (hp e he)

theorem image_above {n k : Nat} (h : lowerMap.image? n = some k) : 0x5a < k := by
  obtain ⟨e, he, rfl⟩ := Option.map_eq_some_iff.mp h
  have ha := lower_map_above e (List.mem_of_find?_eq_some he)
  omega

theorem lower_full_above {n : Nat} {ns : List Nat} (h : lowerFull.lookup n = some ns) :
    ∀ k ∈ ns, 0x5a < k := by
  have hn : ns = [0x69, 0x307] := by
    rw [lowerFull, List.lookup] at h
    split at h
    · exact (Option.some.inj h).symm
    · cases h
  simp [hn]

end Unicode

namespace Text
open Unicode

theorem not_upper_above {n : Nat} (h : 0x5a < n) : (Char.ofNat n).isUpper = false := by
  have hn : (Char.ofNat n).toNat = n ∨ (Char.ofNat n).toNat = 0 := by
    rw [Char.ofNat]
    split
    · exact .inl rfl
    · exact .inr rfl
  have hu : (Char.ofNat n).isUpper = true →
      65 ≤ (Char.ofNat n).toNat ∧ (Char.ofNat n).toNat ≤ 90 := by
    simp [Char.isUpper, UInt32.le_iff_toNat_le, ← Char.toNat_val]
  rw [Bool.eq_false_iff]
  intro hc
  have hb := hu hc
  omega

theorem not_upper_of_ascii_above {c : Char} (h : ¬ c.toNat < 0x80) : c.isUpper = false := by
  have hc := not_upper_above (n := c.toNat) (by omega)
  rwa [Char.ofNat_toNat] at hc

theorem lower_char_small (c : Char) : ∀ d ∈ lowerChar c, d.isUpper = false := by
  rw [lowerChar]
  split
  case isTrue => simp
  case isFalse hc =>
    split
    case h_1 ns hl =>
      intro d hd
      obtain ⟨n, hn, rfl⟩ := List.mem_map.mp hd
      exact not_upper_above (lower_full_above hl n hn)
    case h_2 =>
      cases hi : lowerMap.image? c.toNat with
      | none => simpa using not_upper_of_ascii_above hc
      | some k => simpa using not_upper_above (image_above hi)

theorem lower_after_small (before cs : List Char) :
    ∀ d ∈ lowerAfter before cs, d.isUpper = false := by
  induction cs generalizing before with
  | nil => simp [lowerAfter]
  | cons c cs ih =>
    rw [lowerAfter, List.forall_mem_append]
    refine ⟨?_, ih (c :: before)⟩
    split
    · split
      · exact List.forall_mem_singleton.mpr (by decide)
      · exact List.forall_mem_singleton.mpr (by decide)
    · exact lower_char_small c

theorem lowered_small (s : String) : ∀ c ∈ (toLower s).toList, c.isUpper = false := by
  rw [toLower, String.toList_ofList]
  exact lower_after_small [] s.toList

end Text

end SchemaTypes
