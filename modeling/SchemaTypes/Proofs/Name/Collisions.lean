import SchemaTypes.Proofs.Name.Stability

/-!
# Names that are converted alike

Conversion of names without capitals forgets underscores. What is left of a name is its core: from a
name in snake case the underscores that raise no letter are taken out, and other names stay whole.
In camel and in pascal case two names are the same exactly if their cores are.
-/

set_option autoImplicit false

namespace SchemaTypes.Case

/-- What camel and pascal case can tell of a name without capitals. -/
def core (cs : List Char) : List Char := if ofChars cs = .snake then withoutIdle cs else cs

def joined (cs : List Char) : List Char :=
  if ofChars cs = .snake then joinUnderscores false cs else cs

section Small
variable {cs ds : List Char} (hs : ∀ c ∈ cs, c.isUpper = false)
include hs

theorem joined_inferred : ofChars (joined cs) = .camel := by
  rw [joined]
  split
  case isTrue hc =>
    have hj := joined_starts_small hc
    rw [lower_all_other hs] at hj
    exact (camel_iff _).mpr ⟨plain_not_snake (joined_plain false cs), hj⟩
  case isFalse hn => exact (camel_iff cs).mpr ⟨hn, small_starts_small hs⟩

theorem joined_unmixed : '_' ∉ joined cs ∨ ∀ c ∈ joined cs, c.isUpper = false := by
  rw [joined]
  split
  · exact .inl (joined_plain false cs)
  · exact .inr hs

theorem underscored_core : underscored (joined cs) = core cs := by
  rw [joined, core]
  split
  · exact underscored_joined hs
  · exact underscored_of_small hs

theorem small_converted {target : Case} (ht : target ≠ .snake) :
    convertChars target cs = started target (joined cs) := by
  have hi := joined_inferred hs
  rw [joined] at hi ⊢
  split
  case isTrue hc => rw [leaving_snake ht hc, lower_all_other hs]
  case isFalse hn =>
    rw [if_neg hn] at hi
    exact camel_small_started ht hi hs

theorem core_converted {target : Case} (ht : target ≠ .snake) :
    convertChars target (core cs) = convertChars target cs := by
  rw [← underscored_core hs, underscored_returns ht (joined_inferred hs) (joined_unmixed hs),
    small_converted hs ht]

theorem converted_alike_iff {target : Case} (ht : target ≠ .snake)
    (hd : ∀ d ∈ ds, d.isUpper = false) :
    convertChars target cs = convertChars target ds ↔ core cs = core ds := by
  constructor
  · intro h
    rw [small_converted hs ht, small_converted hd ht] at h
    have hj := congrArg lowerFirst h
    rw [lower_first_started target ((camel_iff _).mp (joined_inferred hs)).2,
      lower_first_started target ((camel_iff _).mp (joined_inferred hd)).2] at hj
    rw [← underscored_core hs, ← underscored_core hd, hj]
  · intro h
    rw [← core_converted hs ht, h, core_converted hd ht]

end Small

example : core "address_1".toList = core "address1".toList := by decide +kernel

example : core "_id".toList ≠ core "id".toList := by decide +kernel

end SchemaTypes.Case
