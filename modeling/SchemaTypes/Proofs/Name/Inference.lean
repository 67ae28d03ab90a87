import SchemaTypes.Proofs.Name.Inverses

/-!
# The convention a name is inferred to have

A name is in snake case exactly if it does not start with an underscore and has one before its
last character. Recasing letters changes nothing about that; the first letter then decides between
the other two conventions. What a conversion does is given by the convention it leaves, with the
first letter as the target has it.
-/

set_option autoImplicit false

namespace SchemaTypes.Case

/-- What starts at the first underscore is longer than it if that underscore is not the last
character, and then any underscore may be taken for it. -/
theorem dropped_long_iff (cs : List Char) :
    1 < (cs.dropWhile (· != '_')).length ↔ '_' ∈ cs.dropLast := by
  induction cs with
  | nil => simp
  | cons c cs ih =>
    by_cases hc : c = '_'
    · subst hc
      cases cs <;> simp
    · have hn : '_' ≠ c := fun h => hc h.symm
      cases cs with
      | nil => simp [hc]
      | cons d ds => simpa [hc, hn] using ih

theorem snake_iff (c : Char) (cs : List Char) :
    ofChars (c :: cs) = .snake ↔ c ≠ '_' ∧ '_' ∈ cs.dropLast := by
  have hi : ofChars (c :: cs) = .snake ↔ hasInnerUnderscore (c :: cs) = true := by
    simp only [ofChars]
    split_ifs <;> simp_all
  rw [hi, hasInnerUnderscore, ← dropped_long_iff]
  by_cases hc : c = '_' <;> simp [hc]

theorem pascal_iff (cs : List Char) :
    ofChars cs = .pascal ↔ ofChars cs ≠ .snake ∧ startsCapital cs = true := by
  simp only [ofChars]
  split_ifs <;> simp_all

theorem camel_iff (cs : List Char) :
    ofChars cs = .camel ↔ ofChars cs ≠ .snake ∧ startsCapital cs = false := by
  simp only [ofChars]
  split_ifs <;> simp_all

theorem plain_not_snake {cs : List Char} (hp : '_' ∉ cs) : ofChars cs ≠ .snake := by
  cases cs with
  | nil => decide
  | cons c cs =>
    rw [ne_eq, snake_iff]
    rintro ⟨-, hm⟩
    exact hp (List.mem_cons_of_mem c (List.mem_of_mem_dropLast hm))

theorem mem_lowered_iff (cs : List Char) : '_' ∈ lowerAll cs ↔ '_' ∈ cs := by
  simp [lowerAll, lower_eq_underscore_iff]

theorem mem_of_lower {cs ds : List Char} (h : lowerAll cs = lowerAll ds) :
    '_' ∈ cs ↔ '_' ∈ ds := by
  rw [← mem_lowered_iff, h, mem_lowered_iff]

theorem snake_lowered_iff (cs : List Char) :
    ofChars (lowerAll cs) = .snake ↔ ofChars cs = .snake := by
  cases cs with
  | nil => rfl
  | cons c cs =>
    have hd : (lowerAll cs).dropLast = lowerAll cs.dropLast := List.map_dropLast.symm
    have hl : lowerAll (c :: cs) = c.toLower :: lowerAll cs := rfl
    rw [hl, snake_iff, snake_iff, hd, mem_lowered_iff, ne_eq, lower_eq_underscore_iff]

theorem snake_of_lower {cs ds : List Char} (h : lowerAll cs = lowerAll ds) :
    ofChars cs = .snake ↔ ofChars ds = .snake := by
  rw [← snake_lowered_iff, h, snake_lowered_iff]

/-! ## The first letter -/

theorem small_starts_small {cs : List Char} (hs : ∀ c ∈ cs, c.isUpper = false) :
    startsCapital cs = false := by
  cases cs with
  | nil => rfl
  | cons c cs => exact hs c (by simp)

theorem small_not_pascal {cs : List Char} (hs : ∀ c ∈ cs, c.isUpper = false) :
    ofChars cs ≠ .pascal := by
  rw [ne_eq, pascal_iff, small_starts_small hs]
  simp

theorem starts_lower_first (cs : List Char) : startsCapital (lowerFirst cs) = false := by
  cases cs <;> simp [lowerFirst, startsCapital]

theorem small_lower_first_iff (cs : List Char) :
    (∀ c ∈ lowerFirst cs, c.isUpper = false) ↔ ∀ c ∈ cs.tail, c.isUpper = false := by
  cases cs <;> simp [lowerFirst]

theorem lower_first_small {cs : List Char} (hs : startsCapital cs = false) :
    lowerFirst cs = cs := by
  cases cs with
  | nil => rfl
  | cons c cs =>
    have hc : c.isUpper = false := hs
    simp [lowerFirst, Char.toLower_eq_of_not_isUpper, hc]

theorem capitalize_lower_first {cs : List Char} (hs : startsCapital cs = true) :
    capitalize (lowerFirst cs) = cs := by
  cases cs with
  | nil => rfl
  | cons c cs => rw [lowerFirst, capitalize, upper_lowered hs]

/-- A name that starts as camel case does, with the first letter that the target asks for. -/
def started : Case → List Char → List Char
  | .pascal, cs => capitalize cs
  | _, cs => cs

theorem started_lowered (target : Case) (cs : List Char) :
    lowerAll (started target cs) = lowerAll cs := by
  cases target with
  | pascal => exact capitalize_lowered cs
  | camel => rfl
  | snake => rfl

theorem lower_first_started (target : Case) {cs : List Char} (hs : startsCapital cs = false) :
    lowerFirst (started target cs) = cs := by
  have hc : lowerFirst (capitalize cs) = lowerFirst cs := by
    cases cs <;> simp [lowerFirst, capitalize]
  cases target with
  | pascal => exact hc.trans (lower_first_small hs)
  | camel => exact lower_first_small hs
  | snake => exact lower_first_small hs

theorem lower_first_camel {cs : List Char} (hn : ofChars cs ≠ .snake) :
    ofChars (lowerFirst cs) = .camel := by
  rw [camel_iff, ne_eq, snake_of_lower (lower_first_lowered cs)]
  exact ⟨hn, starts_lower_first cs⟩

theorem joined_starts_small {cs : List Char} (hc : ofChars cs = .snake) :
    startsCapital (joinUnderscores false (lowerAll cs)) = false := by
  cases cs with
  | nil => rfl
  | cons c cs =>
    have hn : c.toLower ≠ '_' :=
      fun h => ((snake_iff c cs).mp hc).1 ((lower_eq_underscore_iff c).mp h)
    simp [lowerAll, joinUnderscores, hn, startsCapital]

/-! ## Conversion by the convention that is left -/

section Leaving
variable {target : Case} {cs : List Char}

theorem convert_chars (target : Case) (name : String) :
    (target.convert name).toList = convertChars target name.toList := by
  rw [convert, String.toList_ofList]

theorem snake_to_snake (hc : ofChars cs = .snake) : convertChars .snake cs = cs := by
  rw [convertChars, hc, respell]

theorem leaving_snake (ht : target ≠ .snake) (hc : ofChars cs = .snake) :
    convertChars target cs = started target (joinUnderscores false (lowerAll cs)) := by
  rw [convertChars, hc]
  cases target with
  | snake => exact absurd rfl ht
  | pascal => rfl
  | camel => rfl

theorem leaving_snake_plain (ht : target ≠ .snake) (hc : ofChars cs = .snake) :
    '_' ∉ convertChars target cs := by
  rw [leaving_snake ht hc, mem_of_lower (started_lowered target _)]
  exact joined_plain false _

theorem entering_snake (hn : ofChars cs ≠ .snake) :
    convertChars .snake cs = underscored (lowerFirst cs) := by
  rw [convertChars]
  cases hc : ofChars cs with
  | snake => exact absurd hc hn
  | pascal => rfl
  | camel => rw [lower_first_small ((camel_iff cs).mp hc).2, respell]

theorem leaving_pascal (ht : target ≠ .snake) (hc : ofChars cs = .pascal) :
    convertChars target cs = lowerFirst cs := by
  rw [convertChars, hc]
  cases target with
  | snake => exact absurd rfl ht
  | pascal => rfl
  | camel => rfl

theorem camel_to_camel (hc : ofChars cs = .camel) : convertChars .camel cs = lowerAll cs := by
  rw [convertChars, hc, respell]

theorem camel_to_pascal (hc : ofChars cs = .camel) : convertChars .pascal cs = capitalize cs := by
  rw [convertChars, hc, respell]

theorem camel_small_started (ht : target ≠ .snake) (hc : ofChars cs = .camel)
    (hs : ∀ c ∈ cs, c.isUpper = false) : convertChars target cs = started target cs := by
  cases target with
  | snake => exact absurd rfl ht
  | pascal => exact camel_to_pascal hc
  | camel => exact (camel_to_camel hc).trans (lower_all_other hs)

end Leaving

end SchemaTypes.Case
