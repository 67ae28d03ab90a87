import SchemaTypes.Proofs.Name.RoundTrips

/-!
# Conversions to one convention, repeated

Snake case is reached in one step and kept. Camel case is taken for camel case the second time
and then loses its inner capitals, so it is kept from the second step on. Pascal case raises the
first letter and lowers it again by turns, unless a name in snake case is put together first.
-/

set_option autoImplicit false

namespace SchemaTypes.Case

theorem lower_all_fixed_iff (cs : List Char) :
    lowerAll cs = cs ↔ ∀ c ∈ cs, c.isUpper = false := by
  constructor
  · intro h
    rw [← h]
    simp [lowerAll]
  · exact lower_all_other

theorem snake_of_small {cs : List Char} (hs : ∀ c ∈ cs, c.isUpper = false) :
    convertChars .snake cs = cs := by
  by_cases hc : ofChars cs = .snake
  · exact snake_to_snake hc
  · rw [entering_snake hc, lower_first_small (small_starts_small hs), underscored_of_small hs]

theorem snake_twice (cs : List Char) :
    convertChars .snake (convertChars .snake cs) = convertChars .snake cs := by
  by_cases hc : ofChars cs = .snake
  · rw [snake_to_snake hc, snake_to_snake hc]
  · rw [entering_snake hc]
    exact snake_of_small (underscored_small _)

theorem camel_inferred_again (cs : List Char) : ofChars (convertChars .camel cs) = .camel := by
  have ht : Case.camel ≠ .snake := by decide
  cases hc : ofChars cs with
  | snake =>
    rw [camel_iff]
    refine ⟨plain_not_snake (leaving_snake_plain ht hc), ?_⟩
    rw [leaving_snake ht hc]
    exact joined_starts_small hc
  | pascal =>
    rw [leaving_pascal ht hc]
    exact lower_first_camel ((pascal_iff cs).mp hc).1
  | camel =>
    rw [camel_to_camel hc, camel_iff, ne_eq, snake_of_lower (lower_all_twice cs)]
    exact ⟨((camel_iff cs).mp hc).1, small_starts_small (by simp [lowerAll])⟩

theorem camel_twice (cs : List Char) :
    convertChars .camel (convertChars .camel cs) = lowerAll (convertChars .camel cs) :=
  camel_to_camel (camel_inferred_again cs)

theorem camel_thrice (cs : List Char) :
    convertChars .camel (convertChars .camel (convertChars .camel cs)) =
      convertChars .camel (convertChars .camel cs) := by
  rw [camel_twice (convertChars .camel cs), camel_twice, lower_all_twice]

/-- The first letter is raised and lowered by turns; what is no letter stays through both. -/
theorem pascal_twice {cs : List Char} (hn : ofChars cs ≠ .snake) :
    convertChars .pascal (convertChars .pascal cs) = cs := by
  have ht : Case.pascal ≠ .snake := by decide
  cases hc : ofChars cs with
  | snake => exact absurd hc hn
  | pascal =>
    rw [leaving_pascal ht hc, camel_to_pascal (lower_first_camel hn)]
    exact capitalize_lower_first ((pascal_iff cs).mp hc).2
  | camel =>
    have hback : lowerFirst (capitalize cs) = cs :=
      lower_first_started .pascal ((camel_iff cs).mp hc).2
    rw [camel_to_pascal hc]
    cases hd : ofChars (capitalize cs) with
    | snake => exact absurd ((snake_of_lower (capitalize_lowered cs)).mp hd) hn
    | pascal => rw [leaving_pascal ht hd, hback]
    | camel =>
      have hk : capitalize cs = cs := by
        rw [lower_first_small ((camel_iff _).mp hd).2] at hback
        exact hback
      rw [hk, camel_to_pascal hc, hk]

theorem pascal_thrice (cs : List Char) :
    convertChars .pascal (convertChars .pascal (convertChars .pascal cs)) =
      convertChars .pascal cs := by
  by_cases hc : ofChars cs = .snake
  · exact pascal_twice (plain_not_snake (leaving_snake_plain (by decide) hc))
  · rw [pascal_twice hc]

/-- A second conversion to snake case changes nothing, a second one to camel case only takes
capitals away, and a second one to pascal case leads back to every name that is not in snake
case. A third one adds nothing new. -/
theorem repeated_conversion_stabilises (name : String) :
    Case.snake.convert (Case.snake.convert name) = Case.snake.convert name ∧
    Case.camel.convert (Case.camel.convert (Case.camel.convert name)) =
      Case.camel.convert (Case.camel.convert name) ∧
    (Case.camel.convert (Case.camel.convert name) = Case.camel.convert name ↔
      ∀ c ∈ (Case.camel.convert name).toList, c.isUpper = false) ∧
    (infer name = .camel → ∀ c ∈ (Case.camel.convert name).toList, c.isUpper = false) ∧
    (infer name ≠ .snake → Case.pascal.convert (Case.pascal.convert name) = name) ∧
    Case.pascal.convert (Case.pascal.convert (Case.pascal.convert name)) =
      Case.pascal.convert name := by
  simp only [← String.toList_inj, convert_chars]
  refine ⟨snake_twice _, camel_thrice _, ?_, ?_, fun hn => pascal_twice hn, pascal_thrice _⟩
  · rw [camel_twice, lower_all_fixed_iff]
  · intro hc
    rw [camel_to_camel hc]
    simp [lowerAll]

theorem user_names_stabilise :
    (infer "userId" = .camel ∧
      ∀ c ∈ (Case.camel.convert "userId").toList, c.isUpper = false) ∧
    (infer "UserId" ≠ .snake ∧
      Case.pascal.convert (Case.pascal.convert "UserId") = "UserId") ∧
    Case.camel.convert (Case.camel.convert "user_id") ≠ Case.camel.convert "user_id" := by
  have hc : infer "userId" = .camel := by decide +kernel
  have hp : infer "UserId" ≠ .snake := by decide +kernel
  have hi : (Case.camel.convert "user_id").toList = "userId".toList := by decide +kernel
  obtain ⟨-, -, -, hsmall, -⟩ := repeated_conversion_stabilises "userId"
  obtain ⟨-, -, -, -, hback, -⟩ := repeated_conversion_stabilises "UserId"
  obtain ⟨-, -, hkept, -⟩ := repeated_conversion_stabilises "user_id"
  refine ⟨⟨hc, hsmall hc⟩, ⟨hp, hback hp⟩, ?_⟩
  rw [ne_eq, hkept, hi]
  simp

end SchemaTypes.Case
