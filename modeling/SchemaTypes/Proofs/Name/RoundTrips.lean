import SchemaTypes.Proofs.Name.Inference

/-!
# Names that come back from another convention

Which names of a convention are the same again after a conversion to another convention and back.
From camel and from pascal case it is those that do not use both ways of marking a boundary,
underscores and inner capitals; from snake case it is those without capitals in which every
underscore raises a letter. Every step infers the convention anew, so each theorem is about what
the name in the middle is taken for.
-/

set_option autoImplicit false

namespace SchemaTypes.Case

/-! ## From snake case -/

theorem snake_returns_iff {target : Case} (ht : target ≠ .snake) {name : String}
    (hc : infer name = .snake) :
    Case.snake.convert (target.convert name) = name ↔
      (∀ c ∈ name.toList, c.isUpper = false) ∧ LettersFollow name.toList := by
  have hn := plain_not_snake (leaving_snake_plain ht hc)
  rw [← String.toList_inj, convert_chars, convert_chars, entering_snake hn, leaving_snake ht hc,
    lower_first_started target (joined_starts_small hc), underscored_joined_iff]

/-- A name in snake case comes back from camel and from pascal case exactly if it has no capital
and a small letter follows each of its underscores. No two such names are converted to the same
one. -/
theorem snake_round_trip {target : Case} (ht : target ≠ .snake) :
    (∀ name, infer name = .snake →
      (Case.snake.convert (target.convert name) = name ↔
        (∀ c ∈ name.toList, c.isUpper = false) ∧ LettersFollow name.toList)) ∧
    Set.InjOn target.convert
      {name | infer name = .snake ∧ (∀ c ∈ name.toList, c.isUpper = false) ∧
        LettersFollow name.toList} := by
  refine ⟨fun name hn => snake_returns_iff ht hn, ?_⟩
  intro name hn other ho he
  have hback := (snake_returns_iff ht hn.1).mpr hn.2
  have hother := (snake_returns_iff ht ho.1).mpr ho.2
  rw [he] at hback
  exact hback.symm.trans hother

theorem snake_names_return :
    Case.pascal ≠ .snake ∧
      (infer "ship_to_e2" = .snake ∧
        Case.snake.convert (Case.pascal.convert "ship_to_e2") = "ship_to_e2") ∧
      (infer "ship_to_é2" = .snake ∧
        Case.snake.convert (Case.pascal.convert "ship_to_é2") ≠ "ship_to_é2") := by
  have hp : Case.pascal ≠ .snake := by decide
  have he : infer "ship_to_e2" = .snake := by decide +kernel
  have ha : infer "ship_to_é2" = .snake := by decide +kernel
  have hf : ¬ LettersFollow "ship_to_é2".toList := by decide
  exact ⟨hp, ⟨he, ((snake_round_trip hp).1 _ he).mpr ⟨by simp, by decide⟩⟩,
    ha, fun h => hf (((snake_round_trip hp).1 _ ha).mp h).2⟩

/-! ## From camel and pascal case -/

theorem underscored_of_small {cs : List Char} (hs : ∀ c ∈ cs, c.isUpper = false) :
    underscored cs = cs := by
  rw [underscored_pass, snake_chars_other hs]

theorem underscore_inside {cs : List Char} (hc : ∃ c ∈ cs, c.isUpper = true) :
    '_' ∈ (underscored cs).dropLast := by
  induction cs with
  | nil => simp at hc
  | cons c cs ih =>
    by_cases hu : c.isUpper = true
    · simp [underscored_capital hu]
    · have ht := ih (by simpa [hu] using hc)
      rw [underscored_other hu, List.dropLast_cons_of_ne_nil]
      · exact List.mem_cons_of_mem c ht
      · intro he
        simp [he] at ht

theorem capitals_make_snake {cs : List Char} (hs : startsCapital cs = false) (hp : '_' ∉ cs)
    (hc : ∃ c ∈ cs, c.isUpper = true) : ofChars (underscored cs) = .snake := by
  cases cs with
  | nil => simp at hc
  | cons c cs =>
    have hu : c.isUpper = false := hs
    rw [underscored_other (by simp [hu]), snake_iff]
    refine ⟨?_, underscore_inside (by simpa [hu] using hc)⟩
    rintro rfl
    simp at hp

section Middle
variable {target : Case} {cs : List Char}

theorem underscored_returns (ht : target ≠ .snake) (hc : ofChars cs = .camel)
    (h : '_' ∉ cs ∨ ∀ c ∈ cs, c.isUpper = false) :
    convertChars target (underscored cs) = started target cs := by
  by_cases hs : ∀ c ∈ cs, c.isUpper = false
  · rw [underscored_of_small hs]
    exact camel_small_started ht hc hs
  · have hp := h.resolve_right hs
    have hm := capitals_make_snake ((camel_iff cs).mp hc).2 hp (by simpa using hs)
    rw [leaving_snake ht hm, lower_all_other (underscored_small cs), joined_underscored hp]

/-- In the middle the name has no capital. Taken for snake case there, it has no underscore at the
end, and taken for camel case it gets no capital back. -/
theorem unmixed_of_returned (ht : target ≠ .snake) (hc : ofChars cs = .camel)
    (h : convertChars target (underscored cs) = started target cs) :
    '_' ∉ cs ∨ ∀ c ∈ cs, c.isUpper = false := by
  have hu := underscored_small cs
  cases hm : ofChars (underscored cs) with
  | snake =>
    left
    rw [← mem_of_lower (started_lowered target cs), ← h]
    exact leaving_snake_plain ht hm
  | pascal => exact absurd hm (small_not_pascal hu)
  | camel =>
    right
    rw [camel_small_started ht hm hu] at h
    have he := congrArg lowerFirst h
    rw [lower_first_started target (small_starts_small hu),
      lower_first_started target ((camel_iff cs).mp hc).2] at he
    rwa [he] at hu

theorem underscored_returns_iff (ht : target ≠ .snake) (hc : ofChars cs = .camel) :
    convertChars target (underscored cs) = started target cs ↔
      '_' ∉ cs ∨ ∀ c ∈ cs, c.isUpper = false :=
  ⟨unmixed_of_returned ht hc, underscored_returns ht hc⟩

end Middle

/-- A name in camel case comes back from snake case exactly if it has no underscore or no
capital. -/
theorem camel_round_trip {name : String} (hc : infer name = .camel) :
    Case.camel.convert (Case.snake.convert name) = name ↔
      '_' ∉ name.toList ∨ ∀ c ∈ name.toList, c.isUpper = false := by
  have hi := (camel_iff name.toList).mp hc
  rw [← String.toList_inj, convert_chars, convert_chars, entering_snake hi.1,
    lower_first_small hi.2]
  exact underscored_returns_iff (by decide) hc

theorem camel_names_return :
    (infer "éX2Id" = .camel ∧ Case.camel.convert (Case.snake.convert "éX2Id") = "éX2Id") ∧
      (infer "_user_id" = .camel ∧
        Case.camel.convert (Case.snake.convert "_user_id") = "_user_id") ∧
      (infer "userId_" = .camel ∧
        Case.camel.convert (Case.snake.convert "userId_") ≠ "userId_") := by
  have hx : infer "éX2Id" = .camel := by decide +kernel
  have hu : infer "_user_id" = .camel := by decide +kernel
  have hi : infer "userId_" = .camel := by decide +kernel
  exact ⟨⟨hx, (camel_round_trip hx).mpr (.inl (by simp))⟩,
    ⟨hu, (camel_round_trip hu).mpr (.inr (by simp))⟩,
    hi, (camel_round_trip hi).not.mpr (by simp)⟩

/-- A name in pascal case comes back from camel case by way of snake case exactly if it has no
underscore or no capital after its first character. -/
theorem pascal_round_trip {name : String} (hc : infer name = .pascal) :
    Case.pascal.convert (Case.snake.convert (Case.pascal.convert name)) = name ↔
      '_' ∉ name.toList ∨ ∀ c ∈ name.toList.tail, c.isUpper = false := by
  have hi := (pascal_iff name.toList).mp hc
  have hl := lower_first_camel hi.1
  have hp : Case.pascal ≠ .snake := by decide
  have hs : started .pascal (lowerFirst name.toList) = name.toList :=
    capitalize_lower_first hi.2
  have hr := underscored_returns_iff hp hl
  rw [hs, mem_of_lower (lower_first_lowered _), small_lower_first_iff] at hr
  rw [← String.toList_inj, convert_chars, convert_chars, convert_chars, leaving_pascal hp hc,
    entering_snake ((camel_iff _).mp hl).1, lower_first_small (starts_lower_first _), hr]

theorem pascal_names_return :
    (infer "HTTP2É" = .pascal ∧
        Case.pascal.convert (Case.snake.convert (Case.pascal.convert "HTTP2É")) = "HTTP2É") ∧
      (infer "User_" = .pascal ∧
        Case.pascal.convert (Case.snake.convert (Case.pascal.convert "User_")) = "User_") ∧
      (infer "UserId_" = .pascal ∧
        Case.pascal.convert (Case.snake.convert (Case.pascal.convert "UserId_")) ≠ "UserId_") := by
  have hx : infer "HTTP2É" = .pascal := by decide +kernel
  have hu : infer "User_" = .pascal := by decide +kernel
  have hi : infer "UserId_" = .pascal := by decide +kernel
  exact ⟨⟨hx, (pascal_round_trip hx).mpr (.inl (by simp))⟩,
    ⟨hu, (pascal_round_trip hu).mpr (.inr (by simp))⟩,
    hi, (pascal_round_trip hi).not.mpr (by simp)⟩

end SchemaTypes.Case
