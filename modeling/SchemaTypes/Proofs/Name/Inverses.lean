import SchemaTypes.Proofs.Name.Content

/-!
# Underscores put in and dropped again

Putting underscores in and dropping them are inverse to each other, each on the names that the
other one gives: dropping finds every capital again in a name that had no underscore, and putting
in finds every underscore again in a name without capitals whose underscores each stand before a
small letter.
-/

set_option autoImplicit false

namespace SchemaTypes.Case

theorem upper_eq_underscore_iff (c : Char) : c.toUpper = '_' ↔ c = '_' := by
  rw [← lower_eq_underscore_iff, Char.toLower_toUpper_eq_toLower, lower_eq_underscore_iff]

theorem upper_lowered {c : Char} (hc : c.isUpper = true) : c.toLower.toUpper = c := by
  rw [Char.toUpper_toLower_eq_toUpper,
    Char.toUpper_eq_of_not_isLower (Char.not_isLower_of_isUpper hc)]

theorem joined_plain (raise : Bool) (cs : List Char) : '_' ∉ joinUnderscores raise cs := by
  induction cs generalizing raise with
  | nil => exact List.not_mem_nil
  | cons c cs ih =>
    by_cases hc : c = '_'
    · subst hc
      rw [join_underscores_dropped]
      exact ih true
    · have hu : c.toUpper ≠ '_' := fun h => hc ((upper_eq_underscore_iff c).mp h)
      cases raise <;> simp [joinUnderscores, hc, ih, Ne.symm hc, Ne.symm hu]

theorem underscored_cons (c : Char) (cs : List Char) :
    underscored (c :: cs) = snakeChars c ++ underscored cs := by
  simp [underscored_pass]

theorem underscored_capital {c : Char} (hc : c.isUpper = true) (cs : List Char) :
    underscored (c :: cs) = '_' :: c.toLower :: underscored cs := by
  simp [underscored_cons, snakeChars, hc]

theorem underscored_other {c : Char} (hc : ¬ c.isUpper = true) (cs : List Char) :
    underscored (c :: cs) = c :: underscored cs := by
  simp [underscored_cons, snakeChars, hc]

theorem underscored_small (cs : List Char) : ∀ c ∈ underscored cs, c.isUpper = false := by
  induction cs with
  | nil => simp [underscored_pass]
  | cons c cs ih =>
    by_cases hc : c.isUpper = true
    · simpa [underscored_capital hc] using ih
    · simpa [underscored_other hc, hc] using ih

theorem joined_underscored {cs : List Char} (hp : '_' ∉ cs) :
    joinUnderscores false (underscored cs) = cs := by
  induction cs with
  | nil => simp [underscored_pass, joinUnderscores]
  | cons c cs ih =>
    obtain ⟨hn, hp⟩ : c ≠ '_' ∧ '_' ∉ cs := by simpa [eq_comm] using hp
    by_cases hc : c.isUpper = true
    · have hl : c.toLower ≠ '_' := fun h => hn ((lower_eq_underscore_iff c).mp h)
      rw [underscored_capital hc, join_underscores_dropped]
      simpa [joinUnderscores, hl, upper_lowered hc] using ih hp
    · rw [underscored_other hc]
      simpa [joinUnderscores, hn] using ih hp

/-- Every underscore is immediately followed by a small letter. -/
def LettersFollow (cs : List Char) : Prop :=
  ∀ rest, '_' :: rest <:+ cs → rest.head?.any Char.isLower = true

theorem letters_follow_cons (c : Char) (cs : List Char) :
    LettersFollow (c :: cs) ↔
      (c = '_' → cs.head?.any Char.isLower = true) ∧ LettersFollow cs := by
  constructor
  · intro h
    refine ⟨?_, fun rest hr => h rest (hr.trans (List.suffix_cons c cs))⟩
    rintro rfl
    exact h cs (List.suffix_refl _)
  · rintro ⟨hc, h⟩ rest hr
    rcases List.suffix_cons_iff.mp hr with he | ht
    · obtain ⟨rfl, rfl⟩ := List.cons_eq_cons.mp he
      exact hc rfl
    · exact h rest ht

theorem letters_follow_nil : LettersFollow [] := by
  intro rest hr
  simp at hr

instance decidableLettersFollow : DecidablePred LettersFollow
  | [] => isTrue letters_follow_nil
  | c :: cs =>
    have := decidableLettersFollow cs
    decidable_of_iff _ (letters_follow_cons c cs).symm

theorem underscored_letters_follow {cs : List Char} (hp : '_' ∉ cs) :
    LettersFollow (underscored cs) := by
  induction cs with
  | nil => exact letters_follow_nil
  | cons c cs ih =>
    obtain ⟨hn, hp⟩ : c ≠ '_' ∧ '_' ∉ cs := by simpa [eq_comm] using hp
    by_cases hc : c.isUpper = true
    · have hl : c.toLower ≠ '_' := fun h => hn ((lower_eq_underscore_iff c).mp h)
      have ha : c.toLower.isLower = true := by simp [Char.isAlpha, hc]
      rw [underscored_capital hc, letters_follow_cons, letters_follow_cons]
      exact ⟨fun _ => ha, fun h => absurd h hl, ih hp⟩
    · rw [underscored_other hc, letters_follow_cons]
      exact ⟨fun h => absurd h hn, ih hp⟩

/-- A name without the underscores that no small letter immediately follows. -/
def withoutIdle : List Char → List Char
  | [] => []
  | c :: cs =>
    if c = '_' ∧ cs.head?.any Char.isLower = false then withoutIdle cs else c :: withoutIdle cs

theorem without_idle_other {c : Char} (hc : c ≠ '_') (cs : List Char) :
    withoutIdle (c :: cs) = c :: withoutIdle cs := by
  simp [withoutIdle, hc]

theorem without_idle_of_letters {cs : List Char} (hl : LettersFollow cs) : withoutIdle cs = cs := by
  induction cs with
  | nil => rfl
  | cons c cs ih =>
    obtain ⟨hc, hcs⟩ := (letters_follow_cons c cs).mp hl
    have hk : ¬ (c = '_' ∧ cs.head?.any Char.isLower = false) := fun h => by
      simp [hc h.1] at h
    rw [withoutIdle, if_neg hk, ih hcs]

/-- An underscore is put back where a letter was raised; `raise` tells, as in the dropping, that one
has just been met and `cs` is what follows it. -/
theorem underscored_joined_after (raise : Bool) {cs : List Char}
    (hs : ∀ c ∈ cs, c.isUpper = false) :
    underscored (joinUnderscores raise cs) =
      if raise = true ∧ cs.head?.any Char.isLower = true then '_' :: withoutIdle cs
      else withoutIdle cs := by
  induction cs generalizing raise with
  | nil => simp [joinUnderscores, withoutIdle, underscored_pass]
  | cons c cs ih =>
    obtain ⟨hc, hcs⟩ : c.isUpper = false ∧ ∀ d ∈ cs, d.isUpper = false := by simpa using hs
    by_cases hn : c = '_'
    · subst hn
      have hu : Char.isLower '_' = false := by decide
      rw [join_underscores_dropped, ih true hcs, withoutIdle]
      cases hf : cs.head?.any Char.isLower <;> simp [hu]
    · have ht := ih false hcs
      rw [without_idle_other hn]
      cases raise with
      | false =>
        have hj : joinUnderscores false (c :: cs) = c :: joinUnderscores false cs := by
          simp [joinUnderscores, hn]
        simp [hj, underscored_other, hc, ht]
      | true =>
        have hj : joinUnderscores true (c :: cs) = c.toUpper :: joinUnderscores false cs := by
          simp [joinUnderscores, hn]
        cases ha : c.isLower with
        | true =>
          have hr : c.toUpper.isUpper = true := by simp [Char.isAlpha, ha]
          have hb : c.toUpper.toLower = c := by
            rw [Char.toLower_toUpper_eq_toLower, Char.toLower_eq_of_not_isUpper (by simp [hc])]
          simp [hj, underscored_capital hr, hb, ht, ha]
        | false =>
          have hb : c.toUpper = c := Char.toUpper_eq_of_not_isLower (by simp [ha])
          simp [hj, hb, underscored_other, hc, ht, ha]

theorem underscored_joined {cs : List Char} (hs : ∀ c ∈ cs, c.isUpper = false) :
    underscored (joinUnderscores false cs) = withoutIdle cs := by
  simp [underscored_joined_after false hs]

theorem underscored_joined_iff (cs : List Char) :
    underscored (joinUnderscores false (lowerAll cs)) = cs ↔
      (∀ c ∈ cs, c.isUpper = false) ∧ LettersFollow cs := by
  constructor
  · intro h
    refine ⟨?_, ?_⟩
    · rw [← h]
      exact underscored_small _
    · rw [← h]
      exact underscored_letters_follow (joined_plain false _)
  · rintro ⟨hs, hl⟩
    rw [lower_all_other hs, underscored_joined hs, without_idle_of_letters hl]

end SchemaTypes.Case
