import SchemaTypes.Proofs.Name.Boundaries

/-!
# What conversion keeps of a name

Conversion raises and lowers letters and moves underscores, and it does nothing else to a name:
without its underscores and in small letters the name is the same as before. Underscores go only
when a name leaves snake case, and they come only when it enters snake case, one for each capital
but a leading one.
-/

set_option autoImplicit false

namespace SchemaTypes.Case

/-- A name without its underscores, in small letters. -/
def content (cs : List Char) : List Char := lowerAll (cs.filter (· != '_'))

def SameLetter (c d : Char) : Prop :=
  c = d ∨ c.isAlpha = true ∧ d.isAlpha = true ∧ c.toLower = d.toLower

theorem not_upper_of_not_alpha {c : Char} (h : c.isAlpha = false) : ¬ c.isUpper = true := by
  simp only [Char.isAlpha, Bool.or_eq_false_iff] at h
  simp [h.1]

theorem lower_eq_iff {d : Char} (hd : d.isAlpha = false) (c : Char) : c.toLower = d ↔ c = d := by
  constructor
  · intro h
    have ha : c.isAlpha = false := by
      rw [← Char.isLower_toLower_eq_isAlpha, h]
      simp only [Char.isAlpha, Bool.or_eq_false_iff] at hd
      exact hd.2
    rwa [Char.toLower_eq_of_not_isUpper (not_upper_of_not_alpha ha)] at h
  · rintro rfl
    exact Char.toLower_eq_of_not_isUpper (not_upper_of_not_alpha hd)

theorem lower_eq_underscore_iff (c : Char) : c.toLower = '_' ↔ c = '_' :=
  lower_eq_iff (by decide) c

theorem same_letter_of_lower {c d : Char} (h : c.toLower = d.toLower) : SameLetter c d := by
  have ha : c.isAlpha = d.isAlpha := by
    rw [← Char.isLower_toLower_eq_isAlpha, h, Char.isLower_toLower_eq_isAlpha]
  cases hc : c.isAlpha with
  | true => exact Or.inr ⟨hc, ha ▸ hc, h⟩
  | false =>
    have hd : d.isAlpha = false := ha ▸ hc
    rw [Char.toLower_eq_of_not_isUpper (not_upper_of_not_alpha hc),
      Char.toLower_eq_of_not_isUpper (not_upper_of_not_alpha hd)] at h
    exact Or.inl h

theorem letters_of_lower {cs ds : List Char} (h : lowerAll cs = lowerAll ds) :
    List.Forall₂ SameLetter cs ds := by
  rw [lowerAll, lowerAll, ← List.forall₂_eq_eq_eq, List.forall₂_map_left_iff,
    List.forall₂_map_right_iff] at h
  exact h.imp fun _ _ => same_letter_of_lower

theorem lower_all_append (cs ds : List Char) :
    lowerAll (cs ++ ds) = lowerAll cs ++ lowerAll ds := by
  simp [lowerAll]

theorem content_append (cs ds : List Char) : content (cs ++ ds) = content cs ++ content ds := by
  simp [content, lower_all_append]

theorem content_lowered (cs : List Char) : content cs = (lowerAll cs).filter (· != '_') := by
  have hp : ((· != '_') ∘ Char.toLower) = (· != '_') := by
    funext c
    rw [Function.comp_apply, Bool.eq_iff_iff]
    simp [lower_eq_underscore_iff]
  rw [content, lowerAll, lowerAll, List.filter_map, hp]

theorem content_of_lower {cs ds : List Char} (h : lowerAll cs = lowerAll ds) :
    content cs = content ds := by
  rw [content_lowered, h, content_lowered]

theorem lower_all_twice (cs : List Char) : lowerAll (lowerAll cs) = lowerAll cs := by
  simp [lowerAll]

theorem lower_first_lowered (cs : List Char) : lowerAll (lowerFirst cs) = lowerAll cs := by
  cases cs <;> simp [lowerAll, lowerFirst]

theorem capitalize_lowered (cs : List Char) : lowerAll (capitalize cs) = lowerAll cs := by
  cases cs <;> simp [lowerAll, capitalize]

theorem join_underscores_content (raise : Bool) (cs : List Char) :
    content (joinUnderscores raise cs) = content cs := by
  induction cs generalizing raise with
  | nil => rfl
  | cons c cs ih =>
    by_cases hc : c = '_'
    · subst hc
      rw [join_underscores_dropped, ih]
      rfl
    · have hr : content [if raise then c.toUpper else c] = content [c] := by
        refine content_of_lower ?_
        cases raise <;> simp [lowerAll]
      have hj : joinUnderscores raise (c :: cs) =
          [if raise then c.toUpper else c] ++ joinUnderscores false cs := by
        simp [joinUnderscores, hc]
      rw [hj, content_append, hr, ih, ← content_append]
      rfl

theorem join_underscores_sublist (raise : Bool) (cs : List Char) :
    (lowerAll (joinUnderscores raise cs)).Sublist (lowerAll cs) := by
  induction cs generalizing raise with
  | nil => exact List.Sublist.refl _
  | cons c cs ih =>
    by_cases hc : c = '_'
    · subst hc
      rw [join_underscores_dropped]
      exact (ih true).cons _
    · have hl : (if raise then c.toUpper else c).toLower = c.toLower := by
        cases raise <;> simp
      simpa [joinUnderscores, hc, lowerAll, hl] using (ih false).cons_cons c.toLower

theorem snake_chars_content (c : Char) : content (snakeChars c) = content [c] := by
  by_cases hc : c.isUpper = true
  · have hs : snakeChars c = ['_'] ++ [c.toLower] := by simp [snakeChars, hc]
    rw [hs, content_append]
    exact content_of_lower (lower_all_twice [c])
  · simp [snakeChars, hc]

theorem snake_chars_sublist (c : Char) : (lowerAll [c]).Sublist (lowerAll (snakeChars c)) := by
  by_cases hc : c.isUpper = true <;> simp [snakeChars, hc, lowerAll]

theorem snake_chars_count (c : Char) :
    (snakeChars c).count '_' = [c].count '_' + [c].countP Char.isUpper := by
  by_cases hc : c.isUpper = true
  · have hn : c ≠ '_' := by
      rintro rfl
      exact absurd hc (by decide)
    simp [snakeChars, hc, hn, lower_eq_underscore_iff]
  · simp [snakeChars, hc]

theorem underscored_content (cs : List Char) : content (underscored cs) = content cs := by
  rw [underscored_pass]
  induction cs with
  | nil => rfl
  | cons c cs ih =>
    rw [List.flatMap_cons, content_append, snake_chars_content, ih, ← content_append]
    rfl

theorem underscored_sublist (cs : List Char) :
    (lowerAll cs).Sublist (lowerAll (underscored cs)) := by
  rw [underscored_pass]
  induction cs with
  | nil => exact List.Sublist.refl _
  | cons c cs ih =>
    rw [List.flatMap_cons, lower_all_append]
    exact (snake_chars_sublist c).append ih

theorem underscored_count (cs : List Char) :
    (underscored cs).count '_' = cs.count '_' + cs.countP Char.isUpper := by
  rw [underscored_pass]
  induction cs with
  | nil => rfl
  | cons c cs ih =>
    have hc : c :: cs = [c] ++ cs := rfl
    rw [List.flatMap_cons, List.count_append, ih, snake_chars_count, hc, List.count_append,
      List.countP_append]
    omega

/-- The part of a name in which every capital starts a word: all of it, except that the leading
capital of pascal case starts the name. -/
def afterStart (cs : List Char) : List Char :=
  if ofChars cs = .pascal then cs.tail else cs

/-- What a conversion to a convention keeps of a name, and what it does to its underscores. -/
structure Keeps (target : Case) (cs out : List Char) : Prop where
  kept : content out = content cs
  letters : List.Forall₂ SameLetter (out.filter (· != '_')) (cs.filter (· != '_'))
  none_removed : ¬ (ofChars cs = .snake ∧ target ≠ .snake) →
    (lowerAll cs).Sublist (lowerAll out)
  none_added : ¬ (ofChars cs ≠ .snake ∧ target = .snake) →
    (lowerAll out).Sublist (lowerAll cs)
  one_per_capital : ofChars cs ≠ .snake → target = .snake →
    out.count '_' = cs.count '_' + (afterStart cs).countP Char.isUpper

section Keeps
variable {target : Case} {cs out : List Char}

theorem Keeps.of_lower (hs : ofChars cs = .snake ↔ target = .snake)
    (h : lowerAll out = lowerAll cs) : Keeps target cs out where
  kept := content_of_lower h
  letters := letters_of_lower (content_of_lower h)
  none_removed _ := by rw [h]
  none_added _ := by rw [h]
  one_per_capital hn ht := absurd (hs.mpr ht) hn

theorem Keeps.leaving_snake (hc : ofChars cs = .snake) (ht : target ≠ .snake)
    (h : lowerAll out = lowerAll (joinUnderscores false (lowerAll cs))) :
    Keeps target cs out := by
  have hk : content out = content cs := by
    rw [content_of_lower h, join_underscores_content, content_of_lower (lower_all_twice cs)]
  refine ⟨hk, letters_of_lower hk, fun hn => absurd ⟨hc, ht⟩ hn, fun _ => ?_, ?_⟩
  · have hj := join_underscores_sublist false (lowerAll cs)
    rwa [← h, lower_all_twice] at hj
  · exact fun hn => absurd hc hn

theorem Keeps.entering_snake {word : List Char} (hc : ofChars cs ≠ .snake)
    (hw : lowerAll word = lowerAll cs) (hn : word.count '_' = cs.count '_')
    (hu : word.countP Char.isUpper = (afterStart cs).countP Char.isUpper) :
    Keeps .snake cs (underscored word) := by
  have hk : content (underscored word) = content cs := by
    rw [underscored_content, content_of_lower hw]
  refine ⟨hk, letters_of_lower hk, fun _ => ?_, fun hn => absurd ⟨hc, rfl⟩ hn, fun _ _ => ?_⟩
  · rw [← hw]
    exact underscored_sublist word
  · rw [underscored_count, hn, hu]

end Keeps

theorem respell_keeps (target : Case) (cs : List Char) :
    Keeps target cs (respell (ofChars cs) target cs) := by
  cases hs : ofChars cs with
  | snake =>
    cases target with
    | snake => exact .of_lower (by simp [hs]) rfl
    | camel => exact .leaving_snake hs (by simp) rfl
    | pascal => exact .leaving_snake hs (by simp) (capitalize_lowered _)
  | camel =>
    cases target with
    | snake => exact .entering_snake (by simp [hs]) rfl rfl (by simp [afterStart, hs])
    | camel => exact .of_lower (by simp [hs]) (lower_all_twice cs)
    | pascal => exact .of_lower (by simp [hs]) (capitalize_lowered cs)
  | pascal =>
    cases target with
    | camel => exact .of_lower (by simp [hs]) (lower_first_lowered cs)
    | pascal => exact .of_lower (by simp [hs]) (lower_first_lowered cs)
    | snake =>
      cases cs with
      | nil => exact absurd hs (by decide)
      | cons c rest =>
        refine .entering_snake (by simp [hs]) (lower_first_lowered _) ?_ ?_
        · simp [lowerFirst, List.count_cons, lower_eq_underscore_iff]
        · simp [lowerFirst, afterStart, hs]

theorem mem_content_iff {d : Char} (hd : d.isAlpha = false) (hu : d ≠ '_') (cs : List Char) :
    d ∈ content cs ↔ d ∈ cs := by
  simp [content, lowerAll, lower_eq_iff hd, hu]

theorem mem_convert_iff {d : Char} (hd : d.isAlpha = false) (hu : d ≠ '_') (target : Case)
    (name : String) : d ∈ (target.convert name).toList ↔ d ∈ name.toList := by
  have hk : content (target.convert name).toList = content name.toList := by
    rw [convert, String.toList_ofList]
    exact (respell_keeps target name.toList).kept
  rw [← mem_content_iff hd hu, hk, mem_content_iff hd hu]

/-- Conversion to any convention keeps every character of a name but its underscores, in its place
and up to the case of the letters `A` to `Z`. Underscores are removed only from a name in snake
case, by a conversion to another convention. They are added only to a name in another convention,
by a conversion to snake case, and then there is one more for each capital, the first letter of
pascal case left out. A conversion for declarations does the same for the convention it aims at. -/
theorem conversion_keeps_content (target : Case) (name : String) :
    Keeps target name.toList (target.convert name).toList ∧
      Keeps (raised target (infer name)) name.toList (target.convertUp name).toList := by
  simp only [convert, convertUp, String.toList_ofList]
  exact ⟨respell_keeps target name.toList, respell_keeps (raised target (infer name)) name.toList⟩

example : Case.camel.convert "Line__2_É_" = "line2É" := by decide +kernel

end SchemaTypes.Case
