import SchemaTypes.Proofs.Name.Inference

/-!
# Names that are identifiers

Letters `A` to `Z` in both cases, digits, underscores and dollar signs make an identifier unless a
digit comes first. Conversion to another convention recases letters and moves underscores that are
not in front, so it leads from identifiers to identifiers and to them from nothing else.
-/

set_option autoImplicit false

namespace SchemaTypes.Case

def startsIdentifier (c : Char) : Bool := c.isAlpha || c == '_' || c == '$'

def inIdentifier (c : Char) : Bool := startsIdentifier c || c.isDigit

def IsIdentifier : List Char → Prop
  | [] => False
  | c :: cs => startsIdentifier c = true ∧ ∀ d ∈ cs, inIdentifier d = true

instance decidableIsIdentifier : DecidablePred IsIdentifier
  | [] => isFalse id
  | c :: cs =>
    have := List.decidableBAll (inIdentifier · = true) cs
    inferInstanceAs (Decidable (startsIdentifier c = true ∧ ∀ d ∈ cs, inIdentifier d = true))

theorem identifier_iff (cs : List Char) :
    IsIdentifier cs ↔
      cs.head?.any startsIdentifier = true ∧ ∀ d ∈ cs, inIdentifier d = true := by
  cases cs with
  | nil => simp [IsIdentifier]
  | cons c cs =>
    have hc : startsIdentifier c = true → inIdentifier c = true := fun h => by
      simp [inIdentifier, h]
    simp only [IsIdentifier, List.head?_cons, Option.any_some, List.forall_mem_cons]
    exact ⟨fun h => ⟨h.1, hc h.1, h.2⟩, fun h => ⟨h.1, h.2.2⟩⟩

/-! ## The characters of a converted name -/

section SameLetter
variable {c d : Char} {cs ds : List Char}

theorem SameLetter.starts (h : SameLetter c d) : startsIdentifier c = startsIdentifier d := by
  rcases h with rfl | ⟨hc, hd, -⟩
  · rfl
  · simp [startsIdentifier, hc, hd]

theorem SameLetter.inside (h : SameLetter c d) : inIdentifier c = inIdentifier d := by
  rcases h with rfl | ⟨hc, hd, -⟩
  · rfl
  · simp [inIdentifier, startsIdentifier, hc, hd]

theorem inside_of_letters (h : List.Forall₂ SameLetter cs ds) :
    (∀ c ∈ cs, inIdentifier c = true) ↔ ∀ d ∈ ds, inIdentifier d = true := by
  induction h with
  | nil => simp
  | cons hc _ ih => rw [List.forall_mem_cons, List.forall_mem_cons, hc.inside, ih]

end SameLetter

theorem inside_plain_iff (cs : List Char) :
    (∀ c ∈ cs.filter (· != '_'), inIdentifier c = true) ↔ ∀ c ∈ cs, inIdentifier c = true := by
  have hu : inIdentifier '_' = true := by decide
  constructor
  · intro h c hc
    by_cases hn : c = '_'
    · rw [hn, hu]
    · exact h c (List.mem_filter.mpr ⟨hc, by simp [hn]⟩)
  · exact fun h c hc => h c (List.mem_filter.mp hc).1

theorem converted_inside_iff (target : Case) (cs : List Char) :
    (∀ c ∈ convertChars target cs, inIdentifier c = true) ↔ ∀ c ∈ cs, inIdentifier c = true := by
  rw [convertChars, ← inside_plain_iff, inside_of_letters (respell_keeps target cs).letters,
    inside_plain_iff]

/-! ## The first character of a converted name -/

theorem converted_lowered {target : Case} {cs : List Char} (hn : ofChars cs ≠ .snake)
    (ht : target ≠ .snake) : lowerAll (convertChars target cs) = lowerAll cs :=
  ((respell_keeps target cs).none_added fun h => ht h.2).antisymm
    ((respell_keeps target cs).none_removed fun h => hn h.1)

theorem first_of_lower {cs ds : List Char} (h : lowerAll cs = lowerAll ds) :
    cs.head?.map Char.toLower = ds.head?.map Char.toLower := by
  rw [← List.head?_map, ← List.head?_map]
  exact congrArg List.head? h

/-- Whatever the target, a name keeps its first character up to the case of a letter: the first
underscore of a name in snake case is not in front, and none is put in front. -/
theorem first_kept (target : Case) (cs : List Char) :
    (convertChars target cs).head?.map Char.toLower = cs.head?.map Char.toLower := by
  by_cases hs : ofChars cs = .snake
  · by_cases ht : target = .snake
    · rw [ht, snake_to_snake hs]
    · rw [leaving_snake ht hs, first_of_lower (started_lowered target _)]
      cases cs with
      | nil => rfl
      | cons c cs =>
        have hc : c.toLower ≠ '_' :=
          fun h => ((snake_iff c cs).mp hs).1 ((lower_eq_underscore_iff c).mp h)
        simp [lowerAll, joinUnderscores, hc]
  · by_cases ht : target = .snake
    · rw [ht, entering_snake hs]
      cases cs with
      | nil => rfl
      | cons c cs => simp [lowerFirst, underscored_other]
    · exact first_of_lower (converted_lowered hs ht)

theorem first_starts (target : Case) (cs : List Char) :
    (convertChars target cs).head?.any startsIdentifier = cs.head?.any startsIdentifier := by
  have hl : startsIdentifier = fun c => startsIdentifier c.toLower := by
    funext c
    exact (same_letter_of_lower (by simp)).starts
  rw [hl, ← Option.any_map, first_kept, Option.any_map]

theorem identifier_converted_iff (target : Case) (cs : List Char) :
    IsIdentifier (convertChars target cs) ↔ IsIdentifier cs := by
  rw [identifier_iff, identifier_iff, first_starts, converted_inside_iff]

theorem identifier_convert_iff (target : Case) (name : String) :
    IsIdentifier (target.convert name).toList ↔ IsIdentifier name.toList := by
  rw [convert_chars, identifier_converted_iff]

theorem convert_up_chars (target : Case) (name : String) :
    (target.convertUp name).toList =
      convertChars (raised target (infer name)) name.toList := by
  rw [convertUp, String.toList_ofList]
  rfl

theorem identifier_convert_up_iff (target : Case) (name : String) :
    IsIdentifier (target.convertUp name).toList ↔ IsIdentifier name.toList := by
  rw [convert_up_chars, identifier_converted_iff]

end SchemaTypes.Case
