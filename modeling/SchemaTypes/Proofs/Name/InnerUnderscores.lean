import SchemaTypes.Proofs.Name.Identifiers

/-!
# Inner underscores

An inner underscore has characters on both sides. Snake case is inferred from it, and a conversion
to camel or pascal case removes it, wherever it stands and whatever the other characters are. One
thing is in the way: a name that starts with an underscore is never taken for snake case, so that
its inner underscores are not seen and stay where they are.
-/

set_option autoImplicit false

namespace SchemaTypes.Case

def HasInner (cs : List Char) : Prop :=
  ∃ front back, front ≠ [] ∧ back ≠ [] ∧ cs = front ++ '_' :: back

theorem HasInner.mem {cs : List Char} (h : HasInner cs) : '_' ∈ cs := by
  obtain ⟨front, back, -, -, rfl⟩ := h
  simp

theorem inner_cons_iff (c : Char) (cs : List Char) : HasInner (c :: cs) ↔ '_' ∈ cs.dropLast := by
  constructor
  · rintro ⟨front, back, hf, hb, h⟩
    cases front with
    | nil => exact absurd rfl hf
    | cons d front =>
      have hcs : cs = front ++ '_' :: back := (List.cons_eq_cons.mp h).2
      rw [hcs, List.dropLast_append_of_ne_nil (by simp), List.dropLast_cons_of_ne_nil hb]
      simp
  · intro h
    obtain ⟨front, back, hd⟩ := List.append_of_mem h
    have hne : cs ≠ [] := List.ne_nil_of_mem (List.mem_of_mem_dropLast h)
    refine ⟨c :: front, back ++ [cs.getLast hne], by simp, by simp, ?_⟩
    conv_lhs => rw [← List.dropLast_append_getLast hne, hd]
    simp

instance decidableHasInner : DecidablePred HasInner
  | [] => isFalse fun h => absurd h.mem (by simp)
  | c :: cs => decidable_of_iff _ (inner_cons_iff c cs).symm

theorem inner_lowered_iff (cs : List Char) : HasInner (lowerAll cs) ↔ HasInner cs := by
  cases cs with
  | nil => rfl
  | cons c cs =>
    have hd : (lowerAll cs).dropLast = lowerAll cs.dropLast := List.map_dropLast.symm
    have hl : lowerAll (c :: cs) = c.toLower :: lowerAll cs := rfl
    rw [hl, inner_cons_iff, inner_cons_iff, hd, mem_lowered_iff]

theorem inferred_snake_iff (cs : List Char) :
    ofChars cs = .snake ↔ HasInner cs ∧ cs.head? ≠ some '_' := by
  cases cs with
  | nil => decide
  | cons c cs => simp [snake_iff, inner_cons_iff, and_comm]

/-- The leading capital of pascal case is no underscore, so nothing hides an inner one here. -/
theorem inferred_pascal_iff (cs : List Char) :
    ofChars cs = .pascal ↔ ¬ HasInner cs ∧ cs.head?.any Char.isUpper = true := by
  cases cs with
  | nil => decide
  | cons c cs =>
    have hc : c.isUpper = true → c ≠ '_' := by
      rintro hu rfl
      exact absurd hu (by decide)
    rw [pascal_iff, ne_eq, inferred_snake_iff]
    simp only [startsCapital, List.head?_cons, Option.any_some, ne_eq, Option.some.injEq, not_and,
      not_not]
    exact ⟨fun h => ⟨fun hi => hc h.2 (h.1 hi), h.2⟩, fun h => ⟨fun hi => absurd hi h.1, h.2⟩⟩

theorem converted_inner_iff {target : Case} (ht : target ≠ .snake) (cs : List Char) :
    HasInner (convertChars target cs) ↔ HasInner cs ∧ cs.head? = some '_' := by
  by_cases hs : ofChars cs = .snake
  · have hp : '_' ∉ convertChars target cs := leaving_snake_plain ht hs
    have hh : cs.head? ≠ some '_' := ((inferred_snake_iff cs).mp hs).2
    exact iff_of_false (fun h => hp h.mem) fun h => hh h.2
  · rw [← inner_lowered_iff, converted_lowered hs ht, inner_lowered_iff]
    rw [inferred_snake_iff, not_and, not_not] at hs
    exact ⟨fun h => ⟨h, hs h⟩, And.left⟩

/-- A name is taken for snake case exactly if it has an inner underscore and does not start with an
underscore, and for pascal case exactly if it has no inner underscore and starts with a capital.
Converted to camel or pascal case it has an inner underscore exactly if it had one before and
started with an underscore. -/
theorem inner_underscores_seen_iff (name : String) :
    (infer name = .snake ↔ HasInner name.toList ∧ name.toList.head? ≠ some '_') ∧
    (infer name = .pascal ↔
      ¬ HasInner name.toList ∧ name.toList.head?.any Char.isUpper = true) ∧
    ∀ target : Case, target ≠ .snake →
      (HasInner (target.convert name).toList ↔
        HasInner name.toList ∧ name.toList.head? = some '_') := by
  refine ⟨inferred_snake_iff _, inferred_pascal_iff _, fun target ht => ?_⟩
  rw [convert_chars]
  exact converted_inner_iff ht _

theorem trailing_underscore_seen :
    HasInner "größe_2_".toList ∧ infer "größe_2_" = .snake ∧ Case.pascal ≠ .snake ∧
      ¬ HasInner (Case.pascal.convert "größe_2_").toList := by
  obtain ⟨hs, -, hc⟩ := inner_underscores_seen_iff "größe_2_"
  have hi : HasInner "größe_2_".toList := by decide
  have hh : "größe_2_".toList.head? ≠ some '_' := by decide
  exact ⟨hi, hs.mpr ⟨hi, hh⟩, by decide, fun h => hh ((hc .pascal (by decide)).mp h).2⟩

theorem leading_underscore_hides :
    HasInner "_user_id".toList ∧ infer "_user_id" = .camel ∧
      HasInner (Case.camel.convert "_user_id").toList ∧
      HasInner (Case.pascal.convert "_user_id").toList := by
  decide +kernel

end SchemaTypes.Case
