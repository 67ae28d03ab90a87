import SchemaTypes.Proofs.Name.Inverses

/-!
# Joining by pieces

Underscores cut a name into pieces, empty ones among them where an underscore stands at an end or
beside another. Dropping the underscores with a flag that raises the next character puts the pieces
together again, each but the first with its first character raised.
-/

set_option autoImplicit false

namespace SchemaTypes.Case

section Pieces
variable {c : Char} {cs first : List Char} {later : List (List Char)}

theorem pieces_underscore : ('_' :: cs).splitOn '_' = [] :: cs.splitOn '_' := by
  simp [List.splitOn_cons_eq_if_modifyHead]

theorem pieces_other (hc : c ≠ '_') (h : cs.splitOn '_' = first :: later) :
    (c :: cs).splitOn '_' = (c :: first) :: later := by
  simp [List.splitOn_cons_eq_if_modifyHead, hc, h]

/-- The flag of the dropping belongs to the piece that comes: if an underscore has just been
dropped, that piece has its first character raised as every later one has. -/
theorem join_underscores_pieces (raise : Bool) (h : cs.splitOn '_' = first :: later) :
    joinUnderscores raise cs =
      (if raise then capitalize first else first) ++ later.flatMap capitalize := by
  induction cs generalizing raise first later with
  | nil =>
    obtain ⟨rfl, rfl⟩ := List.cons_eq_cons.mp h
    cases raise <;> rfl
  | cons c cs ih =>
    obtain ⟨next, others, hn⟩ := List.exists_cons_of_ne_nil (List.splitOn_ne_nil '_' cs)
    by_cases hc : c = '_'
    · subst hc
      rw [pieces_underscore] at h
      obtain ⟨rfl, rfl⟩ := List.cons_eq_cons.mp h
      rw [join_underscores_dropped, ih true hn, hn, List.flatMap_cons]
      cases raise <;> rfl
    · rw [pieces_other hc hn] at h
      obtain ⟨rfl, rfl⟩ := List.cons_eq_cons.mp h
      rw [joinUnderscores, if_neg hc, ih false hn]
      cases raise <;> rfl

end Pieces

/-- Underscores are dropped as if the name were cut at every one of them and the pieces were put
together again, the first as it is and each later one that is not empty with its first character
raised. No underscore is left. -/
theorem underscores_joined_as_pieces (cs : List Char) :
    (∃ first later, cs.splitOn '_' = first :: later ∧
      joinUnderscores false cs = first ++ later.flatMap capitalize) ∧
    '_' ∉ joinUnderscores false cs := by
  obtain ⟨first, later, h⟩ := List.exists_cons_of_ne_nil (List.splitOn_ne_nil '_' cs)
  exact ⟨⟨first, later, h, join_underscores_pieces false h⟩, joined_plain false cs⟩

example : joinUnderscores false "__user__2nd_É_id_".toList = "User2ndÉId".toList := by decide

end SchemaTypes.Case
