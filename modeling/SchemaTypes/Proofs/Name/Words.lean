import SchemaTypes.Proofs.Name.Boundaries

/-!
# Names made of words

A proper name is a list of words, each a small letter followed by anything but underscores and
capitals. It has one spelling in each convention, and conversion leads from spelling to spelling.
Camel and pascal case asked for themselves are the two exceptions: the one loses the boundaries
between the words and the other its leading capital.
-/

set_option autoImplicit false

namespace SchemaTypes

structure Word where
  first : Char
  rest : List Char
  first_small : first.isLower = true
  rest_plain : ∀ c ∈ rest, c ≠ '_' ∧ c.isUpper = false

namespace Word
open Case

def chars (w : Word) : List Char := w.first :: w.rest

def raised (w : Word) : List Char := w.first.toUpper :: w.rest

def spelledChars : Case → List Word → List Char
  | .snake, ws => ['_'].intercalate (ws.map chars)
  | .pascal, ws => ws.flatMap raised
  | .camel, [] => []
  | .camel, w :: ws => w.chars ++ ws.flatMap raised

def spelled (c : Case) (ws : List Word) : String := .ofList (spelledChars c ws)

def runTogether (ws : List Word) : String := .ofList (ws.flatMap chars)

theorem first_other (w : Word) : w.first.isUpper = false := by
  simpa using Char.not_isUpper_of_isLower w.first_small

theorem first_raised (w : Word) : w.first.toUpper.isUpper = true := by
  simp [Char.isAlpha, w.first_small]

theorem first_lowered (w : Word) : w.first.toUpper.toLower = w.first := by
  rw [Char.toLower_toUpper_eq_toLower, Char.toLower_eq_of_not_isUpper (by simp [w.first_other])]

theorem not_underscore_of_alpha {c : Char} (h : c.isAlpha = true) : c ≠ '_' := by
  rintro rfl
  exact absurd h (by decide)

theorem chars_other (w : Word) : ∀ c ∈ w.chars, c.isUpper = false := by
  intro c hc
  rcases List.mem_cons.mp hc with rfl | hr
  · exact w.first_other
  · exact (w.rest_plain c hr).2

theorem chars_plain (w : Word) : ∀ c ∈ w.chars, c ≠ '_' := by
  intro c hc
  rcases List.mem_cons.mp hc with rfl | hr
  · exact not_underscore_of_alpha (by simp [Char.isAlpha, w.first_small])
  · exact (w.rest_plain c hr).1

theorem raised_plain (w : Word) : ∀ c ∈ w.raised, c ≠ '_' := by
  intro c hc
  rcases List.mem_cons.mp hc with rfl | hr
  · exact not_underscore_of_alpha (by simp [Char.isAlpha, w.first_small])
  · exact (w.rest_plain c hr).1

theorem snake_chars (w : Word) (ws : List Word) :
    spelledChars .snake (w :: ws) = w.chars ++ ws.flatMap (fun v => '_' :: v.chars) := by
  induction ws generalizing w with
  | nil => simp [spelledChars]
  | cons v ws ih =>
    have hv := ih v
    simp only [spelledChars, List.map_cons, List.flatMap_cons] at hv ⊢
    rw [List.intercalate_cons_cons, hv]
    simp

theorem plain_is_not_snake {cs : List Char} (hs : ∀ c ∈ cs, c ≠ '_') :
    hasInnerUnderscore cs = false := by
  have hd : cs.dropWhile (· != '_') = [] := by simpa using hs
  simp [hasInnerUnderscore, hd]

theorem camel_chars_plain (w : Word) (ws : List Word) :
    ∀ c ∈ spelledChars .camel (w :: ws), c ≠ '_' := by
  intro c hc
  rcases List.mem_append.mp hc with hw | hs
  · exact w.chars_plain c hw
  · obtain ⟨v, _, hv⟩ := List.mem_flatMap.mp hs
    exact v.raised_plain c hv

theorem pascal_chars_plain (ws : List Word) : ∀ c ∈ spelledChars .pascal ws, c ≠ '_' := by
  intro c hc
  obtain ⟨v, _, hv⟩ := List.mem_flatMap.mp hc
  exact v.raised_plain c hv

theorem camel_inferred (w : Word) (ws : List Word) :
    ofChars (spelledChars .camel (w :: ws)) = .camel := by
  rw [ofChars, plain_is_not_snake (camel_chars_plain w ws)]
  simp [spelledChars, chars, startsCapital, w.first_other]

theorem pascal_inferred (w : Word) (ws : List Word) :
    ofChars (spelledChars .pascal (w :: ws)) = .pascal := by
  rw [ofChars, plain_is_not_snake (pascal_chars_plain (w :: ws))]
  simp [spelledChars, raised, startsCapital, w.first_raised]

theorem snake_inferred (w v : Word) (ws : List Word) :
    ofChars (spelledChars .snake (w :: v :: ws)) = .snake := by
  have ht : ∀ c ∈ w.chars, (c != '_') = true := by simpa using w.chars_plain
  have hi : hasInnerUnderscore (spelledChars .snake (w :: v :: ws)) = true := by
    rw [snake_chars, hasInnerUnderscore, List.takeWhile_append_of_pos ht,
      List.dropWhile_append_of_pos ht]
    simp [chars]
  simp [ofChars, hi]

theorem snake_single (w : Word) : spelledChars .snake [w] = spelledChars .camel [w] := by
  simp [spelledChars]

theorem raised_underscored (w : Word) : w.raised.flatMap snakeChars = '_' :: w.chars := by
  rw [raised, List.flatMap_cons, snake_chars_other fun c hc => (w.rest_plain c hc).2]
  simp [snakeChars, w.first_raised, w.first_lowered, chars]

theorem camel_underscored (w : Word) (ws : List Word) :
    underscored (spelledChars .camel (w :: ws)) = spelledChars .snake (w :: ws) := by
  rw [underscored_pass, snake_chars, spelledChars, List.flatMap_append,
    snake_chars_other w.chars_other, List.flatMap_assoc]
  simp only [raised_underscored]

theorem camel_lowered (w : Word) (ws : List Word) :
    lowerAll (spelledChars .camel (w :: ws)) = (w :: ws).flatMap chars := by
  have hr : ∀ v : Word, lowerAll v.raised = v.chars := fun v => by
    have hv := lower_all_other fun c hc => (v.rest_plain c hc).2
    simp only [lowerAll] at hv
    simp [lowerAll, raised, chars, v.first_lowered, hv]
  have hs : lowerAll (ws.flatMap raised) = ws.flatMap chars := by
    induction ws with
    | nil => rfl
    | cons v ws ih => simpa [lowerAll, List.flatMap_cons] using congrArg₂ (· ++ ·) (hr v) ih
  have hw := lower_all_other w.chars_other
  simp only [lowerAll] at hw hs
  simp [spelledChars, lowerAll, hw, hs]

theorem camel_capitalized (w : Word) (ws : List Word) :
    capitalize (spelledChars .camel (w :: ws)) = spelledChars .pascal (w :: ws) := rfl

theorem pascal_lowered (w : Word) (ws : List Word) :
    lowerFirst (spelledChars .pascal (w :: ws)) = spelledChars .camel (w :: ws) := by
  simp [spelledChars, raised, chars, lowerFirst, w.first_lowered]

theorem snake_other (w : Word) (ws : List Word) :
    ∀ c ∈ spelledChars .snake (w :: ws), c.isUpper = false := by
  intro c hc
  rw [snake_chars] at hc
  rcases List.mem_append.mp hc with hw | hs
  · exact w.chars_other c hw
  · obtain ⟨v, _, hv⟩ := List.mem_flatMap.mp hs
    rcases List.mem_cons.mp hv with rfl | hv
    · decide
    · exact v.chars_other c hv

theorem tail_joined (ws : List Word) :
    joinUnderscores false (ws.flatMap (fun v => '_' :: v.chars)) = ws.flatMap raised := by
  induction ws with
  | nil => rfl
  | cons v ws ih =>
    have hf : v.first ≠ '_' := v.chars_plain _ (by simp [chars])
    have hr := join_underscores_plain (fun c hc => (v.rest_plain c hc).1)
      (ws.flatMap (fun v => '_' :: v.chars))
    simp [List.flatMap_cons, joinUnderscores, chars, raised, hf] at hr ih ⊢
    rw [hr, ih]

theorem snake_joined (w : Word) (ws : List Word) :
    joinUnderscores false (lowerAll (spelledChars .snake (w :: ws))) =
      spelledChars .camel (w :: ws) := by
  rw [lower_all_other (snake_other w ws), snake_chars, join_underscores_plain w.chars_plain,
    tail_joined]
  rfl

theorem camel_converted (target : Case) (w : Word) (ws : List Word) :
    convertChars target (spelledChars .camel (w :: ws)) =
      match target with
      | .camel => (w :: ws).flatMap chars
      | .pascal => spelledChars .pascal (w :: ws)
      | .snake => spelledChars .snake (w :: ws) := by
  rw [convertChars, camel_inferred]
  cases target with
  | camel => exact camel_lowered w ws
  | pascal => exact camel_capitalized w ws
  | snake => exact camel_underscored w ws

theorem pascal_converted (target : Case) (w : Word) (ws : List Word) :
    convertChars target (spelledChars .pascal (w :: ws)) =
      match target with
      | .snake => spelledChars .snake (w :: ws)
      | _ => spelledChars .camel (w :: ws) := by
  rw [convertChars, pascal_inferred]
  cases target with
  | camel => exact pascal_lowered w ws
  | pascal => exact pascal_lowered w ws
  | snake =>
    change underscored (lowerFirst (spelledChars .pascal (w :: ws))) = _
    rw [pascal_lowered, camel_underscored]

/-- Snake case is inferred from two words on; a single word is converted as camel case. -/
theorem snake_converted (target : Case) (w : Word) (ws : List Word) :
    convertChars target (spelledChars .snake (w :: ws)) = spelledChars target (w :: ws) := by
  cases ws with
  | nil =>
    rw [snake_single, camel_converted]
    cases target with
    | camel => simp [spelledChars]
    | pascal => rfl
    | snake => rfl
  | cons v ws =>
    rw [convertChars, snake_inferred]
    cases target with
    | camel => exact snake_joined w (v :: ws)
    | pascal => exact congrArg capitalize (snake_joined w (v :: ws))
    | snake => rfl

theorem camel_ne_pascal (w : Word) (ws : List Word) :
    spelledChars .camel (w :: ws) ≠ spelledChars .pascal (w :: ws) := by
  intro h
  have hc : w.first = w.first.toUpper := by
    simpa [spelledChars, chars, raised] using congrArg List.head? h
  have hu := w.first_raised
  rw [← hc, w.first_other] at hu
  exact absurd hu (by decide)

theorem run_together_ne_camel (w v : Word) (ws : List Word) :
    (w :: v :: ws).flatMap chars ≠ spelledChars .camel (w :: v :: ws) := by
  intro h
  have ht : v.chars ++ ws.flatMap chars = v.raised ++ ws.flatMap raised := by
    simpa [spelledChars, List.flatMap_cons] using h
  have hc : v.first = v.first.toUpper := by
    simpa [chars, raised] using congrArg List.head? ht
  have hu := v.first_raised
  rw [← hc, v.first_other] at hu
  exact absurd hu (by decide)

/-- Whatever the convention a proper name is spelled in, conversion gives its spelling in the
target, with two exceptions and no third. -/
theorem conversion_respells (source target : Case) (w : Word) (ws : List Word) :
    target.convert (spelled source (w :: ws)) =
      (match source, target with
        | .pascal, .pascal => spelled .camel (w :: ws)
        | .camel, .camel => runTogether (w :: ws)
        | _, _ => spelled target (w :: ws)) ∧
    (target.convert (spelled source (w :: ws)) ≠ spelled target (w :: ws) ↔
      (source = .pascal ∧ target = .pascal) ∨
        (source = .camel ∧ target = .camel ∧ ws ≠ [])) := by
  have hconv : target.convert (spelled source (w :: ws)) =
      .ofList (convertChars target (spelledChars source (w :: ws))) := by
    rw [convert, spelled, String.toList_ofList]
  rw [hconv]
  cases source with
  | snake => simp [snake_converted, spelled]
  | pascal =>
    rw [pascal_converted]
    have hne := camel_ne_pascal w ws
    cases target <;> simp [spelled, String.ofList_inj, hne]
  | camel =>
    rw [camel_converted]
    cases target with
    | pascal => simp [spelled]
    | snake => simp [spelled]
    | camel =>
      refine ⟨rfl, ?_⟩
      cases ws with
      | nil => simp [spelled, spelledChars]
      | cons v ws =>
        have hne : runTogether (w :: v :: ws) ≠ spelled .camel (w :: v :: ws) :=
          fun h => run_together_ne_camel w v ws (String.ofList_inj.mp h)
        exact ⟨fun _ => .inr ⟨rfl, rfl, by simp⟩, fun _ => hne⟩

example : Case.camel.convert "orderItem" = "orderitem" := by decide +kernel

example : Case.pascal.convert "OrderItem" = "orderItem" := by decide +kernel

end Word

end SchemaTypes
