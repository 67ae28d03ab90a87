import SchemaTypes.Text.Quoted

/-!
# Reading string literals

A literal in single quotes ends at the first quote that no backslash precedes. A backslash and
the character after it stand for one character, and a line end inside a literal is a fault. What
is read back from a quoted text is the text, and nothing of what follows it.
-/

set_option autoImplicit false

namespace SchemaTypes.Text

def escapeValue? (c : Char) : Option Char :=
  if c = '\\' ∨ c = singleQuote ∨ c = '"' then some c
  else if c = 'n' then some '\n'
  else if c = 'r' then some '\r'
  else if c = 't' then some '\t'
  else if c = 'b' then some '\x08'
  else if c = 'f' then some '\x0c'
  else if c = 'v' then some '\x0b'
  else none

def isLineEnd (c : Char) : Bool := c == '\n' || c == '\r'

/-- The text of a literal up to its closing quote, with what follows the quote; `escaped` tells
that a backslash has just been read. -/
def readQuoted (escaped : Bool) : List Char → Option (List Char × List Char)
  | [] => none
  | c :: cs =>
    if escaped then
      (escapeValue? c).bind fun v => (readQuoted false cs).map fun r => (v :: r.1, r.2)
    else if c = singleQuote then some ([], cs)
    else if c = '\\' then readQuoted true cs
    else if isLineEnd c then none
    else (readQuoted false cs).map fun r => (c :: r.1, r.2)

def readLiteral : List Char → Option (List Char × List Char)
  | [] => none
  | c :: cs => if c = singleQuote then readQuoted false cs else none

/-- What is read up to the closing quote is longer than the text that it stands for. -/
theorem quoted_source {escaped : Bool} {cs text rest : List Char}
    (h : readQuoted escaped cs = some (text, rest)) :
    ∃ source, cs = source ++ rest ∧ text.length < source.length := by
  induction cs generalizing escaped text with
  | nil => cases h
  | cons c cs ih =>
    have hstep : ∀ {flag : Bool} {shorter : List Char},
        readQuoted flag cs = some (shorter, rest) → text.length ≤ shorter.length + 1 →
        ∃ source, c :: cs = source ++ rest ∧ text.length < source.length := by
      intro flag shorter hr hl
      obtain ⟨source, rfl, hs⟩ := ih hr
      exact ⟨c :: source, rfl, by rw [List.length_cons]; omega⟩
    cases escaped with
    | true =>
      rw [readQuoted, if_pos rfl] at h
      obtain ⟨v, -, hm⟩ := Option.bind_eq_some_iff.mp h
      obtain ⟨⟨shorter, _⟩, hr, hv⟩ := Option.map_eq_some_iff.mp hm
      cases hv
      exact hstep hr (Nat.le_refl _)
    | false =>
      rw [readQuoted, if_neg Bool.false_ne_true] at h
      split at h
      · cases h
        exact ⟨[c], rfl, Nat.one_pos⟩
      split at h
      · exact hstep h (Nat.le_succ _)
      split at h
      · cases h
      · obtain ⟨⟨shorter, _⟩, hr, hv⟩ := Option.map_eq_some_iff.mp h
        cases hv
        exact hstep hr (Nat.le_refl _)

theorem literal_source {cs text rest : List Char} (h : readLiteral cs = some (text, rest)) :
    ∃ source, cs = source ++ rest ∧ text.length < source.length := by
  cases cs with
  | nil => cases h
  | cons c cs =>
    rw [readLiteral] at h
    split at h
    · obtain ⟨source, rfl, hl⟩ := quoted_source h
      exact ⟨c :: source, rfl, Nat.lt_succ_of_lt hl⟩
    · cases h

def OneLine (text : String) : Prop := ∀ c ∈ text.toList, isLineEnd c = false

instance (text : String) : Decidable (OneLine text) :=
  List.decidableBAll (isLineEnd · = false) text.toList

@[simp]
theorem one_line_append_iff {s t : String} : OneLine (s ++ t) ↔ OneLine s ∧ OneLine t := by
  simp only [OneLine, String.toList_append, List.forall_mem_append]

theorem one_line_intercalate_iff {separator : String} {texts : List String}
    (hs : OneLine separator) :
    OneLine (separator.intercalate texts) ↔ ∀ text ∈ texts, OneLine text := by
  induction texts with
  | nil => simp [OneLine]
  | cons text texts ih =>
    cases texts with
    | nil => simp
    | cons next texts =>
      rw [String.intercalate_cons_cons, one_line_append_iff, one_line_append_iff, ih,
        List.forall_mem_cons]
      simp [hs]

theorem mem_doubled_iff {c : Char} {cs : List Char} : c ∈ doubleBackticks cs ↔ c ∈ cs := by
  have hd : ∀ d, c ∈ (if d = backtick then [backtick, backtick] else [d]) ↔ c = d := by
    intro d
    split <;> simp_all
  simp [doubleBackticks, hd]

@[simp]
theorem one_line_identifier_iff {name : String} :
    OneLine (quoteIdentifier name) ↔ OneLine name := by
  have hb : isLineEnd backtick = false := by decide
  simp [OneLine, quoteIdentifier, mem_doubled_iff, hb, or_imp, forall_and]

theorem escape_literal_cons (c : Char) (cs : List Char) :
    escapeLiteral (c :: cs) =
      (if c = '\\' ∨ c = singleQuote then ['\\', c] else [c]) ++ escapeLiteral cs := by
  simp [escapeLiteral]

theorem escape_literal_escaped {c : Char} (hc : c = '\\' ∨ c = singleQuote) (cs : List Char) :
    escapeLiteral (c :: cs) = '\\' :: c :: escapeLiteral cs := by
  rw [escape_literal_cons, if_pos hc]
  rfl

theorem escape_literal_plain {c : Char} (hc : ¬ (c = '\\' ∨ c = singleQuote)) (cs : List Char) :
    escapeLiteral (c :: cs) = c :: escapeLiteral cs := by
  rw [escape_literal_cons, if_neg hc]
  rfl

theorem escape_literal_ne_nil (c : Char) (cs : List Char) : escapeLiteral (c :: cs) ≠ [] := by
  rw [escape_literal_cons]
  split <;> simp

/-- Escaping loses nothing: only an escaped character starts with a backslash. -/
theorem escape_literal_injective : Function.Injective escapeLiteral := by
  intro cs ds h
  induction cs generalizing ds with
  | nil =>
    cases ds with
    | nil => rfl
    | cons d ds => exact absurd h.symm (escape_literal_ne_nil d ds)
  | cons c cs ih =>
    cases ds with
    | nil => exact absurd h (escape_literal_ne_nil c cs)
    | cons d ds =>
      by_cases hc : c = '\\' ∨ c = singleQuote <;> by_cases hd : d = '\\' ∨ d = singleQuote
      · rw [escape_literal_escaped hc, escape_literal_escaped hd] at h
        obtain ⟨rfl, ht⟩ := List.cons_eq_cons.mp (List.cons_eq_cons.mp h).2
        rw [ih ht]
      · rw [escape_literal_escaped hc, escape_literal_plain hd] at h
        exact absurd (.inl (List.cons_eq_cons.mp h).1.symm) hd
      · rw [escape_literal_plain hc, escape_literal_escaped hd] at h
        exact absurd (.inl (List.cons_eq_cons.mp h).1) hc
      · rw [escape_literal_plain hc, escape_literal_plain hd] at h
        obtain ⟨rfl, ht⟩ := List.cons_eq_cons.mp h
        rw [ih ht]

@[simp]
theorem quote_literal_inj {s t : String} : quoteLiteral s = quoteLiteral t ↔ s = t := by
  constructor
  · intro h
    simp only [quoteLiteral, String.ofList_inj, List.cons_append, List.cons.injEq, true_and,
      List.append_cancel_right_eq] at h
    exact String.toList_inj.mp (escape_literal_injective h)
  · exact congrArg quoteLiteral

theorem read_escaped (cs rest : List Char) :
    readQuoted false (escapeLiteral cs ++ singleQuote :: rest) =
      if cs.any isLineEnd then none else some (cs, rest) := by
  induction cs with
  | nil => rfl
  | cons c cs ih =>
    rw [escape_literal_cons]
    by_cases he : c = '\\' ∨ c = singleQuote
    · have hq : '\\' ≠ singleQuote := by decide
      have hv : escapeValue? c = some c ∧ isLineEnd c = false := by
        rcases he with rfl | rfl <;> decide
      cases hl : cs.any isLineEnd <;> simp [he, readQuoted, hq, hv, ih, hl]
    · have hn := not_or.mp he
      cases hl : isLineEnd c
      · cases hr : cs.any isLineEnd <;> simp [readQuoted, hn.1, hn.2, hl, ih, hr]
      · simp [readQuoted, hn.1, hn.2, hl]

theorem read_quoted (text : String) (rest : List Char) :
    readLiteral ((quoteLiteral text).toList ++ rest) =
      if OneLine text then some (text.toList, rest) else none := by
  have hl : OneLine text ↔ text.toList.any isLineEnd = false := by
    simp [OneLine]
  have hr := read_escaped text.toList rest
  have hq : readLiteral ((quoteLiteral text).toList ++ rest) =
      readQuoted false (escapeLiteral text.toList ++ singleQuote :: rest) := by
    simp [quoteLiteral, readLiteral]
  rw [hq, hr]
  cases ha : text.toList.any isLineEnd <;> simp [hl, ha]

end SchemaTypes.Text
