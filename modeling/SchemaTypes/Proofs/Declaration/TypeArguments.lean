import Mathlib.Data.List.Infix
import SchemaTypes.PropertyType

/-!
# Types with arguments

The families of a type are looked for in its whole text, in the values of an `enum` as well as in
its name. A text in parentheses is searched apart from what stands before them, so a type with
arguments mentions what its name mentions and what its arguments mention.
-/

set_option autoImplicit false

namespace SchemaTypes

namespace Text
variable {p s t : List Char} {c : Char}

theorem occurs_chars_iff (p t : List Char) : occursInChars p t = true ↔ p <:+: t := by
  induction t with
  | nil => simp [occursInChars]
  | cons c t ih =>
    rw [occursInChars, Bool.or_eq_true, List.isPrefixOf_iff_prefix, ih, List.infix_cons_iff]

theorem occurs_iff (pattern text : String) :
    occursIn pattern text = true ↔ pattern.toList <:+: text.toList :=
  occurs_chars_iff _ _

theorem starts_iff (pattern text : String) :
    startsWith pattern text = true ↔ pattern.toList <+: text.toList :=
  List.isPrefixOf_iff_prefix

theorem prefix_barred (hc : c ∉ p) (h : p <+: c :: t) : p = [] := by
  rcases List.prefix_cons_iff.mp h with hn | ⟨q, rfl, -⟩
  · exact hn
  · exact absurd (List.mem_cons_self ..) hc

/-- A text does not reach across a character that it does not hold. -/
theorem infix_across (hc : c ∉ p) : p <:+: s ++ c :: t ↔ p <:+: s ∨ p <:+: t := by
  constructor
  · intro h
    rcases List.infix_append_iff.mp h with hs | ht | ⟨q, r, rfl, hq, hr⟩
    · exact .inl hs
    · rcases List.infix_cons_iff.mp ht with hp | ht
      · exact .inl (prefix_barred hc hp ▸ List.nil_infix)
      · exact .inr ht
    · have hn : r = [] := prefix_barred (fun hm => hc (List.mem_append_right q hm)) hr
      rw [hn, List.append_nil]
      exact .inl hq.isInfix
  · rintro (h | h)
    · exact h.trans (List.prefix_append s _).isInfix
    · exact h.trans ((List.suffix_cons c t).trans (List.suffix_append s _)).isInfix

theorem prefix_across (hc : c ∉ p) : p <+: s ++ c :: t ↔ p <+: s := by
  constructor
  · intro h
    rcases List.prefix_or_prefix_of_prefix h (List.prefix_append s (c :: t)) with hp | ⟨q, rfl⟩
    · exact hp
    · have hq : q = [] := prefix_barred (fun hm => hc (List.mem_append_right s hm))
        ((List.prefix_append_right_inj s).mp h)
      rw [hq, List.append_nil]
  · exact fun h => h.trans (List.prefix_append s _)

end Text

def applied (base arguments : String) : String := base ++ "(" ++ arguments ++ ")"

theorem applied_chars (base arguments : String) :
    (applied base arguments).toList = base.toList ++ '(' :: (arguments.toList ++ [')']) := by
  simp [applied]

namespace PropertyType

def Within (families : List String) (text : String) : Prop :=
  ∃ family ∈ families, family.toList <:+: text.toList

theorem within_append (families more : List String) (text : String) :
    Within (families ++ more) text ↔ Within families text ∨ Within more text := by
  simp only [Within, List.mem_append, or_and_right, exists_or]

theorem mentions_iff (families : List String) (text : String) :
    mentions families text = true ↔ Within families text := by
  simp [mentions, Within, Text.occurs_iff]

instance (families : List String) (text : String) : Decidable (Within families text) :=
  decidable_of_iff _ (mentions_iff families text)

theorem families_plain : ∀ family ∈ numberFamilies ++ stringFamilies,
    '(' ∉ family.toList ∧ ')' ∉ family.toList := by
  decide

theorem within_applied {families : List String} (h : families ⊆ numberFamilies ++ stringFamilies)
    (base arguments : String) :
    Within families (applied base arguments) ↔
      Within families base ∨ Within families arguments := by
  have hf : ∀ family ∈ families, family.toList <:+: (applied base arguments).toList ↔
      family.toList <:+: base.toList ∨ family.toList <:+: arguments.toList := by
    intro family hm
    obtain ⟨ho, hc⟩ := families_plain family (h hm)
    have hn : family.toList <:+: [] → family.toList <:+: arguments.toList :=
      fun he => he.trans List.nil_infix
    rw [applied_chars, Text.infix_across ho, Text.infix_across hc, or_iff_left_of_imp hn]
  constructor
  · rintro ⟨family, hm, hi⟩
    exact ((hf family hm).mp hi).imp (⟨family, hm, ·⟩) (⟨family, hm, ·⟩)
  · rintro (⟨family, hm, hi⟩ | ⟨family, hm, hi⟩)
    · exact ⟨family, hm, (hf family hm).mpr (.inl hi)⟩
    · exact ⟨family, hm, (hf family hm).mpr (.inr hi)⟩

/-- Whether a type is a `Date` depends on its start, except that of `date`, which has to be the
whole type. -/
theorem applies_applied (dates : DateMapping) (base arguments : String) :
    dates.applies (applied base arguments) = true ↔
      dates.applies base = true ∧ ¬ (dates.date = true ∧ base = "date") := by
  have hs : ∀ start : String, '(' ∉ start.toList →
      Text.startsWith start (applied base arguments) = Text.startsWith start base := by
    intro start ho
    rw [Bool.eq_iff_iff, Text.starts_iff, Text.starts_iff, applied_chars, Text.prefix_across ho]
  have hd : applied base arguments ≠ "date" := by
    intro h
    have ho : '(' ∈ (applied base arguments).toList := by simp [applied_chars]
    rw [h] at ho
    exact absurd ho (by decide)
  have hdate : Text.startsWith "datetime" "date" = false ∧
      Text.startsWith "timestamp" "date" = false := by decide
  by_cases hb : base = "date"
  · subst hb
    simp [DateMapping.applies, hs "datetime" (by decide), hs "timestamp" (by decide), hd, hdate]
  · simp [DateMapping.applies, hs "datetime" (by decide), hs "timestamp" (by decide), hd, hb]

variable {dates : DateMapping} {text : String}

theorem of_number (h : Within numberFamilies text) : ofSqlType? dates text = some .number := by
  rw [ofSqlType?, if_pos ((mentions_iff _ _).mpr h)]

theorem of_string (hn : ¬ Within numberFamilies text) (hs : Within stringFamilies text) :
    ofSqlType? dates text = some (if dates.applies text = true then .date else .string) := by
  rw [ofSqlType?, if_neg (mt (mentions_iff _ _).mp hn), if_pos ((mentions_iff _ _).mpr hs)]
  split <;> rfl

theorem of_neither (hn : ¬ Within numberFamilies text) (hs : ¬ Within stringFamilies text) :
    ofSqlType? dates text = none := by
  rw [ofSqlType?, if_neg (mt (mentions_iff _ _).mp hn), if_neg (mt (mentions_iff _ _).mp hs)]

theorem number_iff : ofSqlType? dates text = some .number ↔ Within numberFamilies text := by
  refine ⟨fun h => ?_, of_number⟩
  by_contra hn
  by_cases hs : Within stringFamilies text
  · rw [of_string hn hs] at h
    split at h <;> cases h
  · rw [of_neither hn hs] at h
    cases h

theorem neither_iff : ofSqlType? dates text = none ↔
    ¬ Within (numberFamilies ++ stringFamilies) text := by
  rw [within_append, not_or]
  refine ⟨fun h => ⟨fun hn => ?_, fun hs => ?_⟩, fun h => of_neither h.1 h.2⟩
  · rw [of_number hn] at h
    cases h
  · by_cases hn : Within numberFamilies text
    · rw [of_number hn] at h
      cases h
    · rw [of_string hn hs] at h
      cases h

theorem strings_alike {a b : Bool} :
    some (if a = true then PropertyType.date else .string) =
      some (if b = true then .date else .string) ↔ (a = true ↔ b = true) := by
  cases a <;> cases b <;> decide

theorem applied_as_name_iff (dates : DateMapping) (base arguments : String) :
    ofSqlType? dates (applied base arguments) = ofSqlType? dates base ↔
      (Within numberFamilies arguments → Within numberFamilies base) ∧
      (Within stringFamilies arguments → Within (numberFamilies ++ stringFamilies) base) ∧
      ¬ (dates.date = true ∧ base = "date") := by
  have hnum := within_applied (List.subset_append_left numberFamilies _) base arguments
  have hstr := within_applied (List.subset_append_right _ stringFamilies) base arguments
  rw [within_append]
  by_cases hb : Within numberFamilies base
  · have hd : base ≠ "date" := by
      rintro rfl
      exact absurd hb (by decide)
    rw [of_number hb, of_number (hnum.mpr (.inl hb))]
    simp [hb, hd]
  by_cases ha : Within numberFamilies arguments
  · have hne : ofSqlType? dates base ≠ some .number := mt number_iff.mp hb
    rw [of_number (hnum.mpr (.inr ha))]
    simp [ha, hb, hne.symm]
  have hn : ¬ Within numberFamilies (applied base arguments) := by
    rw [hnum, not_or]
    exact ⟨hb, ha⟩
  by_cases hs : Within stringFamilies base
  · have hdate : dates.date = true ∧ base = "date" → dates.applies base = true := by
      rintro ⟨hd, rfl⟩
      simp [DateMapping.applies, hd]
    have hkept : (dates.applies base = true ∧ ¬ (dates.date = true ∧ base = "date") ↔
        dates.applies base = true) ↔ ¬ (dates.date = true ∧ base = "date") :=
      ⟨fun h hd => (h.mpr (hdate hd)).2 hd, fun hd => and_iff_left hd⟩
    rw [of_string hn (hstr.mpr (.inl hs)), of_string hb hs, strings_alike, applies_applied, hkept]
    exact ⟨fun h => ⟨fun hv => absurd hv ha, fun _ => .inr hs, h⟩, fun h => h.2.2⟩
  · have hd : base ≠ "date" := by
      rintro rfl
      exact absurd (show Within stringFamilies "date" by decide) hs
    rw [of_neither hb hs, neither_iff, within_append, hnum, hstr]
    simp [ha, hb, hs, hd]

/-- A type with arguments is typed as its name is exactly if the name mentions a number family when
the arguments do, and some family when the arguments mention a string family, and is not the `date`
that is typed `Date` when it stands alone. So an `enum` is a string exactly if its values mention no
number family. -/
theorem typed_by_name_iff (dates : DateMapping) :
    (∀ base arguments, ofSqlType? dates (applied base arguments) = ofSqlType? dates base ↔
      (Within numberFamilies arguments → Within numberFamilies base) ∧
      (Within stringFamilies arguments → Within (numberFamilies ++ stringFamilies) base) ∧
      ¬ (dates.date = true ∧ base = "date")) ∧
    ∀ values, ofSqlType? dates (applied "enum" values) = some .string ↔
      ¬ Within numberFamilies values := by
  refine ⟨applied_as_name_iff dates, fun values => ?_⟩
  have henum : ofSqlType? dates "enum" = some .string := by
    have hd : Text.startsWith "datetime" "enum" = false ∧
        Text.startsWith "timestamp" "enum" = false := by decide
    rw [of_string (by decide) (by decide)]
    simp [DateMapping.applies, hd]
  have hw : ¬ Within numberFamilies "enum" := by decide
  have ha : Within (numberFamilies ++ stringFamilies) "enum" := by decide
  rw [← henum, applied_as_name_iff]
  simp [hw, ha]

theorem enum_value_read_as_number :
    applied "enum" "\x27printed\x27,\x27draft\x27" = "enum(\x27printed\x27,\x27draft\x27)" ∧
    ofSqlType? {} "enum(\x27printed\x27,\x27draft\x27)" = some .number ∧
    ofSqlType? {} "enum" = some .string := by
  decide

end PropertyType

end SchemaTypes
