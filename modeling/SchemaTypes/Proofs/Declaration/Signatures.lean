import SchemaTypes.Proofs.Declaration.Literals
import SchemaTypes.Proofs.Name.Identifiers
import SchemaTypes.Unicode.Property

/-!
# Property signatures

A property line is read back as a property signature: a key, a question mark if the property is
optional, and a type. A key is a word, a number or a literal. The line of a property has its name
for a key without quotes, and so it is the signature of that property only if the name can do
without them.
-/

set_option autoImplicit false

namespace SchemaTypes

structure Signature where
  key : String
  optional : Bool
  type : String
  deriving DecidableEq, Repr

namespace Signature

/-! ## Words and numbers -/

def startsWord (c : Char) : Bool :=
  Case.startsIdentifier c || (128 ≤ c.toNat && Unicode.idStart.contains c.toNat)

def inWord (c : Char) : Bool :=
  Case.inIdentifier c || (128 ≤ c.toNat && Unicode.idContinue.contains c.toNat) ||
    c == '\u200c' || c == '\u200d'

/-- Letters of any script make words, where identifiers have those from `A` to `Z` only. Reserved
words are words too. -/
def IsWord : List Char → Prop
  | [] => False
  | c :: cs => startsWord c = true ∧ ∀ d ∈ cs, inWord d = true

instance decidableIsWord : DecidablePred IsWord
  | [] => isFalse id
  | c :: cs =>
    have := List.decidableBAll (inWord · = true) cs
    inferInstanceAs (Decidable (startsWord c = true ∧ ∀ d ∈ cs, inWord d = true))

def startsNumeral (c : Char) : Bool := c.isDigit || c == '.'

def inNumeral (c : Char) : Bool := inWord c || c == '.' || c == '+' || c == '-'

def LooksNumeral : List Char → Prop
  | [] => False
  | c :: cs => startsNumeral c = true ∧ ∀ d ∈ cs, inNumeral d = true

theorem numeral_no_word {c : Char} (h : startsNumeral c = true) : startsWord c = false := by
  rw [startsNumeral, Bool.or_eq_true, beq_iff_eq] at h
  rcases h with hd | rfl
  · have hb : 48 ≤ c.toNat ∧ c.toNat ≤ 57 := by
      simpa [Char.isDigit, UInt32.le_iff_toNat_le] using hd
    have hl : ¬ (65 ≤ c.toNat ∧ c.toNat ≤ 90) ∧ ¬ (97 ≤ c.toNat ∧ c.toNat ≤ 122) := by omega
    have ha : c.isAlpha = false := by
      simpa [Char.isAlpha, Char.isUpper, Char.isLower, UInt32.le_iff_toNat_le] using hl
    have hc : c ≠ '_' ∧ c ≠ '$' := by
      constructor <;> rintro rfl <;> simp at hd
    have hn : ¬ 128 ≤ c.toNat := by omega
    simp [startsWord, Case.startsIdentifier, ha, hc, hn]
  · decide

/-! ## Reading -/

def readWord : List Char → Option (List Char × List Char)
  | [] => none
  | c :: cs => if startsWord c then some (c :: cs.takeWhile inWord, cs.dropWhile inWord) else none

def readNumeral (numeral : String → Option String) : List Char → Option (List Char × List Char)
  | [] => none
  | c :: cs =>
    if startsNumeral c then
      (numeral (.ofList (c :: cs.takeWhile inNumeral))).map fun key =>
        (key.toList, cs.dropWhile inNumeral)
    else none

/-- The key at the start, with what follows it. Keys in double quotes or in brackets are not read,
and neither are comments and blanks around keys or escapes in words: the name that such a key stands
for is shorter than the text up to the colon. -/
def readKey (numeral : String → Option String) (cs : List Char) :
    Option (List Char × List Char) :=
  (readWord cs).or ((readNumeral numeral cs).or (Text.readLiteral cs))

def readType (cs : List Char) : Option String :=
  match readWord cs with
  | some (type, [';']) => some (.ofList type)
  | _ => none

def readTyping : List Char → Option (Bool × String)
  | '?' :: ':' :: ' ' :: cs => (readType cs).map fun type => (true, type)
  | ':' :: ' ' :: cs => (readType cs).map fun type => (false, type)
  | _ => none

/-- The signature that a line consists of. `numeral` gives the name that a number stands for, if it
is written well. -/
def read? (numeral : String → Option String) (line : String) : Option Signature :=
  (readKey numeral line.toList).bind fun key =>
    (readTyping key.2).map fun a => ⟨.ofList key.1, a.1, a.2⟩

/-! ## What is read -/

def typing (optional : Bool) (type : String) : List Char :=
  (if optional then ['?', ':', ' '] else [':', ' ']) ++ type.toList ++ [';']

theorem taken_off {kind : Char → Bool} {cs rest : List Char} (h : ∀ c ∈ cs, kind c = true)
    (hr : rest.head?.any kind = false) :
    (cs ++ rest).takeWhile kind = cs ∧ (cs ++ rest).dropWhile kind = rest := by
  rw [List.takeWhile_append_of_pos h, List.dropWhile_append_of_pos h]
  cases rest with
  | nil => simp
  | cons d ds =>
    have hd : kind d = false := by simpa using hr
    simp [hd]

section Words
variable {word rest : List Char}

theorem read_word (h : IsWord word) (hr : rest.head?.any inWord = false) :
    readWord (word ++ rest) = some (word, rest) := by
  cases word with
  | nil => exact h.elim
  | cons c cs =>
    obtain ⟨ht, hd⟩ := taken_off h.2 hr
    rw [List.cons_append, readWord, if_pos h.1, ht, hd]

theorem word_read {cs : List Char} (h : readWord cs = some (word, rest)) :
    IsWord word ∧ cs = word ++ rest := by
  cases cs with
  | nil => cases h
  | cons c cs =>
    rw [readWord] at h
    split at h
    · next hc =>
      cases h
      exact ⟨⟨hc, fun d => List.mem_takeWhile_imp⟩, by simp⟩
    · cases h

end Words

theorem read_type_iff {cs : List Char} {type : String} :
    readType cs = some type ↔ IsWord type.toList ∧ cs = type.toList ++ [';'] := by
  constructor
  · intro h
    rw [readType] at h
    split at h
    · next word hw =>
      cases h
      simpa using word_read hw
    · cases h
  · rintro ⟨hw, rfl⟩
    rw [readType, read_word hw (by decide)]
    simp

theorem read_typing_iff {cs : List Char} {optional : Bool} {type : String} :
    readTyping cs = some (optional, type) ↔
      IsWord type.toList ∧ cs = typing optional type := by
  constructor
  · intro h
    rw [readTyping.eq_def] at h
    split at h
    · obtain ⟨_, ht, hp⟩ := Option.map_eq_some_iff.mp h
      cases hp
      obtain ⟨hw, rfl⟩ := read_type_iff.mp ht
      exact ⟨hw, rfl⟩
    · obtain ⟨_, ht, hp⟩ := Option.map_eq_some_iff.mp h
      cases hp
      obtain ⟨hw, rfl⟩ := read_type_iff.mp ht
      exact ⟨hw, rfl⟩
    · cases h
  · rintro ⟨hw, rfl⟩
    have ht : readType (type.toList ++ [';']) = some type := read_type_iff.mpr ⟨hw, rfl⟩
    cases optional <;> simp [typing, readTyping, ht]

theorem typing_outside (optional : Bool) (type : String) :
    (typing optional type).head?.any inWord = false ∧
      (typing optional type).head?.any inNumeral = false := by
  have hc : inWord ':' = false ∧ inNumeral ':' = false := by decide
  have hq : inWord '?' = false ∧ inNumeral '?' = false := by decide
  cases optional
  · exact hc
  · exact hq

section Keys
variable {numeral : String → Option String}

theorem numeral_read {cs key rest : List Char} (h : readNumeral numeral cs = some (key, rest)) :
    ∃ source, cs = source ++ rest ∧ LooksNumeral source ∧
      numeral (.ofList source) = some (.ofList key) := by
  cases cs with
  | nil => cases h
  | cons c cs =>
    rw [readNumeral] at h
    split at h
    · next hc =>
      obtain ⟨name, hn, hp⟩ := Option.map_eq_some_iff.mp h
      cases hp
      exact ⟨c :: cs.takeWhile inNumeral, by simp, ⟨hc, fun d => List.mem_takeWhile_imp⟩,
        by simpa using hn⟩
    · cases h

theorem read_numeral (numeral : String → Option String) {source rest : List Char}
    (h : LooksNumeral source) (hr : rest.head?.any inNumeral = false) :
    readWord (source ++ rest) = none ∧
    readNumeral numeral (source ++ rest) =
      (numeral (.ofList source)).map fun key => (key.toList, rest) := by
  cases source with
  | nil => exact h.elim
  | cons c cs =>
    obtain ⟨ht, hd⟩ := taken_off h.2 hr
    constructor
    · simp [readWord, numeral_no_word h.1]
    · rw [List.cons_append, readNumeral, if_pos h.1, ht, hd]

/-- A name without quotes is read as itself if it is a word, or a number that stands for the name
that it is written as. A literal is no such name, since its quotes are not part of its text. -/
theorem read_key_iff {name : String} {rest : List Char} (hw : rest.head?.any inWord = false)
    (hn : rest.head?.any inNumeral = false) :
    readKey numeral (name.toList ++ rest) = some (name.toList, rest) ↔
      IsWord name.toList ∨ (LooksNumeral name.toList ∧ numeral name = some name) := by
  constructor
  · intro h
    rcases Option.or_eq_some_iff.mp h with h | ⟨-, h⟩
    · exact .inl (word_read h).1
    rcases Option.or_eq_some_iff.mp h with h | ⟨-, h⟩
    · obtain ⟨source, hs, hl, hk⟩ := numeral_read h
      obtain rfl := List.append_cancel_right hs
      exact .inr ⟨hl, by simpa using hk⟩
    · obtain ⟨source, hs, hl⟩ := Text.literal_source h
      obtain rfl := List.append_cancel_right hs
      exact absurd hl (lt_irrefl _)
  · rintro (hi | ⟨hl, hk⟩)
    · rw [readKey, read_word hi hw, Option.some_or]
    · obtain ⟨hnone, hr⟩ := read_numeral numeral hl hn
      rw [readKey, hnone, hr, String.ofList_toList, hk]
      rfl

end Keys

theorem read_iff {numeral : String → Option String} {line : String} {s : Signature} :
    read? numeral line = some s ↔
      IsWord s.type.toList ∧
      readKey numeral line.toList = some (s.key.toList, typing s.optional s.type) := by
  constructor
  · intro h
    obtain ⟨⟨key, rest⟩, hk, hm⟩ := Option.bind_eq_some_iff.mp h
    obtain ⟨⟨optional, type⟩, ha, rfl⟩ := Option.map_eq_some_iff.mp hm
    obtain ⟨hw, rfl⟩ := read_typing_iff.mp ha
    exact ⟨hw, by simpa using hk⟩
  · rintro ⟨hw, hk⟩
    rw [read?, hk]
    simp [read_typing_iff.mpr ⟨hw, rfl⟩]

end Signature

namespace Property
open Signature

theorem line_chars (p : Property) :
    p.line.toList = p.name.toList ++ typing p.optional p.type.name := by
  rw [line, typing]
  cases p.optional <;> simp

theorem word_type_name (type : PropertyType) : IsWord type.name.toList := by
  cases type <;> decide

section Lines
variable (numeral : String → Option String) {style : Style} {field sqlType : String}
  {optional : Bool} {p : Property} (hp : of? style field sqlType optional = some p)
include hp

theorem line_read_iff :
    read? numeral p.line = some ⟨style.name field, optional, p.type.name⟩ ↔
      IsWord (style.name field).toList ∨
        (LooksNumeral (style.name field).toList ∧
          numeral (style.name field) = some (style.name field)) := by
  obtain ⟨type, -, rfl⟩ := Option.map_eq_some_iff.mp hp
  obtain ⟨hw, hn⟩ := typing_outside optional type.name
  rw [read_iff, line_chars, read_key_iff hw hn]
  exact and_iff_right (word_type_name type)

theorem entry_read_iff :
    (∀ rest, Text.readMember ((Declaration.typeEntry p).toList ++ rest) =
      some ((style.name field, p.type.typeof), rest)) ↔ Text.OneLine (style.name field) := by
  obtain ⟨type, -, rfl⟩ := Option.map_eq_some_iff.mp hp
  have ho : Text.OneLine type.typeof := by
    rw [Declaration.typeof_value_type]
    exact Declaration.one_line_value_type type
  have hm := Text.read_member (style.name field, type.typeof) ho
  rw [Text.memberText] at hm
  simp only [Declaration.typeEntry, hm]
  by_cases hl : Text.OneLine (style.name field) <;> simp [hl]

/-- The line of a property is read as its signature exactly if its name is a word, or a number that
stands for that name. In the table of value types, where the name is quoted, any name of one line is
read. -/
theorem line_signature_iff :
    (read? numeral p.line = some ⟨style.name field, optional, p.type.name⟩ ↔
      IsWord (style.name field).toList ∨
        (LooksNumeral (style.name field).toList ∧
          numeral (style.name field) = some (style.name field))) ∧
    ((∀ rest, Text.readMember ((Declaration.typeEntry p).toList ++ rest) =
      some ((style.name field, p.type.typeof), rest)) ↔ Text.OneLine (style.name field)) :=
  ⟨line_read_iff numeral hp, entry_read_iff hp⟩

end Lines

def createdAt : Property := ⟨"createdAt", true, .date⟩

theorem created_at_signature :
    of? ⟨true, .camel, { dateTime := true }⟩ "created_at" "timestamp" true = some createdAt ∧
      read? (fun _ => none) createdAt.line = some ⟨"createdAt", true, "Date"⟩ ∧
      ∀ rest, Text.readMember ((Declaration.typeEntry createdAt).toList ++ rest) =
        some (("createdAt", "object"), rest) := by
  have hp : of? ⟨true, .camel, { dateTime := true }⟩ "created_at" "timestamp" true =
      some createdAt := by decide +kernel
  have hn : Style.name ⟨true, .camel, { dateTime := true }⟩ "created_at" = "createdAt" := by
    decide +kernel
  have h := line_signature_iff (fun _ => none) hp
  rw [hn] at h
  exact ⟨hp, h.1.mpr (.inl (by decide)), h.2.mpr (by decide)⟩

def firstName : Property := ⟨"first name", false, .string⟩

theorem blank_breaks_signature :
    of? ⟨false, .camel, {}⟩ "first name" "varchar(64)" false = some firstName ∧
      firstName.line = "first name: string;" ∧
      (∀ numeral, read? numeral firstName.line = none) ∧
      ∀ rest, Text.readMember ((Declaration.typeEntry firstName).toList ++ rest) =
        some (("first name", "string"), rest) := by
  have hline : firstName.line = "first name: string;" := by decide +kernel
  have hw : readWord firstName.line.toList = some ("first".toList, " name: string;".toList) := by
    decide +kernel
  have hm := Text.read_member ("first name", "string") (by decide)
  refine ⟨by decide +kernel, hline, fun numeral => ?_, fun rest => ?_⟩
  · rw [read?, readKey, hw, Option.some_or]
    decide
  · exact (hm rest).trans (if_pos (by decide))

end Property

end SchemaTypes
