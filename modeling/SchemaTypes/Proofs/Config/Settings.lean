import SchemaTypes.Proofs.Config.Conditions

/-!
# Settings that count

Every setting takes values of one kind, and a value of another kind is read as if the setting were
missing. So fields in which the values that count are the same are read alike.
-/

set_option autoImplicit false

namespace SchemaTypes

inductive Setting where
  | text
  | nonEmptyText
  | flag
  | natural (bound : Nat)
  | choice (names : List String)
  | texts
  | object
  deriving DecidableEq, Repr

namespace Setting

inductive Takes : Setting → Json → Prop where
  | text (s : String) : Takes .text (.string s)
  | nonEmptyText (s : String) (hs : s ≠ "") : Takes .nonEmptyText (.string s)
  | flag (b : Bool) : Takes .flag (.bool b)
  | natural (bound n : Nat) (hn : n < bound) :
    Takes (.natural bound) (.number (.integer (.ofNat n)))
  | choice (names : List String) (s : String) (hs : s ∈ names) : Takes (.choice names) (.string s)
  | texts (ss : List String) : Takes .texts (.array (ss.map .string))
  | object (fields : Fields) : Takes .object (.object fields)

/-- A reader of values finds nothing where the setting takes nothing. -/
def ReadBy {α : Type} (s : Setting) (read : Json → Option α) : Prop :=
  ∀ value a, read value = some a → s.Takes value

theorem text_read : text.ReadBy Json.string? := by
  intro value s h
  cases value <;> cases h
  exact .text s

theorem nonempty_text_read :
    nonEmptyText.ReadBy fun value => value.string?.filter fun s => !s.isEmpty := by
  intro value s h
  obtain ⟨hs, hn⟩ := Option.filter_eq_some_iff.mp h
  cases value <;> cases hs
  exact .nonEmptyText s (by simpa using hn)

theorem flag_read : flag.ReadBy Json.bool? := by
  intro value b h
  cases value <;> cases h
  exact .flag b

theorem natural_read (bound : Nat) :
    (natural bound).ReadBy fun value => value.natural?.filter fun n => n < bound := by
  intro value n h
  obtain ⟨hv, hn⟩ := Option.filter_eq_some_iff.mp h
  unfold Json.natural? at hv
  split at hv
  · cases hv
    exact .natural bound n (by simpa using hn)
  · cases hv

theorem choice_read {α : Type} {names : List String} {ofName? : String → Option α}
    (ho : ∀ name a, ofName? name = some a → name ∈ names) :
    (choice names).ReadBy fun value => value.string?.bind ofName? := by
  intro value a h
  obtain ⟨name, hs, ha⟩ := Option.bind_eq_some_iff.mp h
  cases value <;> cases hs
  exact .choice names name (ho name a ha)

theorem texts_read :
    texts.ReadBy fun value => value.array?.bind fun items => items.mapM Json.string? := by
  intro value ss h
  obtain ⟨items, hv, hs⟩ := Option.bind_eq_some_iff.mp h
  cases value <;> cases hv
  rw [Config.strings_of_items.mp hs]
  exact .texts ss

theorem object_read : object.ReadBy Json.object? := by
  intro value fields h
  cases value <;> cases h
  exact .object fields

theorem filtered_reading {α : Type} (given : Option Json) (read : Json → Option α)
    (keep : α → Bool) :
    (given.bind read).filter keep = given.bind fun value => (read value).filter keep := by
  cases given <;> rfl

/-- The values given for a setting are the same, or neither of them counts. -/
def Same (s : Setting) (given given' : Option Json) : Prop :=
  given = given' ∨
    (∀ value, given = some value → ¬ s.Takes value) ∧
    ∀ value, given' = some value → ¬ s.Takes value

theorem ReadBy.nothing {α : Type} {s : Setting} {read : Json → Option α} (hr : s.ReadBy read)
    {given : Option Json} (h : ∀ value, given = some value → ¬ s.Takes value) :
    given.bind read = none := by
  rw [Option.bind_eq_none_iff]
  intro value hv
  cases ha : read value with
  | none => rfl
  | some a => exact absurd (hr value a ha) (h value hv)

theorem Same.read {α : Type} {s : Setting} {read : Json → Option α} {given given' : Option Json}
    (h : s.Same given given') (hr : s.ReadBy read) : given.bind read = given'.bind read := by
  rcases h with rfl | ⟨h, h'⟩
  · rfl
  · rw [hr.nothing h, hr.nothing h']

end Setting

namespace Fields

/-- The settings are given the same values in both groups of fields, as far as these count. -/
def Alike (settings : List (String × Setting)) (fields fields' : Fields) : Prop :=
  ∀ s ∈ settings, s.2.Same (fields.get? s.1) (fields'.get? s.1)

section Alike
variable {settings : List (String × Setting)} {fields fields' : Fields}

theorem Alike.refl (settings : List (String × Setting)) (fields : Fields) :
    Alike settings fields fields := fun _ _ => Or.inl rfl

theorem Alike.string (h : Alike settings fields fields') {name : String}
    (hm : (name, Setting.text) ∈ settings) : fields.string? name = fields'.string? name :=
  (h _ hm).read Setting.text_read

theorem Alike.text (h : Alike settings fields fields') {name : String}
    (hm : (name, Setting.text) ∈ settings) (fallback : String) :
    fields.text name fallback = fields'.text name fallback := by
  rw [Fields.text, Fields.text, h.string hm]

theorem Alike.nonempty (h : Alike settings fields fields') {name : String}
    (hm : (name, Setting.nonEmptyText) ∈ settings) :
    fields.nonEmpty? name = fields'.nonEmpty? name := by
  have hr := (h _ hm).read Setting.nonempty_text_read
  rw [Fields.nonEmpty?, Fields.nonEmpty?, Fields.string?, Fields.string?,
    Setting.filtered_reading, Setting.filtered_reading, hr]

theorem Alike.flag (h : Alike settings fields fields') {name : String}
    (hm : (name, Setting.flag) ∈ settings) (fallback : Bool) :
    fields.flag name fallback = fields'.flag name fallback := by
  rw [Fields.flag, Fields.flag, (h _ hm).read Setting.flag_read]

theorem Alike.below (h : Alike settings fields fields') {name : String} {bound : Nat}
    (hm : (name, Setting.natural bound) ∈ settings) :
    fields.below? name bound = fields'.below? name bound := by
  have hr := (h _ hm).read (Setting.natural_read bound)
  rw [Fields.below?, Fields.below?, Setting.filtered_reading, Setting.filtered_reading, hr]

theorem Alike.choice (h : Alike settings fields fields') {α : Type} {name : String}
    {names : List String} {ofName? : String → Option α}
    (hm : (name, Setting.choice names) ∈ settings) (ho : ∀ n a, ofName? n = some a → n ∈ names)
    (fallback : α) :
    fields.choice name ofName? fallback = fields'.choice name ofName? fallback := by
  have hr := (h _ hm).read (Setting.choice_read ho)
  rw [Fields.choice, Fields.choice, Fields.string?, Fields.string?, Option.bind_assoc,
    Option.bind_assoc, hr]

theorem Alike.strings (h : Alike settings fields fields') {name : String}
    (hm : (name, Setting.texts) ∈ settings) (fallback : List String) :
    fields.strings name fallback = fields'.strings name fallback := by
  have hr := (h _ hm).read Setting.texts_read
  rw [Fields.strings, Fields.strings, Option.bind_assoc, Option.bind_assoc, hr]

end Alike

end Fields

end SchemaTypes
