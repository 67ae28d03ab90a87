import SchemaTypes.Pattern.Reader
import SchemaTypes.Proofs.Config.Alike

/-!
# Fields that are as good as absent

A field whose name is unknown where it stands, or whose value does not count there, can be taken
away: what is read stays the same, be it a configuration or a fault. This holds at the top of a
configuration, within its options and within the elements of its tables.
-/

set_option autoImplicit false

namespace SchemaTypes

namespace Fields

def without (fields : Fields) (name : String) : Fields := fields.filter fun f => f.1 != name

def adjust (fields : Fields) (name : String) (change : Json → Json) : Fields :=
  fields.map fun f => (f.1, if f.1 = name then change f.2 else f.2)

theorem get_without_self (fields : Fields) (name : String) :
    (fields.without name).get? name = none := by
  rw [get?, List.lookup_eq_none_iff]
  intro f hf
  have hn := (List.mem_filter.mp hf).2
  simpa [bne_comm] using hn

theorem get_without_of_ne (fields : Fields) {name other : String} (h : other ≠ name) :
    (fields.without name).get? other = fields.get? other := by
  induction fields with
  | nil => rfl
  | cons f rest ih =>
    obtain ⟨k, v⟩ := f
    rw [get?, without] at ih ⊢
    by_cases hk : k = name
    · have ho : (other == k) = false := by simpa [hk] using h
      simpa [hk, get?, List.lookup_cons, hk ▸ ho] using ih
    · simp only [List.filter_cons, bne_iff_ne, ne_eq, hk, not_false_eq_true, if_true,
        List.lookup_cons, get?]
      rw [ih]
      rfl

theorem get_adjust_self (fields : Fields) (name : String) (change : Json → Json) :
    (fields.adjust name change).get? name = (fields.get? name).map change := by
  induction fields with
  | nil => rfl
  | cons f rest ih =>
    obtain ⟨k, v⟩ := f
    by_cases hk : k = name
    · simp [adjust, get?, hk]
    · have ho : (name == k) = false := by simpa using fun e : name = k => hk e.symm
      simpa [adjust, get?, List.lookup_cons, hk, ho] using ih

theorem get_adjust_of_ne (fields : Fields) {name other : String} (change : Json → Json)
    (h : other ≠ name) : (fields.adjust name change).get? other = fields.get? other := by
  induction fields with
  | nil => rfl
  | cons f rest ih =>
    obtain ⟨k, v⟩ := f
    by_cases hk : other = k
    · have hn : k ≠ name := fun e => h (hk.trans e)
      simp [adjust, get?, hk, hn]
    · have ho : (other == k) = false := by simpa using hk
      simpa [adjust, get?, List.lookup_cons, ho] using ih

theorem alike_without {settings : List (String × Setting)} {fields : Fields} {name : String}
    (h : ∀ value, fields.get? name = some value → ∀ s, (name, s) ∈ settings → ¬ s.Takes value) :
    Alike settings (fields.without name) fields := by
  intro s hs
  by_cases hn : s.1 = name
  · refine Or.inr ⟨?_, ?_⟩
    · rw [hn, get_without_self]
      intro value hv
      cases hv
    · intro value hv
      exact h value (hn ▸ hv) s.2 (hn ▸ hs)
  · exact Or.inl (get_without_of_ne fields hn)

theorem object_adjust_of_ne (fields : Fields) {name other : String} (change : Json → Json)
    (h : other ≠ name) : (fields.adjust name change).object? other = fields.object? other := by
  rw [object?, object?, get_adjust_of_ne fields change h]

theorem alike_adjust {settings : List (String × Setting)} (fields : Fields) {name : String}
    (change : Json → Json) (h : ∀ s ∈ settings, s.1 ≠ name) :
    Alike settings (fields.adjust name change) fields :=
  fun s hs => Or.inl (get_adjust_of_ne fields change (h s hs))

end Fields

namespace Json

def without (name : String) : Json → Json
  | .object fields => .object (Fields.without fields name)
  | other => other

def adjustItem (index : Nat) (change : Json → Json) : Json → Json
  | .array items => .array (items.modify index change)
  | other => other

theorem object_without (name : String) (value : Json) :
    (value.without name).object? = value.object?.map fun fields => fields.without name := by
  cases value <;> rfl

theorem object_given_without (fields : Fields) (part name : String) :
    (fields.adjust part (without name)).object? part =
      (fields.object? part).map fun options => options.without name := by
  rw [Fields.object?, Fields.object?, Fields.get_adjust_self]
  cases fields.get? part with
  | none => rfl
  | some value => exact object_without name value

end Json

/-- Where fields of a configuration stand. -/
inductive Place where
  | top
  | driverOptions
  | classOptions
  | entry (index : Nat)
  deriving DecidableEq, Repr

namespace Place

def settings : Place → List (String × Setting)
  | .top => ("driverOptions", .object) :: ("classOptions", .object) :: Config.plainSettings
  | .driverOptions => Config.serverSettings
  | .classOptions => Config.classSettings
  | .entry _ => Config.tableSettings

def value? (fields : Fields) (name : String) : Place → Option Json
  | .top => fields.get? name
  | .driverOptions => (fields.object? "driverOptions").bind fun options => options.get? name
  | .classOptions => (fields.object? "classOptions").bind fun options => options.get? name
  | .entry index =>
    ((((fields.get? "tables").bind Json.array?).bind fun entries => entries[index]?).bind
      Json.object?).bind fun members => Fields.get? members name

def without (fields : Fields) (name : String) : Place → Fields
  | .top => fields.without name
  | .driverOptions => fields.adjust "driverOptions" (Json.without name)
  | .classOptions => fields.adjust "classOptions" (Json.without name)
  | .entry index => fields.adjust "tables" (Json.adjustItem index (Json.without name))

/-- A value counts if it is taken by a setting of the place. What is given for `tables` counts
unless it is no array and the entire database is asked for. -/
def Counts (fields : Fields) (name : String) (value : Json) (place : Place) : Prop :=
  (∃ s, (name, s) ∈ place.settings ∧ s.Takes value) ∨
  place = .top ∧ name = "tables" ∧
    (fields.get? "entireDatabase" = some (.bool true) → ∃ entries, value = .array entries)

end Place

namespace Config
open Fields (Alike)

/-- A value that does not count is taken by no setting of its place. -/
theorem not_taken {fields : Fields} {place : Place} {name : String} {value : Json}
    (h : ¬ place.Counts fields name value) : ∀ s, (name, s) ∈ place.settings → ¬ s.Takes value :=
  fun s hs ht => h (Or.inl ⟨s, hs, ht⟩)

theorem options_alike_refl (settings : List (String × Setting)) (options : Option Fields) :
    Option.Rel (Alike settings) options options := by
  cases options with
  | none => exact .none
  | some o => exact .some (Alike.refl settings o)

theorem options_alike_without {settings : List (String × Setting)} {options : Option Fields}
    {name : String} (h : ∀ value, (options.bind fun o => o.get? name) = some value →
      ∀ s, (name, s) ∈ settings → ¬ s.Takes value) :
    Option.Rel (Alike settings) (options.map fun o => o.without name) options := by
  cases options with
  | none => exact .none
  | some o => exact .some (Fields.alike_without h)

theorem entries_alike_without {entries : List Json} {index : Nat} {name : String}
    (h : ∀ value, ((entries[index]?.bind Json.object?).bind fun m => Fields.get? m name) =
      some value → ∀ s, (name, s) ∈ tableSettings → ¬ s.Takes value) :
    List.Forall₂ EntryAlike (entries.modify index (Json.without name)) entries := by
  induction entries generalizing index with
  | nil => simp
  | cons entry rest ih =>
    cases index with
    | zero =>
      refine .cons ?_ (List.forall₂_same.mpr fun entry _ => .same entry)
      cases entry with
      | object members => exact .object (Fields.alike_without h)
      | _ => exact .same _
    | succ index => exact .cons (.same entry) (ih h)

theorem top_alike {fields : Fields} {name : String}
    (h : ∀ value, fields.get? name = some value → ¬ Place.top.Counts fields name value) :
    ReadAlike (fields.without name) fields := by
  have hs : Alike Place.top.settings (fields.without name) fields :=
    Fields.alike_without fun value hv => not_taken (h value hv)
  have hobject : ∀ part, (part, Setting.object) ∈ Place.top.settings →
      (fields.without name).object? part = fields.object? part :=
    fun part hm => (hs _ hm).read Setting.object_read
  have hplain : Alike plainSettings (fields.without name) fields :=
    fun s hm => hs s (by simp [Place.settings, hm])
  refine ⟨hplain, ?_, ?_⟩
  · intro p hp
    have hm : (p.1, Setting.object) ∈ Place.top.settings := by
      rcases (by simpa [partedSettings] using hp) with rfl | rfl <;> simp [Place.settings]
    rw [hobject p.1 hm]
    exact options_alike_refl _ _
  · by_cases hn : name = "tables"
    · subst hn
      rw [Fields.get_without_self, hplain.flag (by simp [plainSettings])]
      cases ht : fields.get? "tables" with
      | none => exact .same none
      | some value =>
        have hc := h value ht
        simp only [Place.Counts, true_and, not_or, Classical.not_imp] at hc
        obtain ⟨-, he, ha⟩ := hc
        refine .unread (flag_set.mpr he) rfl ?_
        cases value with
        | array entries => exact absurd ⟨entries, rfl⟩ ha
        | _ => rfl
    · rw [Fields.get_without_of_ne fields (Ne.symm hn)]
      exact .same _

theorem parted_names {part : String × List (String × Setting)} (hp : part ∈ partedSettings) :
    part.1 ∉ plainSettings.map Prod.fst ∧ part.1 ≠ "tables" := by
  rcases (by simpa [partedSettings] using hp) with rfl | rfl <;> simp [plainSettings]

theorem parted_unique {part other : String × List (String × Setting)} (hp : part ∈ partedSettings)
    (ho : other ∈ partedSettings) (h : other.1 = part.1) : other = part := by
  rcases (by simpa [partedSettings] using hp) with rfl | rfl <;>
    rcases (by simpa [partedSettings] using ho) with rfl | rfl <;> simp at h ⊢

theorem part_alike {fields : Fields} (part : String × List (String × Setting)) {name : String}
    (hp : part ∈ partedSettings)
    (h : ∀ value, ((fields.object? part.1).bind fun options => options.get? name) = some value →
      ∀ s, (name, s) ∈ part.2 → ¬ s.Takes value) :
    ReadAlike (fields.adjust part.1 (Json.without name)) fields := by
  obtain ⟨hplain, htables⟩ := parted_names hp
  refine ⟨Fields.alike_adjust _ _ ?_, ?_, ?_⟩
  · intro s hs he
    exact hplain (he ▸ List.mem_map_of_mem hs)
  · intro other ho
    by_cases hn : other.1 = part.1
    · rw [parted_unique hp ho hn, Json.object_given_without]
      exact options_alike_without h
    · rw [Fields.object_adjust_of_ne _ _ hn]
      exact options_alike_refl _ _
  · rw [Fields.get_adjust_of_ne _ _ htables.symm]
    exact .same _

theorem entry_alike {fields : Fields} {index : Nat} {name : String} (h : ∀ value,
    (Place.entry index).value? fields name = some value →
      ¬ (Place.entry index).Counts fields name value) :
    ReadAlike ((Place.entry index).without fields name) fields := by
  refine ⟨Fields.alike_adjust _ _ (by simp [plainSettings]), ?_, ?_⟩
  · intro part hp
    rw [Place.without, Fields.object_adjust_of_ne _ _ (parted_names hp).2]
    exact options_alike_refl _ _
  · rw [Place.without, Fields.get_adjust_self]
    cases ht : fields.get? "tables" with
    | none => exact .same none
    | some value =>
      cases value with
      | array entries =>
        refine .array (entries_alike_without fun value hv => not_taken (h value ?_))
        simpa [Place.value?, ht, Json.array?] using hv
      | _ => exact .same _

/-- Taking away a field that does not count, at any place, leaves what a configuration is read
as: the same configuration or the same fault. -/
theorem uncounted_as_absent [PatternEngine] (fields : Fields) (place : Place) (name : String)
    (h : ∀ value, place.value? fields name = some value → ¬ place.Counts fields name value) :
    ofJson (.object (place.without fields name)) = ofJson (.object fields) := by
  apply ReadAlike.read
  cases place with
  | top => exact top_alike h
  | driverOptions =>
    exact part_alike ("driverOptions", serverSettings) (by simp [partedSettings])
      fun value hv => not_taken (h value hv)
  | classOptions =>
    exact part_alike ("classOptions", classSettings) (by simp [partedSettings])
      fun value hv => not_taken (h value hv)
  | entry index => exact entry_alike h

def looseSettings (user tables : Json) : Fields :=
  [ ("driver", .string "mysql"),
    ("driverOptions", .object [("host", .string "h"), ("user", user),
      ("port", .number (.integer 70000))]),
    ("dir", .string "out"), ("defaultDb", .string "shop"), ("entireDatabase", .bool true),
    ("colour", .string "blue"), ("tables", tables) ]

def looseTable : Json := .object [("name", .string "users"), ("file", .string ""),
  ("omit", .array [.string "^id$", .number (.integer 3)])]

theorem loose_settings_as_absent :
    (∃ c, ofJson (.object (looseSettings (.string "u") (.array [looseTable]))) = .ok c ∧
      ofJson (.object (Place.top.without
        (looseSettings (.string "u") (.array [looseTable])) "colour")) = .ok c ∧
      ofJson (.object (Place.driverOptions.without
        (looseSettings (.string "u") (.array [looseTable])) "port")) = .ok c ∧
      ofJson (.object ((Place.entry 0).without
        (looseSettings (.string "u") (.array [looseTable])) "omit")) = .ok c) ∧
    ofJson (.object (Place.top.without (looseSettings .null (.string "all")) "tables")) =
      .error .userMissing := by
  have hc : ∃ c, ofJson (.object (looseSettings (.string "u") (.array [looseTable]))) = .ok c :=
    ⟨_, rfl⟩
  obtain ⟨c, hc⟩ := hc
  refine ⟨⟨c, hc, ?_, ?_, ?_⟩, ?_⟩
  · rw [← hc]
    apply uncounted_as_absent
    intro value _
    simp [Place.Counts, Place.settings, plainSettings]
  · rw [← hc]
    apply uncounted_as_absent
    intro value hv
    cases hv
    simp only [Place.Counts, Place.settings, serverSettings, List.mem_cons, Prod.mk.injEq]
    rintro (⟨s, hs, ht⟩ | ⟨hp, -⟩)
    · obtain rfl : s = .natural portBound := by simpa using hs
      cases ht with
      | natural _ _ hn => exact absurd hn (by decide)
    · cases hp
  · rw [← hc]
    apply uncounted_as_absent
    intro value hv
    cases hv
    rintro (⟨s, hs, ht⟩ | ⟨hp, -⟩)
    · obtain rfl : s = .texts := by simpa [Place.settings, tableSettings] using hs
      generalize hi : Json.array [.string "^id$", .number (.integer 3)] = value at ht
      cases ht with
      | texts ss => cases strings_of_items.mpr (Json.array.inj hi)
    · cases hp
  · refine (uncounted_as_absent _ _ _ ?_).trans rfl
    intro value hv
    cases hv
    have he : Fields.get? (looseSettings .null (.string "all")) "entireDatabase" =
        some (.bool true) := rfl
    simp [Place.Counts, Place.settings, plainSettings, he]

end Config

end SchemaTypes
