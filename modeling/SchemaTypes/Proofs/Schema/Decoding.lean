import Mathlib.Data.List.Forall2
import SchemaTypes.Proofs.Config.Reading
import SchemaTypes.Proofs.Name.Inverses
import SchemaTypes.Schema.Server

/-!
# Decoding rows

A row is read value by value, in a fixed order. A value is at fault if it is missing, if it is no
text, or if it is null where there must be a text. Reading rows ends with the first fault of the
first row that has one; if there is none, every row is told in full.
-/

set_option autoImplicit false

namespace SchemaTypes

/-! ## Words in any case -/

namespace Text

def Spells (word text : String) : Prop :=
  List.Forall₂ (fun capital c => c = capital ∨ c = capital.toLower) word.toList text.toList

instance (word text : String) : Decidable (Spells word text) :=
  inferInstanceAs (Decidable (List.Forall₂ _ _ _))

theorem same_letter_iff {capital : Char} (hu : capital.isUpper = true) (c : Char) :
    c.toLower = capital.toLower ↔ c = capital ∨ c = capital.toLower := by
  constructor
  · intro h
    by_cases hc : c.isUpper = true
    · left
      rw [← Case.upper_lowered hc, h, Case.upper_lowered hu]
    · right
      rw [← h, Char.toLower_eq_of_not_isUpper hc]
  · rintro (rfl | rfl) <;> simp

theorem spells_iff {word : String} (hw : word.toList.all Char.isUpper = true) (text : String) :
    sameIgnoringCase text word = true ↔ Spells word text := by
  rw [sameIgnoringCase, beq_iff_eq, Spells]
  generalize word.toList = ws at hw
  generalize text.toList = cs
  induction ws generalizing cs with
  | nil => simp
  | cons w ws ih =>
    obtain ⟨hu, hws⟩ : w.isUpper = true ∧ ws.all Char.isUpper = true := by simpa using hw
    cases cs with
    | nil => simp
    | cons c cs => simp [same_letter_iff hu, ih hws]

end Text

/-! ## The first error -/

section Except
variable {ε α β : Type}

theorem find_some_cons (g : α → Option ε) (a : α) (as : List α) :
    (a :: as).findSome? g = (g a).or (as.findSome? g) := by
  rw [List.findSome?_cons]
  cases g a <;> rfl

/-- A computation fails with an error if there is one, and with no other. -/
def FailsWith (result : Except ε α) (error? : Option ε) : Prop :=
  ∀ e, result = .error e ↔ error? = some e

namespace FailsWith
variable {result : Except ε α} {error? : Option ε}

theorem done (a : α) : FailsWith (.ok a : Except ε α) none := by
  intro e
  simp

theorem ok_iff (h : FailsWith result error?) : (∃ a, result = .ok a) ↔ error? = none := by
  rw [Option.eq_none_iff_forall_ne_some]
  cases result with
  | ok a => exact iff_of_true ⟨a, rfl⟩ fun e he => nomatch (h e).mpr he
  | error e => exact iff_of_false (by simp) fun hn => hn e ((h e).mp rfl)

/-- Of two computations the second is only made if the first succeeds, so the first error counts. -/
theorem bind {next : α → Except ε β} {later? : Option ε} (h : FailsWith result error?)
    (hn : ∀ a, result = .ok a → FailsWith (next a) later?) :
    FailsWith (result >>= next) (error?.or later?) := by
  cases result with
  | ok a =>
    rw [h.ok_iff.mp ⟨a, rfl⟩, Option.none_or]
    exact hn a rfl
  | error e =>
    rw [(h e).mp rfl, Option.some_or]
    intro e'
    simp [Bind.bind, Except.bind]

theorem traversal {f : α → Except ε β} {g : α → Option ε} (h : ∀ a, FailsWith (f a) (g a))
    (as : List α) : FailsWith (as.mapM f) (as.findSome? g) := by
  induction as with
  | nil => exact done []
  | cons a as ih =>
    rw [List.mapM_cons, find_some_cons]
    refine (h a).bind fun b _ => ?_
    have hrest := ih.bind fun bs _ => done (b :: bs)
    rwa [Option.or_none] at hrest

end FailsWith

theorem traversal_ok_iff {f : α → Except ε β} {as : List α} {bs : List β} :
    as.mapM f = .ok bs ↔ List.Forall₂ (fun a b => f a = .ok b) as bs := by
  refine ⟨traversal_pairs, fun h => ?_⟩
  induction h with
  | nil => rfl
  | cons ha _ ih => rw [List.mapM_cons, ha, ih]; rfl

end Except

/-! ## Values of a row -/

structure Slot where
  label : String
  /-- null is a fault -/
  needed : Bool
  cell : Row → Option Cell

namespace Slot

def named (name : String) (needed : Bool) : Slot := ⟨name, needed, fun r => r.cells.lookup name⟩

def positional (label : String) (index : Nat) : Slot :=
  ⟨label, true, fun r => (r.cells[index]?).map Prod.snd⟩

def Fits (s : Slot) (r : Row) : Prop :=
  (∃ text, s.cell r = some (.text text)) ∨ s.needed = false ∧ s.cell r = some .null

def fault? (s : Slot) (r : Row) : Option RowFault :=
  match s.cell r with
  | none => some (.missing s.label)
  | some .binary => some (.notText s.label)
  | some .null => if s.needed then some (.null s.label) else none
  | some (.text _) => none

theorem fits_iff (s : Slot) (r : Row) : s.Fits r ↔ s.fault? r = none := by
  unfold Fits fault?
  cases s.cell r with
  | none => simp
  | some cell => cases cell <;> simp

end Slot

namespace Row

def fault? (slots : List Slot) (r : Row) : Option RowFault := slots.findSome? (·.fault? r)

theorem fault_cons (slot : Slot) (slots : List Slot) (r : Row) :
    r.fault? (slot :: slots) = (slot.fault? r).or (r.fault? slots) :=
  find_some_cons _ slot slots

theorem fits_all_iff (slots : List Slot) (r : Row) :
    (∀ slot ∈ slots, slot.Fits r) ↔ r.fault? slots = none := by
  simp [fault?, Slot.fits_iff]

theorem decode_ok_iff {label : String} {cell : Option Cell} {value : Option String} :
    decode label cell = .ok value ↔ cell = some (value.elim .null .text) := by
  cases cell with
  | none => simp [decode]
  | some cell => cases cell <;> cases value <;> simp [decode]

theorem required_ok_iff {label : String} {cell : Option Cell} {text : String} :
    required label (decode label cell) = .ok text ↔ cell = some (.text text) := by
  cases cell with
  | none => simp [decode, required]
  | some cell => cases cell <;> simp [decode, required]

theorem decode_fails (slot : Slot) (hn : slot.needed = false) (r : Row) :
    FailsWith (decode slot.label (slot.cell r)) (slot.fault? r) := by
  intro fault
  unfold Slot.fault?
  cases slot.cell r with
  | none => simp [decode]
  | some cell => cases cell <;> simp [decode, hn]

theorem required_fails (slot : Slot) (hn : slot.needed = true) (r : Row) :
    FailsWith (required slot.label (decode slot.label (slot.cell r))) (slot.fault? r) := by
  intro fault
  unfold Slot.fault?
  cases slot.cell r with
  | none => simp [decode, required]
  | some cell => cases cell <;> simp [decode, required, hn]

end Row

theorem RowFault.message_injective : Function.Injective RowFault.message := by
  intro f g h
  have hl : f.message.toList.reverse.head? = g.message.toList.reverse.head? := by rw [h]
  cases f <;> cases g <;> simp [message, quoted] at h hl ⊢ <;> exact h

/-! ## Rows -/

def firstFault? (slots : List Slot) (rows : List Row) : Option RowFault :=
  rows.findSome? (Row.fault? slots)

theorem no_fault_iff (slots : List Slot) (rows : List Row) :
    firstFault? slots rows = none ↔ ∀ r ∈ rows, ∀ slot ∈ slots, slot.Fits r := by
  simp [firstFault?, Row.fits_all_iff]

namespace Server
variable {α : Type}

theorem decoded_eq_ok_iff {result : Except RowFault α} {a : α} :
    decoded result = .ok a ↔ result = .ok a := by
  cases result <;> simp [decoded]

theorem decoded_eq_error_iff {result : Except RowFault α} {e : SchemaError} :
    decoded result = .error e ↔ ∃ fault, result = .error fault ∧ e = .rowDecode fault.message := by
  cases result <;> simp [decoded, eq_comm]

section Rows
variable {decode : Row → Except RowFault α} {slots : List Slot} {rows : List Row}

theorem rows_ok_iff {R : Row → α → Prop} (hd : ∀ r a, decode r = .ok a ↔ R r a) (found : List α) :
    decoded (rows.mapM decode) = .ok found ↔ List.Forall₂ R rows found := by
  rw [decoded_eq_ok_iff, traversal_ok_iff]
  simp only [hd]

variable (hd : ∀ r, FailsWith (decode r) (r.fault? slots))
include hd

theorem rows_error_iff (e : SchemaError) : decoded (rows.mapM decode) = .error e ↔
    ∃ fault, firstFault? slots rows = some fault ∧ e = .rowDecode fault.message := by
  rw [decoded_eq_error_iff]
  simp only [FailsWith.traversal hd rows _, firstFault?]

theorem rows_fit_iff : (∃ found, decoded (rows.mapM decode) = .ok found) ↔
    ∀ r ∈ rows, ∀ slot ∈ slots, slot.Fits r := by
  simp only [decoded_eq_ok_iff]
  rw [(FailsWith.traversal hd rows).ok_iff]
  exact no_fault_iff slots rows

end Rows

end Server

end SchemaTypes
