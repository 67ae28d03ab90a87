import SchemaTypes.Declaration.Basic
import SchemaTypes.Proofs.Name.Identifiers
import SchemaTypes.Proofs.Name.Words

/-!
# Names of declarations

A declaration is named after its table and the suffix, both converted the way declarations are, with
a capital in front. Identifiers give identifiers. A table name made of words gives the same
declaration name in whatever convention it is spelled, unless declarations are named in snake case.
-/

set_option autoImplicit false

namespace SchemaTypes

namespace Case

theorem capitalize_append {cs : List Char} (hc : cs ≠ []) (ds : List Char) :
    capitalize (cs ++ ds) = capitalize cs ++ ds := by
  cases cs with
  | nil => exact absurd rfl hc
  | cons c cs => rfl

theorem capitalize_not_small (cs : List Char) :
    (capitalize cs).head?.any Char.isLower = false := by
  cases cs <;> simp [capitalize]

theorem identifier_capitalized {cs : List Char} (h : IsIdentifier cs) :
    IsIdentifier (capitalize cs) := by
  cases cs with
  | nil => exact h
  | cons c cs =>
    have hc : startsIdentifier c.toUpper = startsIdentifier c :=
      (same_letter_of_lower (by simp)).starts
    exact ⟨hc.trans h.1, h.2⟩

theorem identifier_extended {cs ds : List Char} (h : IsIdentifier cs)
    (hd : ∀ d ∈ ds, inIdentifier d = true) : IsIdentifier (cs ++ ds) := by
  cases cs with
  | nil => exact h.elim
  | cons c cs => exact ⟨h.1, List.forall_mem_append.mpr ⟨h.2, hd⟩⟩

end Case

namespace Config
open Case

/-- What the name of a declaration starts with, its capital apart. -/
def stem (c : Config) (t : Table) : String :=
  if c.renameTableToCase then c.case.convertUp t.name else t.name

theorem declaration_name_chars (c : Config) (t : Table) :
    (c.declarationName t).toList =
      capitalize ((c.stem t).toList ++ (c.case.convertUp t.suffix).toList) := by
  rw [declarationName, capitalized, String.toList_ofList, String.toList_append]
  rfl

theorem identifier_stem {c : Config} {t : Table} (h : IsIdentifier t.name.toList) :
    IsIdentifier (c.stem t).toList := by
  rw [stem]
  split
  · exact (identifier_convert_up_iff c.case t.name).mpr h
  · exact h

/-- Conversion to any convention, also that for declarations, makes an identifier of a name exactly
if the name is one. A table named by an identifier, with a suffix that could stand behind one, has
an identifier for the name of its declaration, and this does not start with a small letter. -/
theorem declared_by_identifiers (target : Case) (name : String) (c : Config) (t : Table) :
    (IsIdentifier (target.convert name).toList ↔ IsIdentifier name.toList) ∧
    (IsIdentifier (target.convertUp name).toList ↔ IsIdentifier name.toList) ∧
    (IsIdentifier t.name.toList → (∀ d ∈ t.suffix.toList, inIdentifier d = true) →
      IsIdentifier (c.declarationName t).toList ∧
      (c.declarationName t).toList.head?.any Char.isLower = false) := by
  refine ⟨identifier_convert_iff target name, identifier_convert_up_iff target name, ?_⟩
  intro hn hs
  have hd : ∀ d ∈ (c.case.convertUp t.suffix).toList, inIdentifier d = true := by
    rw [convert_up_chars]
    exact (converted_inside_iff _ _).mpr hs
  rw [declaration_name_chars]
  exact ⟨identifier_capitalized (identifier_extended (identifier_stem hn) hd),
    capitalize_not_small _⟩

def ledger : Table := { ({} : Config).bareTable "_gl__2_$" with suffix := "2_rows_" }

theorem ledger_declared_by_identifier :
    IsIdentifier ledger.name.toList ∧ (∀ d ∈ ledger.suffix.toList, inIdentifier d = true) ∧
      IsIdentifier (Case.snake.convertUp ledger.name).toList ∧
      IsIdentifier (({} : Config).declarationName ledger).toList ∧
      (({} : Config).declarationName ledger).toList.head?.any Char.isLower = false := by
  have hn : IsIdentifier ledger.name.toList := by decide +kernel
  have hs : ∀ d ∈ ledger.suffix.toList, inIdentifier d = true :=
    List.all_eq_true.mp (by decide +kernel)
  obtain ⟨-, hup, hd⟩ := declared_by_identifiers .snake ledger.name {} ledger
  exact ⟨hn, hs, hup.mpr hn, hd hn hs⟩

end Config

/-! ## Table names made of words -/

namespace Word
open Case

theorem up_spelled (target source : Case) (w : Word) (ws : List Word) :
    (target.convertUp (spelled source (w :: ws))).toList =
      convertChars (Case.raised target (ofChars (spelledChars source (w :: ws))))
        (spelledChars source (w :: ws)) := by
  rw [convert_up_chars, infer, spelled, String.toList_ofList]

theorem up_camel (target : Case) (w : Word) (ws : List Word) :
    (target.convertUp (spelled .camel (w :: ws))).toList = spelledChars .pascal (w :: ws) := by
  rw [up_spelled, camel_inferred]
  exact camel_converted .pascal w ws

theorem up_pascal (target : Case) (w : Word) (ws : List Word) :
    (target.convertUp (spelled .pascal (w :: ws))).toList =
      match target with
      | .snake => spelledChars .snake (w :: ws)
      | _ => spelledChars .camel (w :: ws) := by
  rw [up_spelled, pascal_inferred]
  exact pascal_converted target w ws

theorem up_snake (target : Case) (w v : Word) (ws : List Word) :
    (target.convertUp (spelled .snake (w :: v :: ws))).toList =
      spelledChars target (w :: v :: ws) := by
  rw [up_spelled, snake_inferred]
  exact snake_converted target w (v :: ws)

theorem up_single (target : Case) (w : Word) :
    (target.convertUp (spelled .snake [w])).toList = spelledChars .pascal [w] := by
  have hs : spelled .snake [w] = spelled .camel [w] := by
    rw [spelled, spelled, snake_single]
  rw [hs, up_camel]

theorem spelled_ne_nil (source : Case) (w : Word) (ws : List Word) :
    spelledChars source (w :: ws) ≠ [] := by
  cases source with
  | snake => simp [snake_chars, chars]
  | pascal => simp [spelledChars, Word.raised]
  | camel => simp [spelledChars, chars]

theorem pascal_capitalized (w : Word) (ws : List Word) :
    capitalize (spelledChars .pascal (w :: ws)) = spelledChars .pascal (w :: ws) := by
  simp [spelledChars, Word.raised, capitalize]

theorem single_capitalized (w : Word) :
    capitalize (spelledChars .snake [w]) = spelledChars .pascal [w] := by
  rw [snake_single, camel_capitalized]

theorem up_capitalized {target : Case} (ht : target ≠ .snake) (source : Case) (w : Word)
    (ws : List Word) :
    capitalize (target.convertUp (spelled source (w :: ws))).toList =
      spelledChars .pascal (w :: ws) := by
  cases source with
  | camel => rw [up_camel, pascal_capitalized]
  | pascal =>
    rw [up_pascal]
    cases target with
    | snake => exact absurd rfl ht
    | camel => exact camel_capitalized w ws
    | pascal => exact camel_capitalized w ws
  | snake =>
    cases ws with
    | nil => rw [up_single, pascal_capitalized]
    | cons v ws =>
      rw [up_snake]
      cases target with
      | snake => exact absurd rfl ht
      | camel => exact camel_capitalized w (v :: ws)
      | pascal => exact pascal_capitalized w (v :: ws)

/-- What names a declaration in snake case, its capital apart, is the snake case spelling. Camel
case is raised to pascal case instead. -/
theorem up_snake_capitalized {source : Case} (hs : source ≠ .camel) (w : Word) (ws : List Word) :
    capitalize (Case.snake.convertUp (spelled source (w :: ws))).toList =
      capitalize (spelledChars .snake (w :: ws)) := by
  cases source with
  | camel => exact absurd rfl hs
  | pascal => rw [up_pascal]
  | snake =>
    cases ws with
    | nil => rw [up_single, pascal_capitalized, single_capitalized]
    | cons v ws => rw [up_snake]

section Declared
variable {c : Config} (hr : c.renameTableToCase = true) (t : Table) (w : Word) (ws : List Word)
include hr

theorem declared_chars (source : Case) :
    (c.declarationName { t with name := spelled source (w :: ws) }).toList =
      capitalize (c.case.convertUp (spelled source (w :: ws))).toList ++
        (c.case.convertUp t.suffix).toList := by
  have hn : (c.case.convertUp (spelled source (w :: ws))).toList ≠ [] := by
    intro he
    have hk := first_kept (Case.raised c.case (ofChars (spelledChars source (w :: ws))))
      (spelledChars source (w :: ws))
    rw [← up_spelled, he] at hk
    simp [spelled_ne_nil] at hk
  rw [Config.declaration_name_chars, Config.stem, if_pos hr, capitalize_append hn]

theorem declared_pascal {source : Case}
    (hs : c.case ≠ .snake ∨ source = .camel) :
    c.declarationName { t with name := spelled source (w :: ws) } =
      spelled .pascal (w :: ws) ++ c.case.convertUp t.suffix := by
  have hp : capitalize (c.case.convertUp (spelled source (w :: ws))).toList =
      spelledChars .pascal (w :: ws) := by
    rcases hs with ht | rfl
    · exact up_capitalized ht source w ws
    · rw [up_camel, pascal_capitalized]
  rw [← String.toList_inj, declared_chars hr, hp, String.toList_append, spelled,
    String.toList_ofList]

theorem declared_snake (hc : c.case = .snake) (source : Case) (hs : source ≠ .camel) :
    c.declarationName { t with name := spelled source (w :: ws) } =
      capitalized (spelled .snake (w :: ws)) ++ c.case.convertUp t.suffix := by
  have hk : capitalize (c.case.convertUp (spelled source (w :: ws))).toList =
      capitalize (spelledChars .snake (w :: ws)) := by
    rw [hc, up_snake_capitalized hs]
  rw [← String.toList_inj, declared_chars hr, hk, String.toList_append, capitalized, spelled,
    String.toList_ofList, String.toList_ofList]

end Declared

theorem capitalized_snake_iff (w : Word) (ws : List Word) :
    capitalized (spelled .snake (w :: ws)) = spelled .pascal (w :: ws) ↔ ws = [] := by
  rw [← String.toList_inj, capitalized, spelled, spelled, String.toList_ofList,
    String.toList_ofList, String.toList_ofList]
  cases ws with
  | nil => simp [single_capitalized]
  | cons v ws =>
    have hm : '_' ∈ capitalize (spelledChars .snake (w :: v :: ws)) := by
      simp [snake_chars, chars, capitalize]
    refine iff_of_false (fun he => ?_) (by simp)
    rw [he] at hm
    exact pascal_chars_plain _ _ hm rfl

/-- When tables are renamed to camel or pascal case, the name of a declaration is the pascal case
spelling of the words of the table name, with the suffix, in whatever convention the table name is
spelled. In snake case the snake and the pascal case spelling give one name, the snake case spelling
with a capital in front; the camel case spelling gives it only for a single word. -/
theorem declared_alike_for_spellings {c : Config} (hr : c.renameTableToCase = true) (t : Table)
    (w : Word) (ws : List Word) :
    (c.case ≠ .snake → ∀ source : Case,
      c.declarationName { t with name := spelled source (w :: ws) } =
        spelled .pascal (w :: ws) ++ c.case.convertUp t.suffix) ∧
    (c.case = .snake →
      c.declarationName { t with name := spelled .snake (w :: ws) } =
        c.declarationName { t with name := spelled .pascal (w :: ws) } ∧
      c.declarationName { t with name := spelled .snake (w :: ws) } =
        capitalized (spelled .snake (w :: ws)) ++ c.case.convertUp t.suffix ∧
      (c.declarationName { t with name := spelled .camel (w :: ws) } =
        c.declarationName { t with name := spelled .snake (w :: ws) } ↔ ws = [])) := by
  refine ⟨fun hc source => declared_pascal hr t w ws (.inl hc), fun hc => ?_⟩
  have hs := declared_snake hr t w ws hc .snake (by simp)
  have hp := declared_snake hr t w ws hc .pascal (by simp)
  refine ⟨hs.trans hp.symm, hs, ?_⟩
  rw [hs, declared_pascal hr t w ws (.inr rfl), ← capitalized_snake_iff w ws, eq_comm,
    ← String.toList_inj, ← String.toList_inj, String.toList_append, String.toList_append,
    List.append_cancel_right_eq]

def order : Word := ⟨'o', "rder2".toList, by decide, by simp⟩

def items : Word := ⟨'i', "tems".toList, by decide, by simp⟩

def orderItems (source : Case) : Table :=
  { ({} : Config).bareTable "" with name := spelled source [order, items] }

theorem order_items_declared_alike :
    ({} : Config).renameTableToCase = true ∧ ({} : Config).case ≠ .snake ∧
      (orderItems .snake).name = "order2_items" ∧
      (∀ source : Case, ({} : Config).declarationName (orderItems source) = "Order2ItemsModel") ∧
      ({ case := .snake } : Config).declarationName (orderItems .camel) ≠
        ({ case := .snake } : Config).declarationName (orderItems .snake) := by
  have hp : spelled .pascal [order, items] ++ Case.camel.convertUp "model" =
      "Order2ItemsModel" := by decide +kernel
  have ha := declared_alike_for_spellings (c := {}) rfl (({} : Config).bareTable "") order [items]
  have hb := declared_alike_for_spellings (c := { case := .snake }) rfl
    (({} : Config).bareTable "") order [items]
  refine ⟨rfl, by decide, by decide +kernel, fun source => ?_, (hb.2 rfl).2.2.not.mpr (by simp)⟩
  rw [← hp]
  exact ha.1 (by decide) source

end Word

end SchemaTypes
