import SchemaTypes.Declaration.Basic
import SchemaTypes.Proofs.Config.Violations

/-!
# Patterns of configured tables

Reading a configuration checks the patterns of its tables one by one. A table whose patterns are
all well formed can be rendered, whatever its columns.
-/

set_option autoImplicit false

namespace SchemaTypes

variable [PatternEngine]

def Table.Checked (t : Table) : Prop := ∀ p ∈ t.omitPatterns, (PatternEngine.parse? p).isSome = true

theorem patterns_parsed (ps : List String) (hp : ∀ p ∈ ps, (PatternEngine.parse? p).isSome = true) :
    ∃ qs, ps.mapM PatternEngine.parse? = some qs := by
  induction ps with
  | nil => exact ⟨[], rfl⟩
  | cons p ps ih =>
    obtain ⟨q, hq⟩ := Option.isSome_iff_exists.mp (hp p (by simp))
    obtain ⟨qs, hqs⟩ := ih fun p' h => hp p' (by simp [h])
    exact ⟨q :: qs, by simp [List.mapM_cons, hq, hqs]⟩

theorem checked_renders (c : Config) (t : Table) (ht : t.Checked) :
    ∃ code, t.render c = .ok code := by
  obtain ⟨qs, hqs⟩ := patterns_parsed t.omitPatterns ht
  exact ⟨_, by rw [Table.render, Table.declaration, Table.omitted?, hqs]; rfl⟩

namespace Config

theorem omit_violations_nil {t : Table} : omitViolations t = [] ↔ t.Checked := by
  simp [omitViolations, Table.Checked, Option.isSome_iff_ne_none]

theorem read_tables_checked {raw : Json} {c : Config} (h : ofJson raw = .ok c) :
    ∀ t ∈ c.tables, t.Checked := by
  obtain ⟨base, ts, -, -, ho, rfl⟩ := read_steps h
  have hnone := (omits_report ts).ok_iff.mp ⟨(), ho⟩
  intro t ht
  exact omit_violations_nil.mp (List.flatMap_eq_nil_iff.mp hnone t ht)

end Config

end SchemaTypes
