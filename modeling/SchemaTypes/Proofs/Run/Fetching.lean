import Mathlib.Data.List.Forall2
import SchemaTypes.Run

/-!
# Fetching columns

What one fetch does to a table, and how the fetches of a run end: at the first failure that is
no fault of a single table, or with every table.
-/

set_option autoImplicit false

namespace SchemaTypes

/-- A fetch fills in columns or marks the table, and leaves everything else. -/
theorem fetch_result {source : Source} {t t' : Table} (h : source.fetch t = .ok t') :
    (∃ columns, source.columns t.database t.name = .ok columns ∧
      t' = { t with columns := columns }) ∨
    (∃ e, source.columns t.database t.name = .error e ∧ e.isTableError = true ∧
      t' = { t with unreadable := true }) := by
  unfold Source.fetch at h
  cases ha : source.columns t.database t.name with
  | ok columns =>
    simp only [ha, Table.fetched, Except.ok.injEq] at h
    exact Or.inl ⟨columns, rfl, h.symm⟩
  | error e =>
    cases he : e.isTableError with
    | true =>
      simp only [ha, Table.fetched, he, if_true, Except.ok.injEq] at h
      exact Or.inr ⟨e, rfl, he, h.symm⟩
    | false => simp [ha, Table.fetched, he] at h

theorem fetch_failure_iff (source : Source) (t : Table) (failure : Failure) :
    source.fetch t = .error failure ↔
      ∃ e, source.columns t.database t.name = .error e ∧ e.isTableError = false ∧
        failure = .ofSchemaError e := by
  unfold Source.fetch
  cases source.columns t.database t.name with
  | ok columns => simp [Table.fetched]
  | error e =>
    cases he : e.isTableError with
    | true => simp [Table.fetched, he]
    | false =>
      simp only [Table.fetched, he, Bool.false_eq_true, if_false, Except.error.injEq,
        exists_eq_left', true_and]
      exact eq_comm

theorem fetch_continues_iff (source : Source) (t : Table) :
    (∃ t', source.fetch t = .ok t') ↔
      ∀ e, source.columns t.database t.name = .error e → e.isTableError = true := by
  constructor
  · rintro ⟨t', ht⟩ e he
    rcases fetch_result ht with ⟨columns, hc, -⟩ | ⟨e', he', hk, -⟩
    · rw [hc] at he
      cases he
    · rw [he'] at he
      cases he
      exact hk
  · intro h
    cases hf : source.fetch t with
    | ok t' => exact ⟨t', rfl⟩
    | error failure =>
      obtain ⟨e, he, hk, -⟩ := (fetch_failure_iff source t failure).mp hf
      rw [h e he] at hk
      cases hk

theorem fetch_all_failure_iff (source : Source) (ts : List Table) (failure : Failure) :
    (fetchAll source ts).result = .error failure ↔
      ∃ before t after, ts = before ++ t :: after ∧
        (∀ b ∈ before, ∃ b', source.fetch b = .ok b') ∧ source.fetch t = .error failure := by
  induction ts with
  | nil => simp [fetchAll]
  | cons t ts ih =>
    cases ht : source.fetch t with
    | error failure' =>
      simp only [fetchAll, ht, Except.error.injEq]
      constructor
      · rintro rfl
        exact ⟨[], t, ts, rfl, by simp, ht⟩
      · rintro ⟨before, s, after, hs, hb, hf⟩
        cases before with
        | nil =>
          cases hs
          rw [ht] at hf
          cases hf
          rfl
        | cons b before =>
          cases hs
          obtain ⟨b', hb'⟩ := hb t (by simp)
          rw [ht] at hb'
          cases hb'
    | ok t' =>
      have hr : (fetchAll source (t :: ts)).result = .error failure ↔
          (fetchAll source ts).result = .error failure := by
        simp only [fetchAll, ht]
        cases (fetchAll source ts).result <;> simp [Except.map]
      rw [hr, ih]
      constructor
      · rintro ⟨before, s, after, rfl, hb, hf⟩
        refine ⟨t :: before, s, after, rfl, ?_, hf⟩
        intro b hbm
        rcases List.mem_cons.mp hbm with rfl | hbm
        · exact ⟨t', ht⟩
        · exact hb b hbm
      · rintro ⟨before, s, after, hs, hb, hf⟩
        cases before with
        | nil =>
          cases hs
          rw [ht] at hf
          cases hf
        | cons b before =>
          cases hs
          exact ⟨before, s, after, rfl, fun b' hb' => hb b' (by simp [hb']), hf⟩

/-- The questions of fetching are about its tables, in order, up to the one that ends it. -/
theorem fetch_all_calls (source : Source) (ts : List Table) :
    (fetchAll source ts).calls <+: ts.map fun t => .fetch t.database t.name := by
  induction ts with
  | nil => exact List.prefix_refl _
  | cons t ts ih =>
    rw [fetchAll]
    cases source.fetch t with
    | error failure => exact List.prefix_iff_eq_append.mpr rfl
    | ok t' => exact List.cons_prefix_cons.mpr ⟨rfl, ih⟩

theorem fetch_all_pairs {source : Source} {ts ts' : List Table}
    (h : (fetchAll source ts).result = .ok ts') :
    List.Forall₂ (fun t t' => source.fetch t = .ok t') ts ts' := by
  induction ts generalizing ts' with
  | nil =>
    cases h
    exact .nil
  | cons t ts ih =>
    cases ht : source.fetch t with
    | error failure => simp [fetchAll, ht] at h
    | ok t' =>
      cases hs : (fetchAll source ts).result with
      | error failure => simp [fetchAll, ht, hs, Except.map] at h
      | ok rest =>
        simp only [fetchAll, ht, hs, Except.map, Except.ok.injEq] at h
        subst h
        exact .cons ht (ih hs)

theorem fetch_tables_found {c : Config} {source : Source} {ts : List Table}
    (h : (c.fetchTables source).result = .ok ts) :
    ∃ found, (c.runTables source).result = .ok found ∧
      (fetchAll source found).result = .ok ts := by
  cases hr : (c.runTables source).result with
  | error failure => simp [Config.fetchTables, hr] at h
  | ok found => exact ⟨found, rfl, by simpa [Config.fetchTables, hr] using h⟩

end SchemaTypes
