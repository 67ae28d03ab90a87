import SchemaTypes.Proofs.Config.Reading
import SchemaTypes.Proofs.Run.Merging
import SchemaTypes.Proofs.Run.Reporting

/-!
# The questions of a run

What a source is asked and what becomes of the tables. A run of an entire database asks for the
listing first; after that one question is asked about each table, in order, up to the first answer
that neither tells the columns nor refuses this one table.
-/

set_option autoImplicit false

namespace SchemaTypes

def Table.question (t : Table) : Call := .fetch t.database t.name

/-- The answer about a table ends the run: an error, and not one of this table alone. -/
def Source.breaks (source : Source) (t : Table) : Bool :=
  match source.columns t.database t.name with
  | .ok _ => false
  | .error (.tableNotFound _ _) => false
  | .error _ => true

/-- The tables that are asked about: all up to the first whose answer ends the run, and this one. -/
def Source.asked (source : Source) (ts : List Table) : List Table :=
  ts.takeWhile (fun t => !source.breaks t) ++ (ts.dropWhile (fun t => !source.breaks t)).take 1

/-- What becomes of a table with the answer about it. Nothing but columns and mark can change. -/
inductive Table.Answered (source : Source) (t : Table) : Table → Prop
  | told {columns : List Column} (h : source.columns t.database t.name = .ok columns) :
      t.Answered source { t with columns := columns }
  | refused {table reason : String}
      (h : source.columns t.database t.name = .error (.tableNotFound table reason)) :
      t.Answered source { t with unreadable := true }

def Table.Unfetched (t : Table) : Prop := t.unreadable = false ∧ t.columns = []

theorem breaks_iff (source : Source) (t : Table) : source.breaks t = true ↔
    ∃ e, source.columns t.database t.name = .error e ∧ e.isTableError = false := by
  unfold Source.breaks
  cases source.columns t.database t.name with
  | ok columns => simp
  | error e => cases e <;> simp [SchemaError.isTableError]

theorem fetch_breaks_iff (source : Source) (t : Table) :
    (∃ failure, source.fetch t = .error failure) ↔ source.breaks t = true := by
  simp only [fetch_failure_iff, breaks_iff]
  constructor
  · rintro ⟨_, e, he, hk, -⟩
    exact ⟨e, he, hk⟩
  · rintro ⟨e, he, hk⟩
    exact ⟨_, e, he, hk, rfl⟩

theorem asked_goes_on {source : Source} {t : Table} (h : source.breaks t = false)
    (ts : List Table) : source.asked (t :: ts) = t :: source.asked ts := by
  simp [Source.asked, h]

theorem asked_ends {source : Source} {t : Table} (h : source.breaks t = true)
    (ts : List Table) : source.asked (t :: ts) = [t] := by
  simp [Source.asked, h]

theorem asked_all {source : Source} {ts : List Table} (h : ∀ t ∈ ts, source.breaks t = false) :
    source.asked ts = ts := by
  induction ts with
  | nil => rfl
  | cons t ts ih =>
    obtain ⟨ht, hts⟩ := List.forall_mem_cons.mp h
    rw [asked_goes_on ht, ih hts]

theorem fetch_all_asks (source : Source) (ts : List Table) :
    (fetchAll source ts).calls = (source.asked ts).map Table.question := by
  induction ts with
  | nil => rfl
  | cons t ts ih =>
    cases ht : source.fetch t with
    | error failure =>
      rw [asked_ends ((fetch_breaks_iff source t).mp ⟨failure, ht⟩)]
      simp [fetchAll, ht, Table.question]
    | ok t' =>
      have hb : source.breaks t = false := by
        refine Bool.of_not_eq_true fun hb => ?_
        obtain ⟨failure, hf⟩ := (fetch_breaks_iff source t).mpr hb
        rw [ht] at hf
        cases hf
      rw [asked_goes_on hb]
      simp [fetchAll, ht, ih, Table.question]

theorem fetch_answered {source : Source} {t t' : Table} (h : source.fetch t = .ok t') :
    t.Answered source t' := by
  rcases fetch_result h with ⟨columns, hc, rfl⟩ | ⟨e, he, hk, rfl⟩
  · exact .told hc
  · cases e with
    | tableNotFound table reason => exact .refused he
    | _ => cases hk

theorem fetch_all_succeeds_iff (source : Source) (ts : List Table) :
    (∃ ts', (fetchAll source ts).result = .ok ts') ↔ ∀ t ∈ ts, source.breaks t = false := by
  constructor
  · rintro ⟨ts', h⟩ t ht
    refine Bool.of_not_eq_true fun hb => ?_
    obtain ⟨failure, hf⟩ := (fetch_breaks_iff source t).mpr hb
    obtain ⟨t', -, hs⟩ := paired_right (fetch_all_pairs h) ht
    rw [hs] at hf
    cases hf
  · intro h
    cases hr : (fetchAll source ts).result with
    | ok ts' => exact ⟨ts', rfl⟩
    | error failure =>
      obtain ⟨before, t, after, rfl, -, hf⟩ := (fetch_all_failure_iff source ts failure).mp hr
      have hb := (fetch_breaks_iff source t).mp ⟨failure, hf⟩
      rw [h t (by simp)] at hb
      cases hb

namespace Config

def listingQuestion (c : Config) : List Call :=
  if c.entireDatabase then [.list c.defaultDb c.modelViews] else []

theorem run_tables_calls (c : Config) (source : Source) :
    (c.runTables source).calls = c.listingQuestion := by
  unfold runTables listingQuestion
  split <;> rfl

theorem fetch_tables_of_found {c : Config} {source : Source} {found : List Table}
    (h : (c.runTables source).result = .ok found) :
    c.fetchTables source = ⟨(fetchAll source found).result,
      c.listingQuestion ++ (source.asked found).map Table.question⟩ := by
  simp [fetchTables, h, run_tables_calls, fetch_all_asks]

theorem resolved_unfetched {c : Config} {entry : Json} {t : Table}
    (h : c.resolveTable entry = .ok t) : t.Unfetched := by
  cases entry with
  | string name =>
    cases h
    exact ⟨rfl, rfl⟩
  | object fields =>
    rw [resolveTable, objectTable] at h
    split at h
    · cases h
    · cases h
      exact ⟨rfl, rfl⟩
  | _ => cases h

theorem read_tables_unfetched [PatternEngine] {raw : Json} {c : Config} (h : ofJson raw = .ok c) :
    ∀ t ∈ c.tables, t.Unfetched := by
  obtain ⟨base, ts, -, hp, -, rfl⟩ := read_steps h
  intro t ht
  obtain ⟨entry, -, hr⟩ := paired_left hp ht
  exact resolved_unfetched hr

end Config

structure Table.Tells (source : Source) (t t' : Table) : Prop where
  refused : t'.unreadable = true ↔ source.refuses t = true
  columns : t'.unreadable = false → source.columns t.database t.name = .ok t'.columns
  bare : t'.unreadable = true → t'.columns = []

theorem Table.Answered.tells {source : Source} {t t' : Table} (h : t.Answered source t')
    (ht : t.Unfetched) : t.Tells source t' := by
  cases h with
  | told hc => exact ⟨by simp [ht.1, Source.refuses, hc], fun _ => hc, by simp [ht.1]⟩
  | refused he => exact ⟨by simp [Source.refuses, he], by simp, fun _ => ht.2⟩

/-- A run asks for the listing if it is one of an entire database, and then about its tables, in
order and once each, until an answer is an error that is not a refusal of the table. It gets its
tables exactly if there is no such answer: as many as it has found, in the same order, and each
with its columns filled in or with a mark and otherwise as it was. A table that had no mark and
no columns has one of the two then: the mark if its own fetch was refused, and else the columns
that were told. -/
theorem questions_of_fetch (c : Config) (source : Source) :
    (∀ failure, (c.runTables source).result = .error failure →
      c.fetchTables source = ⟨.error failure, c.listingQuestion⟩) ∧
    ∀ found, (c.runTables source).result = .ok found →
      (c.fetchTables source).calls =
        c.listingQuestion ++ (source.asked found).map Table.question ∧
      ((∃ ts, (c.fetchTables source).result = .ok ts) ↔
        ∀ t ∈ found, source.breaks t = false) ∧
      ∀ ts, (c.fetchTables source).result = .ok ts →
        List.Forall₂ (Table.Answered source) found ts ∧
        ((∀ t ∈ c.tables, t.Unfetched) → List.Forall₂ (Table.Tells source) found ts) := by
  refine ⟨?_, ?_⟩
  · intro failure h
    simp [Config.fetchTables, h, Config.run_tables_calls]
  · intro found h
    have hfetch := Config.fetch_tables_of_found h
    refine ⟨by rw [hfetch], by rw [hfetch]; exact fetch_all_succeeds_iff source found, ?_⟩
    intro ts hts
    rw [hfetch] at hts
    have hanswered := (fetch_all_pairs hts).imp fun _ _ => fetch_answered
    refine ⟨hanswered, fun hc => ?_⟩
    have hfresh : ∀ t ∈ found, t.Unfetched :=
      Config.run_tables_all (fun _ => ⟨rfl, rfl⟩) hc h
    have hpaired := (List.forall₂_and_left found ts).mpr ⟨hfresh, hanswered⟩
    exact hpaired.imp fun _ _ h => h.2.tells h.1

def brokenOff : Source where
  list _ _ := .ok ["users", "audit", "orders", "items"]
  columns database table :=
    if table = "orders" then .error .lost else guardedAudit.columns database table

theorem loss_ends_questions :
    (({ mixedOutput with entireDatabase := true } : Config).fetchTables brokenOff).calls =
      [.list "shop" false, .fetch "shop" "users", .fetch "shop" "audit",
        .fetch "shop" "orders"] ∧
    ∃ ts, (mixed.fetchTables guardedAudit).result = .ok ts ∧
      List.Forall₂ (Table.Tells guardedAudit) mixed.tables ts := by
  obtain ⟨-, hbroken⟩ := questions_of_fetch { mixedOutput with entireDatabase := true } brokenOff
  obtain ⟨-, hmixed⟩ := questions_of_fetch mixed guardedAudit
  refine ⟨(hbroken _ rfl).1.trans (by decide +kernel), ?_⟩
  obtain ⟨-, hsucceeds, htables⟩ := hmixed mixed.tables rfl
  obtain ⟨ts, hts⟩ := hsucceeds.mpr (by decide +kernel)
  have hc : Config.ofJson mixedSettings = .ok mixed := by decide +kernel
  exact ⟨ts, hts, (htables ts hts).2 (Config.read_tables_unfetched hc)⟩

end SchemaTypes
