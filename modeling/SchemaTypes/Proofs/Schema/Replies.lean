import SchemaTypes.Failure
import SchemaTypes.Proofs.Config.Reading
import SchemaTypes.Schema.Server

/-!
# What is made of a reply

A server refuses a database or a table with an error of certain codes, and tells what it was asked
with rows that can be decoded. Whatever else it does, by another error, by hanging up or by rows
that cannot be decoded, counts as a failure of the connection. The same code can refuse a database
in one place and a table in another.
-/

set_option autoImplicit false

namespace SchemaTypes

def databaseCodes : List Nat := [1049, 1044]

def tableCodes : List Nat := [1146, 1142, 1049]

namespace Reply

def HasCode (codes : List Nat) : Reply → Prop
  | .error e => e.code ∈ codes
  | _ => False

instance (codes : List Nat) : DecidablePred (HasCode codes)
  | .error e => inferInstanceAs (Decidable (e.code ∈ codes))
  | .rows _ => inferInstanceAs (Decidable False)
  | .hangUp => inferInstanceAs (Decidable False)

def Decodes {α : Type} (decode : Row → Except RowFault α) : Reply → Prop
  | .rows found => ∀ r ∈ found, ∃ x, decode r = .ok x
  | _ => False

end Reply

def Greeting.HasCode (codes : List Nat) : Greeting → Prop
  | .refuse e => e.code ∈ codes
  | _ => False

namespace Server

def listReply (s : Server) (database : String) : Reply :=
  s.answer (Query.listTables database).sql

def columnsReply (s : Server) (t : Table) : Reply :=
  s.answer (Query.showColumns t.database t.name).sql

end Server

/-- An answer is one of three: what was asked for if it was told, an error of a certain kind if it
was refused, and otherwise an error that a run takes for one of the connection. -/
inductive Classified {α : Type} (told refused : Prop) (refusal : SchemaError → Prop) :
    Except SchemaError α → Prop
  | told {x : α} (ht : told) (hr : ¬ refused) : Classified told refused refusal (.ok x)
  | refused {e : SchemaError} (he : refusal e) (ht : ¬ told) (hr : refused) :
      Classified told refused refusal (.error e)
  | broken {e : SchemaError} {reason : String} (he : Failure.ofSchemaError e = .connection reason)
      (ht : ¬ told) (hr : ¬ refused) : Classified told refused refusal (.error e)

section Classified
variable {α : Type} {told refused : Prop} {refusal : SchemaError → Prop}
  {answer : Except SchemaError α}

theorem Classified.error_of_refused (h : Classified told refused refusal answer)
    (hr : refused) : ∃ e, answer = .error e ∧ refusal e := by
  cases h with
  | told _ hn => exact absurd hr hn
  | refused he _ _ => exact ⟨_, rfl, he⟩
  | broken _ _ hn => exact absurd hr hn

theorem Classified.error_of_neither (h : Classified told refused refusal answer)
    (ht : ¬ told) (hr : ¬ refused) :
    ∃ e reason, answer = .error e ∧ Failure.ofSchemaError e = .connection reason := by
  cases h with
  | told hn _ => exact absurd hn ht
  | refused _ _ hn => exact absurd hn hr
  | broken he _ _ => exact ⟨_, _, rfl, he⟩

theorem Classified.of_error (h : Classified told refused refusal answer) {e : SchemaError}
    (he : answer = .error e) : refusal e ∧ refused ∨
      (∃ reason, Failure.ofSchemaError e = .connection reason) ∧ ¬ told ∧ ¬ refused := by
  cases h with
  | told _ _ => cases he
  | refused hk _ hr =>
    cases he
    exact Or.inl ⟨hk, hr⟩
  | broken hk ht hr =>
    cases he
    exact Or.inr ⟨⟨_, hk⟩, ht, hr⟩

end Classified

theorem connection_not_of_table {e : SchemaError} {reason : String}
    (h : Failure.ofSchemaError e = .connection reason) : e.isTableError = false := by
  cases e with
  | tableNotFound table reason => cases h
  | _ => rfl

theorem decoded_ok_iff {α : Type} (f : Row → Except RowFault α) (found : List Row) :
    (∃ xs, found.mapM f = .ok xs) ↔ ∀ r ∈ found, ∃ x, f r = .ok x := by
  constructor
  · rintro ⟨xs, h⟩ r hr
    obtain ⟨x, -, hx⟩ := paired_right (traversal_pairs h) hr
    exact ⟨x, hx⟩
  · intro h
    induction found with
    | nil => exact ⟨[], rfl⟩
    | cons r found ih =>
      obtain ⟨x, hx⟩ := h r (by simp)
      obtain ⟨xs, hxs⟩ := ih fun s hs => h s (by simp [hs])
      exact ⟨x :: xs, by rw [List.mapM_cons, hx, hxs]; rfl⟩

theorem rows_classified {α β : Type} (decode : Row → Except RowFault α) (found : List Row)
    (codes : List Nat) (refusal : SchemaError → Prop) (f : List α → β) :
    Classified ((Reply.rows found).Decodes decode) ((Reply.rows found).HasCode codes) refusal
      ((Server.decoded (found.mapM decode)).map f) := by
  have hd := decoded_ok_iff decode found
  cases h : found.mapM decode with
  | ok xs => exact .told (hd.mp ⟨xs, h⟩) id
  | error fault =>
    refine .broken rfl (fun ht => ?_) id
    obtain ⟨xs, hxs⟩ := hd.mpr ht
    rw [h] at hxs
    cases hxs

theorem database_codes_iff {code : Nat} :
    code ∈ databaseCodes ↔ code = unknownDatabase ∨ code = databaseDenied := by
  simp [databaseCodes, unknownDatabase, databaseDenied]

theorem table_codes_iff {code : Nat} :
    code ∈ tableCodes ↔ code = unknownTable ∨ code = tableDenied ∨ code = unknownDatabase := by
  simp [tableCodes, unknownTable, tableDenied, unknownDatabase]

theorem on_database_refused (database : String) {e : ServerError} (h : e.code ∈ databaseCodes) :
    SchemaError.onDatabase database e = .schemaNotFound database := by
  rw [SchemaError.onDatabase, if_pos (database_codes_iff.mp h)]

theorem on_database_other (database : String) {e : ServerError} (h : e.code ∉ databaseCodes) :
    SchemaError.onDatabase database e = .server e := by
  rw [SchemaError.onDatabase, if_neg (database_codes_iff.not.mp h)]

theorem on_table_refused (table : String) {e : ServerError} (h : e.code ∈ tableCodes) :
    SchemaError.onTable table e = .tableNotFound table (SchemaError.server e).message := by
  rw [SchemaError.onTable, if_pos (table_codes_iff.mp h)]

theorem on_table_other (table : String) {e : ServerError} (h : e.code ∉ tableCodes) :
    SchemaError.onTable table e = .server e := by
  rw [SchemaError.onTable, if_neg (table_codes_iff.not.mp h)]

namespace Server

theorem connect_classified (server : Option Server) (database : String) :
    Classified (∃ s, server = some s ∧ s.greeting = .accept)
      (∃ s, server = some s ∧ s.greeting.HasCode databaseCodes) (· = .schemaNotFound database)
      (connect server database) := by
  cases server with
  | none => exact .broken rfl (by simp) (by simp)
  | some s =>
    cases hg : s.greeting with
    | accept =>
      simp only [connect, hg]
      exact .told ⟨s, rfl, hg⟩ (by simp [hg, Greeting.HasCode])
    | hangUp =>
      simp only [connect, hg]
      exact .broken rfl (by simp [hg]) (by simp [hg, Greeting.HasCode])
    | refuse e =>
      simp only [connect, hg]
      by_cases hc : e.code ∈ databaseCodes
      · exact .refused (on_database_refused database hc) (by simp [hg])
          ⟨s, rfl, by simpa [hg, Greeting.HasCode] using hc⟩
      · rw [on_database_other database hc]
        exact .broken rfl (by simp [hg]) (by simpa [hg, Greeting.HasCode] using hc)

theorem list_classified (s : Server) (database : String) (views : Bool) :
    Classified ((s.listReply database).Decodes Row.tableEntry)
      ((s.listReply database).HasCode databaseCodes) (· = .schemaNotFound database)
      (s.list database views) := by
  rw [list, listReply]
  cases s.answer (Query.listTables database).sql with
  | rows found => exact rows_classified Row.tableEntry found _ _ _
  | hangUp => exact .broken rfl id id
  | error e =>
    by_cases hc : e.code ∈ databaseCodes
    · exact .refused (on_database_refused database hc) id hc
    · simp only [on_database_other database hc]
      exact .broken rfl id hc

theorem columns_classified (s : Server) (t : Table) :
    Classified ((s.columnsReply t).Decodes Row.column) ((s.columnsReply t).HasCode tableCodes)
      (fun e => ∃ reason, e = .tableNotFound t.name reason) (s.columns t.database t.name) := by
  rw [columns, columnsReply]
  cases s.answer (Query.showColumns t.database t.name).sql with
  | rows found =>
    have h := rows_classified Row.column found tableCodes
      (fun e => ∃ reason, e = .tableNotFound t.name reason) id
    rwa [Except.map_id] at h
  | hangUp => exact .broken rfl id id
  | error e =>
    by_cases hc : e.code ∈ tableCodes
    · exact .refused ⟨_, on_table_refused t.name hc⟩ id hc
    · simp only [on_table_other t.name hc]
      exact .broken rfl id hc

theorem connect_accepts {server : Option Server} {database : String} {s : Server}
    (h : connect server database = .ok s) : server = some s ∧ s.greeting = .accept := by
  cases server with
  | none => cases h
  | some s' =>
    cases hg : s'.greeting with
    | accept =>
      simp only [connect, hg, Except.ok.injEq] at h
      exact ⟨congrArg some h, h ▸ hg⟩
    | hangUp => simp [connect, hg] at h
    | refuse e => simp [connect, hg] at h

end Server

end SchemaTypes
