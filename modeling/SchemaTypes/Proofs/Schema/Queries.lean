import Mathlib.Logic.Function.Basic
import SchemaTypes.Command.Basic
import SchemaTypes.Proofs.Text.SqlTokens

/-!
# Queries read back

The two queries that a server is sent, read as SQL, have their fixed words and the names that they
ask about, whatever these names hold. So the text of a query tells the query.
-/

set_option autoImplicit false

namespace SchemaTypes

namespace Query
open Sql

def tokens : Query → List Token
  | listTables database =>
    [.word "SHOW", .word "FULL", .word "TABLES", .word "FROM", .name database]
  | showColumns database table =>
    [.word "SHOW", .word "COLUMNS", .word "FROM", .name table, .word "FROM", .name database]

theorem tokens_injective : Function.Injective tokens := by
  intro q q' h
  cases q with
  | listTables database =>
    cases q' with
    | listTables database' => simpa [tokens] using h
    | showColumns database' table' => simp [tokens] at h
  | showColumns database table =>
    cases q' with
    | listTables database' => simp [tokens] at h
    | showColumns database' table' => simpa [tokens, and_comm] using h

theorem run_listing : run .gap "SHOW FULL TABLES FROM ".toList =
    some ([.word "SHOW", .word "FULL", .word "TABLES", .word "FROM"], .gap) := rfl

theorem run_columns : run .gap "SHOW COLUMNS FROM ".toList =
    some ([.word "SHOW", .word "COLUMNS", .word "FROM"], .gap) := rfl

theorem sql_reads (q : Query) : Reads q.sql q.tokens := by
  cases q with
  | listTables database => exact Reads.after run_listing (reads_name database)
  | showColumns database table =>
    have hd := Reads.after run_from (reads_name database)
    have ht := (reads_name table).append hd (starts_front _ rfl) (by decide)
    have h := Reads.after run_columns ht
    simp only [← String.append_assoc] at h
    exact h

end Query

/-- What becomes of asking a server hangs on its reply to one text and on nothing else: this text is
sent. -/
structure Server.Sends {α : Type} (ask : Server → α) (text : String) : Prop where
  decided : ∀ s s' : Server, s.answer text = s'.answer text → ask s = ask s'
  matters : ∃ s s' : Server, ask s ≠ ask s'

theorem Server.list_sends (database : String) (views : Bool) :
    Server.Sends (fun s => s.list database views) (Query.listTables database).sql where
  decided s s' h := by simp only [Server.list, h]
  matters := ⟨⟨.accept, fun _ => .hangUp⟩, ⟨.accept, fun _ => .rows []⟩, nofun⟩

theorem Server.columns_sends (database table : String) :
    Server.Sends (fun s => s.columns database table) (Query.showColumns database table).sql where
  decided s s' h := by simp only [Server.columns, h]
  matters := ⟨⟨.accept, fun _ => .hangUp⟩, ⟨.accept, fun _ => .rows []⟩, nofun⟩

namespace Command
variable (i : Invocation) (c : Config) (source : Source) (tree : FileTree) (network : Network)

theorem declare_queries [PatternEngine] : (declare c source tree).queries =
    (generate c source { tree := tree }).calls.map (fun call => (query call).sql) := by
  simp only [declare]
  split <;> rfl

theorem describe_queries : (describe c source tree).queries =
    (c.fetchTables source).calls.map (fun call => (query call).sql) := by
  simp only [describe]
  split <;> rfl

theorem query_texts {calls : List Call} {text : String}
    (h : text ∈ calls.map (fun call => (query call).sql)) : ∃ q : Query, text = q.sql := by
  obtain ⟨call, -, rfl⟩ := List.mem_map.mp h
  exact ⟨query call, rfl⟩

theorem perform_queries [PatternEngine] :
    ∀ text ∈ (perform i tree network).queries, ∃ q : Query, text = q.sql := by
  intro text ht
  unfold perform at ht
  split at ht
  · cases ht
  · split at ht
    · cases ht
    · simp only at ht
      split at ht
      · cases ht
      · split at ht
        · rw [declare_queries] at ht
          exact query_texts ht
        · rw [describe_queries] at ht
          exact query_texts ht

theorem command_queries [PatternEngine] (args : List String) :
    ∀ text ∈ (run args tree network).queries, ∃ q : Query, text = q.sql := by
  intro text ht
  unfold run at ht
  split at ht
  · cases ht
  · cases ht
  · cases ht
  · exact perform_queries _ tree network text ht

end Command

/-- Whatever the names of a database and a table are, the text by which a server is asked for the
tables of the one or the columns of the other is read as the words of the query and these names in
their places, with nothing left over. So different questions have different texts. These are the
texts that the answers hang on, and the command sends no others. -/
theorem queries_read_back [PatternEngine] :
    (∀ q : Query, Sql.tokens? q.sql.toList = some q.tokens) ∧
    Function.Injective Query.sql ∧
    (∀ database views,
      Server.Sends (fun s => s.list database views) (Query.listTables database).sql) ∧
    (∀ database table,
      Server.Sends (fun s => s.columns database table) (Query.showColumns database table).sql) ∧
    ∀ args tree network, ∀ text ∈ (Command.run args tree network).queries,
      ∃ q : Query, text = q.sql := by
  have hread : ∀ q : Query, Sql.tokens? q.sql.toList = some q.tokens := fun q => q.sql_reads.all
  refine ⟨hread, fun q q' h => ?_, Server.list_sends, Server.columns_sends, fun args tree network =>
    Command.command_queries tree network args⟩
  apply Query.tokens_injective
  have htokens := hread q
  rw [h, hread q'] at htokens
  exact (Option.some.inj htokens).symm

example : (Query.showColumns "shop" "od`` FROM `d").sql =
    "SHOW COLUMNS FROM `od```` FROM ``d` FROM `shop`" := by decide +kernel

end SchemaTypes
