import SchemaTypes.Command.Basic
import SchemaTypes.Proofs.Run.Questions
import SchemaTypes.Proofs.Schema.Replies

/-!
# Sessions with a server

A session connects to a server and runs against it. What the server says, at the connection, to the
listing and to the query about each table, decides which tables are skipped, whether the session
fails, and with which of two failures: the database is refused, or the connection has failed. A
table that is refused is skipped, even by the code that refuses the database elsewhere.
-/

set_option autoImplicit false

namespace SchemaTypes

def Config.session [PatternEngine] (c : Config) (server : Option Server) (world : World) :
    Except Failure Report :=
  match Server.connect server c.defaultDb with
  | .error e => .error (.ofSchemaError e)
  | .ok s => (generate c s.source world).result

inductive Server.Fetches (s : Server) (t : Table) : Except Failure Table → Prop
  | told {columns : List Column} (ht : (s.columnsReply t).Decodes Row.column) :
      s.Fetches t (.ok { t with columns := columns })
  | skipped (hr : (s.columnsReply t).HasCode tableCodes) :
      s.Fetches t (.ok { t with unreadable := true })
  | broken {reason : String} (ht : ¬ (s.columnsReply t).Decodes Row.column)
      (hr : ¬ (s.columnsReply t).HasCode tableCodes) :
      s.Fetches t (.error (.connection reason))

inductive Config.DatabaseRefused (c : Config) : Option Server → Prop
  | connecting {s : Server} (hg : s.greeting.HasCode databaseCodes) : c.DatabaseRefused (some s)
  | listing {s : Server} (hg : s.greeting = .accept) (he : c.entireDatabase = true)
      (hr : (s.listReply c.defaultDb).HasCode databaseCodes) : c.DatabaseRefused (some s)

/-- There is no server, or it neither accepts nor refuses at the connection, or neither tells nor
refuses when it is to list the tables or when the run has got to some table. -/
inductive Config.ConnectionFails (c : Config) : Option Server → Prop
  | nobody : c.ConnectionFails none
  | connecting {s : Server} (hg : s.greeting ≠ .accept)
      (hr : ¬ s.greeting.HasCode databaseCodes) : c.ConnectionFails (some s)
  | listing {s : Server} (hg : s.greeting = .accept) (he : c.entireDatabase = true)
      (ht : ¬ (s.listReply c.defaultDb).Decodes Row.tableEntry)
      (hr : ¬ (s.listReply c.defaultDb).HasCode databaseCodes) : c.ConnectionFails (some s)
  | fetching {s : Server} {before after : List Table} {t : Table} (hg : s.greeting = .accept)
      (hts : (c.runTables s.source).result = .ok (before ++ t :: after))
      (hb : ∀ b ∈ before, (s.columnsReply b).Decodes Row.column ∨
        (s.columnsReply b).HasCode tableCodes)
      (ht : ¬ (s.columnsReply t).Decodes Row.column)
      (hr : ¬ (s.columnsReply t).HasCode tableCodes) : c.ConnectionFails (some s)

theorem Server.fetch_fetches (s : Server) (t : Table) : s.Fetches t (s.source.fetch t) := by
  have hc := s.columns_classified t
  change s.Fetches t (t.fetched (s.columns t.database t.name))
  cases h : s.columns t.database t.name with
  | ok columns =>
    rw [h] at hc
    cases hc with
    | told ht _ => exact .told ht
  | error e =>
    rcases hc.of_error h with ⟨⟨reason, rfl⟩, hr⟩ | ⟨⟨reason, he⟩, ht, hr⟩
    · exact .skipped hr
    · simp only [Table.fetched, connection_not_of_table he, he]
      exact .broken ht hr

theorem Server.refuses_reply_iff (s : Server) (t : Table) :
    s.source.refuses t = true ↔ (s.columnsReply t).HasCode tableCodes := by
  rw [refuses_iff]
  have hc := s.columns_classified t
  constructor
  · rintro ⟨e, he, hk⟩
    rcases hc.of_error he with ⟨-, hr⟩ | ⟨⟨reason, he⟩, -, -⟩
    · exact hr
    · rw [connection_not_of_table he] at hk
      cases hk
  · intro hr
    obtain ⟨e, he, reason, rfl⟩ := hc.error_of_refused hr
    exact ⟨_, he, rfl⟩

theorem Server.goes_on_iff (s : Server) (t : Table) :
    (∀ e, s.source.columns t.database t.name = .error e → e.isTableError = true) ↔
      (s.columnsReply t).Decodes Row.column ∨ (s.columnsReply t).HasCode tableCodes := by
  have hc := s.columns_classified t
  constructor
  · intro h
    by_contra hn
    obtain ⟨ht, hr⟩ := not_or.mp hn
    obtain ⟨e, reason, he, hk⟩ := hc.error_of_neither ht hr
    have hf := h e he
    rw [connection_not_of_table hk] at hf
    cases hf
  · intro h e he
    rcases hc.of_error he with ⟨⟨reason, rfl⟩, -⟩ | ⟨-, ht, hr⟩
    · rfl
    · exact absurd h (not_or.mpr ⟨ht, hr⟩)

section Session
variable {c : Config} {server : Option Server} {world : World}

theorem session_unconnected [PatternEngine] {e : SchemaError}
    (h : Server.connect server c.defaultDb = .error e) :
    c.session server world = .error (.ofSchemaError e) := by
  simp [Config.session, h]

theorem session_connected [PatternEngine] {s : Server} (hg : s.greeting = .accept) :
    c.session (some s) world = (generate c s.source world).result := by
  simp [Config.session, Server.connect, hg]

theorem session_stopped [PatternEngine] {s : Server} (hg : s.greeting = .accept) {e : SchemaError}
    (h : c.ListingFails s.source e ∨ c.FetchFails s.source e) :
    c.session (some s) world = .error (.ofSchemaError e) := by
  have hf := (c.fetch_tables_failure_iff s.source _).mpr ⟨e, h, rfl⟩
  rw [session_connected hg, generate, hf]

theorem session_error [PatternEngine] (hc : ∀ t ∈ c.tables, t.Checked) {failure : Failure}
    (h : c.session server world = .error failure) :
    failure = .schemaNotFound c.defaultDb ∧ c.DatabaseRefused server ∨
      (∃ reason, failure = .connection reason) ∧ c.ConnectionFails server := by
  cases hs : Server.connect server c.defaultDb with
  | error e =>
    rw [session_unconnected hs] at h
    cases h
    rcases (Server.connect_classified server c.defaultDb).of_error hs with
      ⟨rfl, s, rfl, hr⟩ | ⟨hk, ht, hr⟩
    · exact Or.inl ⟨rfl, .connecting hr⟩
    · refine Or.inr ⟨hk, ?_⟩
      cases server with
      | none => exact .nobody
      | some s => exact .connecting (fun hg => ht ⟨s, rfl, hg⟩) (fun hg => hr ⟨s, rfl, hg⟩)
  | ok s =>
    obtain ⟨rfl, hg⟩ := Server.connect_accepts hs
    rw [session_connected hg, run_failure_iff c s.source world hc,
      Config.fetch_tables_failure_iff] at h
    obtain ⟨e, ⟨hd, hl⟩ | ⟨before, t, after, hts, hb, ht, hk⟩, rfl⟩ := h
    · rcases (s.list_classified c.defaultDb c.modelViews).of_error hl with
        ⟨rfl, hr⟩ | ⟨hk, hn, hr⟩
      · exact Or.inl ⟨rfl, .listing hg hd hr⟩
      · exact Or.inr ⟨hk, .listing hg hd hn hr⟩
    · rcases (s.columns_classified t).of_error ht with ⟨⟨reason, rfl⟩, -⟩ | ⟨hf, hn, hr⟩
      · cases hk
      · exact Or.inr ⟨hf, .fetching hg hts (fun b hbm => (s.goes_on_iff b).mp (hb b hbm)) hn hr⟩

theorem session_refused [PatternEngine] (h : c.DatabaseRefused server) :
    c.session server world = .error (.schemaNotFound c.defaultDb) := by
  cases h with
  | connecting hg =>
    obtain ⟨e, he, rfl⟩ :=
      (Server.connect_classified _ c.defaultDb).error_of_refused ⟨_, rfl, hg⟩
    exact session_unconnected he
  | listing hg hd hr =>
    obtain ⟨e, he, rfl⟩ :=
      (Server.list_classified _ c.defaultDb c.modelViews).error_of_refused hr
    exact session_stopped hg (Or.inl ⟨hd, he⟩)

theorem session_broken [PatternEngine] (h : c.ConnectionFails server) :
    ∃ reason, c.session server world = .error (.connection reason) := by
  cases h with
  | nobody => exact ⟨_, rfl⟩
  | @connecting s hg hr =>
    obtain ⟨e, reason, he, hk⟩ :=
      (Server.connect_classified (some s) c.defaultDb).error_of_neither
        (by simpa using hg) (by simpa using hr)
    exact ⟨reason, hk ▸ session_unconnected he⟩
  | listing hg hd ht hr =>
    obtain ⟨e, reason, he, hk⟩ :=
      (Server.list_classified _ c.defaultDb c.modelViews).error_of_neither ht hr
    exact ⟨reason, hk ▸ session_stopped hg (Or.inl ⟨hd, he⟩)⟩
  | @fetching s before after t hg hts hb ht hr =>
    obtain ⟨e, reason, he, hk⟩ := (s.columns_classified t).error_of_neither ht hr
    have hf : c.FetchFails s.source e :=
      ⟨before, t, after, hts, fun b hbm => (s.goes_on_iff b).mpr (hb b hbm), he,
        connection_not_of_table hk⟩
    exact ⟨reason, hk ▸ session_stopped hg (Or.inr hf)⟩

/-- A session that succeeds has been accepted, told or refused each of its tables, and reports
those that were refused. -/
theorem session_ok [PatternEngine] (hc : ∀ t ∈ c.tables, t.unreadable = false) {report : Report}
    (h : c.session server world = .ok report) :
    ∃ s ts, server = some s ∧ s.greeting = .accept ∧ (c.runTables s.source).result = .ok ts ∧
      (∀ t ∈ ts, (s.columnsReply t).Decodes Row.column ∨
        (s.columnsReply t).HasCode tableCodes) ∧
      report.errored = (ts.filter fun t => (s.columnsReply t).HasCode tableCodes).map (·.name) := by
  cases hs : Server.connect server c.defaultDb with
  | error e =>
    rw [session_unconnected hs] at h
    cases h
  | ok s =>
    obtain ⟨rfl, hg⟩ := Server.connect_accepts hs
    rw [session_connected hg] at h
    obtain ⟨ts, hts, herrored⟩ := run_errored_tables hc h
    obtain ⟨fetched, hfetched, -⟩ := run_stages h
    obtain ⟨found, hfound, hall⟩ := fetch_tables_found hfetched
    obtain rfl : ts = found := Except.ok.inj (hts.symm.trans hfound)
    refine ⟨s, ts, rfl, hg, hts, fun t ht => ?_, ?_⟩
    · obtain ⟨t', -, ht'⟩ := paired_right (fetch_all_pairs hall) ht
      exact (s.goes_on_iff t).mp ((fetch_continues_iff s.source t).mp ⟨t', ht'⟩)
    · rw [herrored]
      congr 1
      apply List.filter_congr
      intro t _
      rw [Bool.eq_iff_iff, s.refuses_reply_iff, decide_eq_true_iff]

end Session

theorem Config.of_file_read [PatternEngine] {path : String} {content : Option ByteArray}
    {c : Config} (h : Config.ofFile path content = .ok c) : ∃ raw, Config.ofJson raw = .ok c := by
  unfold Config.ofFile at h
  split at h
  · cases h
  · split at h
    · cases h
    · next raw _ =>
      split at h
      · next hc =>
        cases h
        exact ⟨raw, hc⟩
      · cases h

namespace Command

def errorText : Except Failure Report → Option String
  | .ok _ => none
  | .error failure => some failure.message

theorem declare_error [PatternEngine] (c : Config) (source : Source) (tree : FileTree) :
    (declare c source tree).error = errorText (generate c source { tree := tree }).result := by
  rw [declare]
  cases (generate c source { tree := tree }).result <;> rfl

theorem describe_error [PatternEngine] {c : Config} (hc : ∀ t ∈ c.tables, t.Checked)
    (source : Source) (tree : FileTree) :
    (describe c source tree).error = errorText (generate c source { tree := tree }).result := by
  rw [describe]
  cases hf : (c.fetchTables source).result with
  | error failure =>
    rw [(run_failure_iff c source { tree := tree } hc failure).mpr hf]
    rfl
  | ok ts =>
    obtain ⟨report, hr⟩ := fetched_run_reports c source { tree := tree } hc hf
    rw [hr]
    rfl

/-- Once its configuration is loaded, the command fails exactly if the session does, and says why
the session failed, whether it declares the tables or describes them. -/
theorem perform_error [PatternEngine] {i : Invocation} {tree : FileTree} {network : Network}
    {path : String} {loaded : Config} (hp : i.path? = some path)
    (hl : load tree path = .ok loaded) :
    (perform i tree network).error = errorText
      (({ loaded with dryRun := i.dryRun } : Config).session (network loaded.connect)
        { tree := tree }) := by
  obtain ⟨raw, hraw⟩ := Config.of_file_read hl
  have hc : ∀ t ∈ ({ loaded with dryRun := i.dryRun } : Config).tables, t.Checked :=
    show ∀ t ∈ loaded.tables, t.Checked from Config.read_tables_checked hraw
  simp only [perform, hp, hl, Config.session]
  cases Server.connect (network loaded.connect) loaded.defaultDb with
  | error e => rfl
  | ok s =>
    cases i.action with
    | generate => exact declare_error _ s.source tree
    | inspect => exact describe_error hc s.source tree

end Command

/-- A session with a server that says anything fails in two ways only. It fails with the default
database if the server refuses it with code 1049 or 1044 at the connection or when it is to list
the tables. It fails with the connection if there is no server, or if the server hangs up, sends
another error, or sends rows that cannot be decoded, at the connection, to the listing or to the
query for the columns of a table that the run has got to. A server that refuses a table with code
1146, 1142 or 1049 costs this table alone: it is skipped, and no other is; the report on a session
that succeeds lists exactly these tables as errored. -/
theorem introspection_failures [PatternEngine] {raw : Json} {c : Config}
    (hc : Config.ofJson raw = .ok c) (dry : Bool) (server : Option Server) (world : World) :
    let c' := { c with dryRun := dry }
    let run := c'.session server world
    (∀ database, run = .error (.schemaNotFound database) ↔
      database = c.defaultDb ∧ c'.DatabaseRefused server) ∧
    ((∃ reason, run = .error (.connection reason)) ↔ c'.ConnectionFails server) ∧
    (∀ failure, run = .error failure →
      failure = .schemaNotFound c.defaultDb ∨ ∃ reason, failure = .connection reason) ∧
    (∀ (s : Server) (t : Table), s.Fetches t (s.source.fetch t)) ∧
    ∀ report, run = .ok report →
      ∃ s ts, server = some s ∧ s.greeting = .accept ∧ (c.runTables s.source).result = .ok ts ∧
        (∀ t ∈ ts, (s.columnsReply t).Decodes Row.column ∨
          (s.columnsReply t).HasCode tableCodes) ∧
        report.errored =
          (ts.filter fun t => (s.columnsReply t).HasCode tableCodes).map (·.name) := by
  intro c' run
  have hchecked : ∀ t ∈ c'.tables, t.Checked :=
    show ∀ t ∈ c.tables, t.Checked from Config.read_tables_checked hc
  have hunmarked : ∀ t ∈ c'.tables, t.unreadable = false :=
    show ∀ t ∈ c.tables, t.unreadable = false from Config.read_tables_unmarked hc
  refine ⟨fun database => ⟨fun h => ?_, ?_⟩, ⟨?_, session_broken⟩, fun failure h => ?_,
    Server.fetch_fetches, fun report h => session_ok hunmarked h⟩
  · rcases session_error hchecked h with ⟨hd, hr⟩ | ⟨⟨reason, hk⟩, -⟩
    · exact ⟨Failure.schemaNotFound.inj hd, hr⟩
    · cases hk
  · rintro ⟨rfl, hr⟩
    exact session_refused hr
  · rintro ⟨reason, h⟩
    rcases session_error hchecked h with ⟨hd, -⟩ | ⟨-, hf⟩
    · cases hd
    · exact hf
  · rcases session_error hchecked h with ⟨hd, -⟩ | ⟨hk, -⟩
    · exact Or.inl hd
    · exact Or.inr hk

def listedId : Row := ⟨[("Field", .text "id"), ("Type", .text "int"), ("Null", .text "NO"),
  ("Key", .text "PRI"), ("Default", .null), ("Extra", .text "")]⟩

def guardedShop : Server := .ofScript .accept [
  ((Query.showColumns "shop" "users").sql, .rows [listedId]),
  ((Query.showColumns "shop" "audit").sql, .error ⟨1142, "42000", "denied"⟩),
  ((Query.showColumns "shop" "orders").sql, .error ⟨1049, "42000", "unknown"⟩)]

def unknownShop : Server := { guardedShop with greeting := .refuse ⟨1049, "42000", "unknown"⟩ }

def brokenShop : Server where
  greeting := .accept
  answer sql := if sql = (Query.showColumns "shop" "audit").sql then .hangUp
    else guardedShop.answer sql

def guardedReport : Report where
  written := [("users", "out/users-model.ts"), ("users", "out/users-model.ts")]
  errored := ["audit", "orders"]

theorem guarded_session_skips :
    mixed.session (some unknownShop) {} = .error (.schemaNotFound "shop") ∧
    (∃ reason, mixed.session (some brokenShop) {} = .error (.connection reason)) ∧
    mixed.session (some guardedShop) {} = .ok guardedReport ∧
    guardedReport.errored = (mixed.tables.filter fun t =>
      (guardedShop.columnsReply t).HasCode tableCodes).map (·.name) := by
  have hc : Config.ofJson mixedSettings = .ok mixed := by decide +kernel
  have hr : mixed.session (some guardedShop) {} = .ok guardedReport := by decide +kernel
  obtain ⟨hrefused, -⟩ := introspection_failures hc false (some unknownShop) {}
  obtain ⟨-, hbroken, -⟩ := introspection_failures hc false (some brokenShop) {}
  obtain ⟨-, -, -, -, hreport⟩ := introspection_failures hc false (some guardedShop) {}
  have hu : mixed.DatabaseRefused (some unknownShop) :=
    .connecting (show 1049 ∈ databaseCodes by decide)
  have husers : brokenShop.columnsReply (mixedOutput.bareTable "users") = .rows [listedId] := rfl
  have haudit : brokenShop.columnsReply (mixedOutput.bareTable "audit") = .hangUp := rfl
  have hb : mixed.ConnectionFails (some brokenShop) := by
    have hts : (mixed.runTables brokenShop.source).result =
        .ok ([mixedOutput.bareTable "users"] ++ mixedOutput.bareTable "audit" ::
          mixed.tables.drop 2) := rfl
    refine .fetching rfl hts ?_ (haudit ▸ id) (haudit ▸ id)
    intro b hbm
    obtain rfl := List.mem_singleton.mp hbm
    rw [husers]
    refine Or.inl fun r hrow => ?_
    obtain rfl := List.mem_singleton.mp hrow
    exact ⟨_, rfl⟩
  refine ⟨(hrefused "shop").mpr ⟨rfl, hu⟩, hbroken.mpr hb, hr, ?_⟩
  obtain ⟨s, ts, hs, -, hts, -, he⟩ := hreport guardedReport hr
  obtain rfl : guardedShop = s := Option.some.inj hs
  obtain rfl : mixed.tables = ts := Except.ok.inj hts
  exact he

end SchemaTypes
