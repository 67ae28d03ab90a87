import SchemaTypes.Declaration.Basic
import SchemaTypes.Output
import SchemaTypes.Schema.Source

/-!
# Runs

A run finds its tables, fetches their columns one table after the other and writes one
declaration for each. A table that is missing or unreadable, or whose file cannot be written, is
reported and left out; every other failure ends the run. The questions asked of the source are
recorded in order.
-/

set_option autoImplicit false

namespace SchemaTypes

inductive Call where
  | list (database : String) (views : Bool)
  | fetch (database table : String)
  deriving DecidableEq, Repr

/-- A result with the questions that led to it. -/
structure Traced (α : Type) where
  result : Except Failure α
  calls : List Call

namespace Config

/-- The tables of an entire database: each listed name with its configured descriptor if there is
one, then the configured tables that are not listed. -/
def merge (c : Config) (listed : List String) : List Table :=
  listed.map (fun name => (c.table? name).getD (c.bareTable name))
    ++ c.tables.filter (fun t => !listed.contains t.name)

def runTables (c : Config) (source : Source) : Traced (List Table) :=
  if c.entireDatabase then
    { result := match source.list c.defaultDb c.modelViews with
        | .ok listed => .ok (c.merge listed)
        | .error e => .error (.ofSchemaError e)
      calls := [.list c.defaultDb c.modelViews] }
  else { result := .ok c.tables, calls := [] }

end Config

/-- A table after its fetch; anything but a fault of this one table ends the run. -/
def Table.fetched (t : Table) : Except SchemaError (List Column) → Except Failure Table
  | .ok columns => .ok { t with columns := columns }
  | .error e =>
    if e.isTableError then .ok { t with unreadable := true } else .error (.ofSchemaError e)

def Source.fetch (source : Source) (t : Table) : Except Failure Table :=
  t.fetched (source.columns t.database t.name)

/-- Fetches the columns of tables in order, up to the first failure. -/
def fetchAll (source : Source) : List Table → Traced (List Table)
  | [] => ⟨.ok [], []⟩
  | t :: rest =>
    let call := Call.fetch t.database t.name
    match source.fetch t with
    | .error failure => ⟨.error failure, [call]⟩
    | .ok t' =>
      let later := fetchAll source rest
      ⟨later.result.map (t' :: ·), call :: later.calls⟩

def Config.fetchTables (c : Config) (source : Source) : Traced (List Table) :=
  let found := c.runTables source
  match found.result with
  | .error failure => ⟨.error failure, found.calls⟩
  | .ok tables =>
    let fetched := fetchAll source tables
    ⟨fetched.result, found.calls ++ fetched.calls⟩

structure Report where
  written : List (String × String) := []
  errored : List String := []
  failed : List String := []
  deriving DecidableEq, Repr

namespace Report

def isComplete (r : Report) : Bool := r.errored.isEmpty && r.failed.isEmpty

def addWritten (r : Report) (table path : String) : Report :=
  { r with written := (table, path) :: r.written }

def addErrored (r : Report) (table : String) : Report := { r with errored := table :: r.errored }

def addFailed (r : Report) (table : String) : Report := { r with failed := table :: r.failed }

end Report

def writeAll [PatternEngine] (c : Config) (writer : Writer) (world : World) :
    List Table → World × Except Failure Report
  | [] => (world, .ok {})
  | t :: rest =>
    if t.unreadable then
      let later := writeAll c writer world rest
      (later.1, later.2.map (·.addErrored t.name))
    else
      match t.render c with
      | .error fault => (world, .error (.validation fault))
      | .ok code =>
        match writer.write world t.file code with
        | (writer', world', .ok path) =>
          let later := writeAll c writer' world' rest
          (later.1, later.2.map (·.addWritten t.name path))
        | (writer', world', .error failure) =>
          if failure.isRecoverable then
            let later := writeAll c writer' world' rest
            (later.1, later.2.map (·.addFailed t.name))
          else (world', .error failure)

structure Outcome where
  result : Except Failure Report
  calls : List Call
  world : World

def Config.writer (c : Config) : Writer where
  dir := c.dir
  reWrite := c.reWrite
  dryRun := c.dryRun

def generate [PatternEngine] (c : Config) (source : Source) (world : World) : Outcome :=
  let fetched := c.fetchTables source
  match fetched.result with
  | .error failure => ⟨.error failure, fetched.calls, world⟩
  | .ok tables =>
    let (world', result) := writeAll c c.writer world tables
    ⟨result, fetched.calls, world'⟩

end SchemaTypes
