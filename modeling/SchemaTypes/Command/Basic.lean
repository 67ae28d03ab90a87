import SchemaTypes.Command.Arguments
import SchemaTypes.Command.Listing
import SchemaTypes.Config.File
import SchemaTypes.Pattern.Reader
import SchemaTypes.Schema.Server

/-!
# The command

From arguments, files and servers to everything that can be seen of the command: its exit
status, its output, its error, the queries sent and the files afterwards. The configuration is
loaded first, then the server that it names is connected to, and then the tables are declared or
described.
-/

set_option autoImplicit false

namespace SchemaTypes.Command

structure Effect where
  exitCode : Nat
  stdout : String := ""
  error : Option String := none
  showsUsage : Bool := false
  queries : List String := []
  tree : FileTree

/-- The server that connections with given options reach, if one listens there. -/
abbrev Network := ConnectOptions → Option Server

def versionText : String := "sqlts-codegen 0.1.0\n"

def defaultConfigFile : String := "config.json"

def Invocation.path? (i : Invocation) : Option String :=
  match i.config with
  | some path => some path
  | none => if i.silent then some defaultConfigFile else none

def query : Call → Query
  | .list database _ => .listTables database
  | .fetch database table => .showColumns database table

def failed (tree : FileTree) (message : String) : Effect :=
  { exitCode := 1, error := some message, tree := tree }

def load [PatternEngine] (tree : FileTree) (path : String) : Except Failure Config :=
  Config.ofFile path ((tree.read? path).map String.toUTF8)

def declare [PatternEngine] (c : Config) (source : Source) (tree : FileTree) : Effect :=
  let outcome := generate c source { tree := tree }
  let queries := outcome.calls.map (fun call => (query call).sql)
  match outcome.result with
  | .ok report =>
    { exitCode := 0
      stdout := outcome.world.printed ++ reportText report
      queries := queries
      tree := outcome.world.tree }
  | .error failure =>
    { exitCode := 1
      stdout := outcome.world.printed
      error := some failure.message
      queries := queries
      tree := outcome.world.tree }

def describe (c : Config) (source : Source) (tree : FileTree) : Effect :=
  let fetched := c.fetchTables source
  let queries := fetched.calls.map (fun call => (query call).sql)
  match fetched.result with
  | .ok tables =>
    { exitCode := 0, stdout := inspectionText tables, queries := queries, tree := tree }
  | .error failure =>
    { exitCode := 1, error := some failure.message, queries := queries, tree := tree }

def perform [PatternEngine] (i : Invocation) (tree : FileTree) (network : Network) : Effect :=
  match i.path? with
  | none => failed tree "Failed to read configuration path"
  | some path =>
    match load tree path with
    | .error failure => failed tree failure.message
    | .ok loaded =>
      let c := { loaded with dryRun := i.dryRun }
      match Server.connect (network c.connect) c.defaultDb with
      | .error e => failed tree (Failure.ofSchemaError e).message
      | .ok s =>
        match i.action with
        | .generate => declare c s.source tree
        | .inspect => describe c s.source tree

def run [PatternEngine] (args : List String) (tree : FileTree) (network : Network) : Effect :=
  match request args with
  | .misuse => { exitCode := 2, showsUsage := true, tree := tree }
  | .help => { exitCode := 0, showsUsage := true, tree := tree }
  | .version => { exitCode := 0, stdout := versionText, tree := tree }
  | .run i => perform i tree network

end SchemaTypes.Command
