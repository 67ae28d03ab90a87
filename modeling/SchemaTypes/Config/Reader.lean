import SchemaTypes.Config.Basic
import SchemaTypes.Config.Fault
import SchemaTypes.Config.Fields
import SchemaTypes.Pattern.Engine

/-!
# Reading configurations

Required settings are checked in a fixed order and the first fault is reported. Every other
setting is taken when it is well typed and left at its default otherwise. The patterns of columns
to leave out are checked last.
-/

set_option autoImplicit false

namespace SchemaTypes.Config

def orFault {α : Type} (value : Option α) (fault : ConfigFault) : Except ConfigFault α :=
  match value with
  | some v => .ok v
  | none => .error fault

def portBound : Nat := Nat.pow 2 16

def connectOptions (fields : Fields) : Except ConfigFault ConnectOptions := do
  let host ← orFault (fields.string? "host") .hostMissing
  let user ← orFault (fields.string? "user") .userMissing
  return {
    host := host
    user := user
    password := fields.string? "password"
    port := (fields.below? "port" portBound).getD 3306
    socketPath := fields.string? "socketPath" }

def hasName (fields : Fields) : Bool := (fields.string? "name").isSome

def checkEntry (index : Nat) : Json → Except ConfigFault Unit
  | .string name => if name.isEmpty then .error (.tableEmpty index) else .ok ()
  | .object fields =>
    if hasName fields then .ok () else .error (.tableNameMissingAt index)
  | other => .error (.tableKind other.kind)

def checkEntries (index : Nat) : List Json → Except ConfigFault Unit
  | [] => .ok ()
  | entry :: rest =>
    match checkEntry index entry with
    | .ok () => checkEntries (index + 1) rest
    | .error fault => .error fault

/-- Tables must be listed unless the entire database is asked for. -/
def checkTables (entire : Bool) : Option Json → Except ConfigFault Unit
  | none => if entire then .ok () else .error .tablesMissing
  | some (.array entries) =>
    if !entire && entries.isEmpty then .error .tablesEmpty else checkEntries 0 entries
  | some _ => if entire then .ok () else .error .tablesNotArray

/-- The descriptor of a table that an object describes. Settings that it leaves out are the
defaults of the configuration, except for the file, which is then the name of the table. -/
def describedTable (c : Config) (fields : Fields) (name : String) : Table where
  name := name
  kind := fields.choice "type" OutputKind.ofName? c.defaultType
  database := (fields.nonEmpty? "database").getD c.defaultDb
  suffix := fields.text "suffix" c.defaultSuffix
  connector := fields.text "connector" c.defaultConnector
  file := (fields.nonEmpty? "file").getD name
  omitPatterns := fields.strings "omit" []
  withConstructor := fields.flag "constructor" c.classConstructor
  withStatements := fields.flag "sqlCRUD" c.classStatements

def objectTable (c : Config) (fields : Fields) : Except ConfigFault Table :=
  match fields.string? "name" with
  | none => .error .tableNameMissing
  | some name => .ok (c.describedTable fields name)

def resolveTable (c : Config) : Json → Except ConfigFault Table
  | .string name => .ok (c.bareTable name)
  | .object fields => c.objectTable fields
  | other => .error (.tableKind other.kind)

def withSettings (c : Config) (fields : Fields) : Config :=
  let classOptions := (fields.object? "classOptions").getD []
  { c with
    classConstructor := classOptions.flag "constructor" c.classConstructor
    classStatements := classOptions.flag "sqlCRUD" c.classStatements
    case := fields.choice "case" Case.ofName? c.case
    renameTableToCase := fields.flag "renameTableToCase" c.renameTableToCase
    renameAttributeToCase := fields.flag "renameAttributeToCase" c.renameAttributeToCase
    setNullAsOptional := fields.flag "setNullAsOptional" c.setNullAsOptional
    dates := {
      dateTime := fields.flag "dateTimeAsDate" c.dates.dateTime
      date := fields.flag "dateAsDate" c.dates.date }
    defaultType := fields.choice "defaultType" OutputKind.ofName? c.defaultType
    tabSize := (fields.below? "tabSize" Json.unsignedBound).getD c.tabSize
    modelViews := fields.flag "modelViews" c.modelViews
    defaultConnector := fields.text "defaultConnector" c.defaultConnector
    defaultSuffix := fields.text "defaultSuffix" c.defaultSuffix
    reWrite := fields.flag "reWrite" c.reWrite
    logLevel := fields.string? "logLevel" }

def checkOmit [PatternEngine] (table : Table) : Except ConfigFault Unit :=
  match table.omitPatterns.find? (fun p => (PatternEngine.parse? p).isNone) with
  | some p => .error (.omitPattern p table.name)
  | none => .ok ()

def required (fields : Fields) : Except ConfigFault Config := do
  let driverName ← orFault (fields.string? "driver") .driverMissing
  let driverOptions ← orFault (fields.object? "driverOptions") .driverOptionsMissing
  let driver ← orFault (DatabaseDriver.ofName? driverName) (.driverUnknown driverName)
  let connect ← connectOptions driverOptions
  let dir ← orFault (fields.string? "dir") .dirMissing
  let defaultDb ← orFault (fields.string? "defaultDb") .databaseMissing
  let entire := fields.flag "entireDatabase" false
  checkTables entire (fields.get? "tables")
  return {
    driver := driver
    connect := connect
    dir := dir
    defaultDb := defaultDb
    entireDatabase := entire }

/-- The configured tables; anything but an array configures none. -/
def tableEntries (fields : Fields) : List Json :=
  ((fields.get? "tables").bind Json.array?).getD []

/-- The configuration that a value describes. A value that is no object has no settings. -/
def ofJson [PatternEngine] (raw : Json) : Except ConfigFault Config := do
  let fields := raw.object?.getD []
  let base ← required fields
  let settings := base.withSettings fields
  let tables ← (tableEntries fields).mapM (resolveTable settings)
  tables.forM checkOmit
  return { settings with tables := tables }

end SchemaTypes.Config
