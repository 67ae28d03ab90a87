import SchemaTypes.Name.Convert
import SchemaTypes.PropertyType
import SchemaTypes.Table

/-!
# Configurations

All settings of a run with their defaults, and the descriptors of the configured tables.
-/

set_option autoImplicit false

namespace SchemaTypes

structure ConnectOptions where
  host : String := ""
  user : String := ""
  password : Option String := none
  port : Nat := 3306
  /-- a socket takes precedence over host and port -/
  socketPath : Option String := none
  deriving DecidableEq, Repr

/-- The bounds on the number of connections kept open: queries run one at a time. -/
structure PoolBounds where
  least : Nat := 0
  most : Nat := 1

inductive DatabaseDriver where
  | mysql
  deriving DecidableEq, Repr

namespace DatabaseDriver

def name : DatabaseDriver → String
  | .mysql => "mysql"

def ofName? (text : String) : Option DatabaseDriver :=
  if text = "mysql" then some .mysql else none

end DatabaseDriver

structure Config where
  driver : DatabaseDriver := .mysql
  connect : ConnectOptions := {}
  dir : String := ""
  defaultDb : String := ""
  entireDatabase : Bool := false
  case : Case := .camel
  defaultType : OutputKind := .interface
  defaultSuffix : String := "model"
  defaultConnector : String := "-"
  tabSize : Nat := 4
  renameTableToCase : Bool := true
  renameAttributeToCase : Bool := false
  setNullAsOptional : Bool := false
  dates : DateMapping := {}
  modelViews : Bool := false
  /-- a file is emptied when a run writes it for the first time -/
  reWrite : Bool := false
  classConstructor : Bool := false
  classStatements : Bool := false
  tables : List Table := []
  logLevel : Option String := none
  dryRun : Bool := false
  deriving DecidableEq, Repr

namespace Config

def table? (c : Config) (name : String) : Option Table :=
  c.tables.find? (fun t => t.name == name)

/-- The file of a table without extension: its name, the connector and the suffix. The suffix is
always converted to the configured convention, the name only on request. -/
def fileName (c : Config) (name connector suffix : String) : String :=
  (if c.renameTableToCase then c.case.convert name else name) ++ connector ++ c.case.convert suffix

def bareTable (c : Config) (name : String) : Table where
  name := name
  kind := c.defaultType
  database := c.defaultDb
  suffix := c.defaultSuffix
  connector := c.defaultConnector
  file := c.fileName name c.defaultConnector c.defaultSuffix
  omitPatterns := []
  withConstructor := c.classConstructor
  withStatements := c.classStatements

end Config

end SchemaTypes
