import SchemaTypes.Json.Value
import SchemaTypes.Schema.Error

/-!
# Faults of configurations

The reasons why a value is no configuration, with their wording.
-/

set_option autoImplicit false

namespace SchemaTypes

inductive ConfigFault where
  | driverMissing
  | driverOptionsMissing
  | driverUnknown (name : String)
  | hostMissing
  | userMissing
  | dirMissing
  | databaseMissing
  | tablesMissing
  | tablesNotArray
  | tablesEmpty
  | tableEmpty (index : Nat)
  | tableNameMissingAt (index : Nat)
  | tableNameMissing
  | tableKind (kind : Json.Kind)
  | omitPattern (pattern table : String)
  /-- some omit pattern of a table, met when the table is rendered -/
  | omitPatterns (table : String)
  deriving DecidableEq, Repr

def ConfigFault.message : ConfigFault → String
  | .driverMissing => "Database driver not specified"
  | .driverOptionsMissing => "driverOptions not specified"
  | .driverUnknown name => "Unrecognized database driver " ++ name
  | .hostMissing => "No host specified"
  | .userMissing => "No user specified"
  | .dirMissing => "Output directory not specified"
  | .databaseMissing => "Default database not specified"
  | .tablesMissing => "Tables not specified"
  | .tablesNotArray => "Tables must be an array"
  | .tablesEmpty => "Tables array empty"
  | .tableEmpty index => "Empty item in tables at index " ++ toString index
  | .tableNameMissingAt index => "Table name not given at index " ++ toString index
  | .tableNameMissing => "Table name not given"
  | .tableKind kind => "Elements of tables cannot have items of type " ++ kind.name
  | .omitPattern pattern table =>
    "Invalid omit pattern " ++ SchemaError.ticked pattern ++ " for table " ++ table
  | .omitPatterns table => "Invalid omit pattern for table " ++ table

end SchemaTypes
