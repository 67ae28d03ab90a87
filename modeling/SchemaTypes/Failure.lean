import SchemaTypes.Config.Fault

/-!
# Failures of a run

Everything that can end a run or keep a table from being declared.
-/

set_option autoImplicit false

namespace SchemaTypes

inductive Failure where
  | validation (fault : ConfigFault)
  | unreadableConfig (path : String)
  | malformedConfig (path : String)
  | connection (reason : String)
  | schemaNotFound (database : String)
  | tableAccess (table reason : String)
  | fileWrite (path : String)
  deriving DecidableEq, Repr

namespace Failure

def message : Failure → String
  | validation fault => "Validation error: " ++ fault.message
  | unreadableConfig path => "Configuration error: Failed to read config file " ++ path
  | malformedConfig path => "Configuration error: Failed to parse config file " ++ path
  | connection reason => "Connection error: " ++ reason
  | schemaNotFound database =>
    "Database " ++ SchemaError.ticked database ++ " does not exist"
  | tableAccess table reason =>
    "Cannot read table " ++ SchemaError.ticked table ++ ": " ++ reason
  | fileWrite path => "Failed to write " ++ path

def isRecoverable : Failure → Bool
  | tableAccess _ _ => true
  | fileWrite _ => true
  | _ => false

/-- Whatever concerns neither a database nor a table is a matter of the connection. -/
def ofSchemaError : SchemaError → Failure
  | .schemaNotFound database => .schemaNotFound database
  | .tableNotFound table reason => .tableAccess table reason
  | other => .connection other.message

end Failure

end SchemaTypes
