import SchemaTypes.Text.Quoted

/-!
# Errors of schema introspection

What can go wrong while a server is asked about its tables. An error that the server sends has a
code, and the code tells whether the database is unknown, a single table is, or something else
failed. A connection that is lost carries no text of its own.
-/

set_option autoImplicit false

namespace SchemaTypes

structure ServerError where
  code : Nat
  state : String
  message : String
  deriving DecidableEq, Repr

def ServerError.text (e : ServerError) : String :=
  "ERROR " ++ e.state ++ " (" ++ toString e.code ++ "): " ++ e.message

/-- Codes of server errors that introspection tells apart. -/
def unknownDatabase : Nat := 1049
def databaseDenied : Nat := 1044
def unknownTable : Nat := 1146
def tableDenied : Nat := 1142

inductive SchemaError where
  | server (error : ServerError)
  /-- a query failed without an answer from the server -/
  | lost
  | connection (reason : Option String)
  | schemaNotFound (database : String)
  | tableNotFound (table reason : String)
  | rowDecode (message : String)
  deriving DecidableEq, Repr

namespace SchemaError

def ticked (name : String) : String :=
  .ofList (Text.backtick :: name.toList ++ [Text.backtick])

def message : SchemaError → String
  | server e =>
    "MySQL error: Server error: " ++ .ofList [Text.backtick] ++ e.text
      ++ .ofList [Text.singleQuote]
  | lost => "MySQL error"
  | connection none => "Connection error"
  | connection (some reason) => "Connection error: " ++ reason
  | schemaNotFound database => "Database " ++ ticked database ++ " does not exist"
  | tableNotFound table reason =>
    "Table " ++ ticked table ++ " not found or access denied: " ++ reason
  | rowDecode text => "Failed to decode row: " ++ text

def serverCode? : SchemaError → Option Nat
  | server e => some e.code
  | _ => none

/-- The error concerns one table only. -/
def isTableError : SchemaError → Bool
  | tableNotFound _ _ => true
  | _ => false

def onDatabase (database : String) (e : ServerError) : SchemaError :=
  if e.code = unknownDatabase ∨ e.code = databaseDenied then schemaNotFound database
  else server e

def onTable (table : String) (e : ServerError) : SchemaError :=
  if e.code = unknownTable ∨ e.code = tableDenied ∨ e.code = unknownDatabase then
    tableNotFound table (server e).message
  else server e

end SchemaError

end SchemaTypes
