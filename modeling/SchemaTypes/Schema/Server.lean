import SchemaTypes.Schema.Row
import SchemaTypes.Schema.Source

/-!
# Servers

A server greets once, when it is connected to. After that an answer stands for getting hold of a
connection and sending it a SQL text: there are rows or an error, or the server hangs up on either
of the two. As a schema source a server is asked two kinds of queries. Views are left out of a list
of tables by their type.
-/

set_option autoImplicit false

namespace SchemaTypes

inductive Query where
  | listTables (database : String)
  | showColumns (database table : String)
  deriving DecidableEq, Repr

def Query.sql : Query → String
  | listTables database => "SHOW FULL TABLES FROM " ++ Text.quoteIdentifier database
  | showColumns database table =>
    "SHOW COLUMNS FROM " ++ Text.quoteIdentifier table ++ " FROM "
      ++ Text.quoteIdentifier database

inductive Reply where
  | rows (rows : List Row)
  | error (error : ServerError)
  | hangUp
  deriving Repr

inductive Greeting where
  | accept
  | refuse (error : ServerError)
  | hangUp
  deriving Repr

structure Server where
  greeting : Greeting
  answer : String → Reply

namespace Server

def unprepared : ServerError := ⟨unknownTable, "42S02", "no such table"⟩

def ofScript (greeting : Greeting) (replies : List (String × Reply)) : Server where
  greeting := greeting
  answer := fun sql => (replies.lookup sql).getD (.error unprepared)

def isView (type : String) : Bool := Text.sameIgnoringCase type "VIEW"

def decoded {α : Type} (result : Except RowFault α) : Except SchemaError α :=
  match result with
  | .ok value => .ok value
  | .error fault => .error (.rowDecode fault.message)

def list (s : Server) (database : String) (views : Bool) : Except SchemaError (List String) :=
  match s.answer (Query.listTables database).sql with
  | .error e => .error (.onDatabase database e)
  | .hangUp => .error (.connection none)
  | .rows rows =>
    (decoded (rows.mapM Row.tableEntry)).map fun entries =>
      (entries.filter (fun e => views || !isView e.2)).map (·.1)

def columns (s : Server) (database table : String) : Except SchemaError (List Column) :=
  match s.answer (Query.showColumns database table).sql with
  | .error e => .error (.onTable table e)
  | .hangUp => .error .lost
  | .rows rows => decoded (rows.mapM Row.column)

def source (s : Server) : Source := ⟨s.list, s.columns⟩

/-- Connecting selects a database; where nothing listens there is no connection. -/
def connect (server : Option Server) (database : String) : Except SchemaError Server :=
  match server with
  | none => .error (.connection none)
  | some s =>
    match s.greeting with
    | .accept => .ok s
    | .refuse e => .error (.onDatabase database e)
    | .hangUp => .error (.connection none)

end Server

end SchemaTypes
