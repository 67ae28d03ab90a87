import SchemaTypes.Column
import SchemaTypes.Schema.Error

/-!
# Schema sources

Anything that can tell which tables a database has and which columns a table has. A source gives the
same answer to the same question each time it is asked. A catalog is a source that answers from
memory.
-/

set_option autoImplicit false

namespace SchemaTypes

structure Source where
  /-- names of the tables of a database, in its order, with views if asked for -/
  list : String → Bool → Except SchemaError (List String)
  columns : String → String → Except SchemaError (List Column)

/-- A table or view of a catalog. Reading the columns of one with an error gives the error. -/
structure CatalogTable where
  name : String
  isView : Bool
  columns : List Column
  error : Option SchemaError

structure Catalog where
  databases : List (String × List CatalogTable)
  listError : Option SchemaError

namespace Catalog

def list (c : Catalog) (database : String) (views : Bool) : Except SchemaError (List String) :=
  match c.listError with
  | some e => .error e
  | none =>
    match c.databases.lookup database with
    | none => .error (.schemaNotFound database)
    | some tables => .ok ((tables.filter (fun t => views || !t.isView)).map (·.name))

def columns (c : Catalog) (database table : String) : Except SchemaError (List Column) :=
  match ((c.databases.lookup database).getD []).find? (fun t => t.name == table) with
  | none => .error (.tableNotFound table "Table doesn't exist")
  | some t =>
    match t.error with
    | some e => .error e
    | none => .ok t.columns

def source (c : Catalog) : Source := ⟨c.list, c.columns⟩

end Catalog

end SchemaTypes
