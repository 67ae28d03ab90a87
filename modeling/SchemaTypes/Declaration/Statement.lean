import SchemaTypes.Column
import SchemaTypes.Text.Quoted

/-!
# SQL statements of a class

The statements that go with a table: its quoted name, selection of all rows, insertion, and, if
the table has a primary key, selection, update and deletion by key. Statements are over the
columns that the class shows; only a key is always complete.
-/

set_option autoImplicit false

namespace SchemaTypes

inductive Statement where
  | table (table : String)
  | selectAll (table : String) (columns : List String)
  | insert (table : String) (columns : List String)
  | selectByKey (table : String) (columns key : List String)
  | updateByKey (table : String) (columns key : List String)
  | deleteByKey (table : String) (key : List String)
  deriving DecidableEq, Repr

namespace Statement

def name : Statement → String
  | table _ => "TABLE"
  | selectAll _ _ => "SELECT_ALL"
  | insert _ _ => "INSERT"
  | selectByKey _ _ _ => "SELECT_BY_PK"
  | updateByKey _ _ _ => "UPDATE_BY_PK"
  | deleteByKey _ _ => "DELETE_BY_PK"

def columnList (columns : List String) : String :=
  ", ".intercalate (columns.map Text.quoteIdentifier)

def binding (column : String) : String := Text.quoteIdentifier column ++ " = ?"

def assignments (columns : List String) : String :=
  ", ".intercalate (columns.map binding)

def conditions (key : List String) : String :=
  " AND ".intercalate (key.map binding)

def placeholders (columns : List String) : String :=
  ", ".intercalate (columns.map (fun _ => "?"))

def sql : Statement → String
  | table t => Text.quoteIdentifier t
  | selectAll t columns => "SELECT " ++ columnList columns ++ " FROM " ++ Text.quoteIdentifier t
  | insert t columns =>
    "INSERT INTO " ++ Text.quoteIdentifier t ++ " (" ++ columnList columns ++ ") VALUES ("
      ++ placeholders columns ++ ")"
  | selectByKey t columns key =>
    "SELECT " ++ columnList columns ++ " FROM " ++ Text.quoteIdentifier t ++ " WHERE "
      ++ conditions key
  | updateByKey t columns key =>
    "UPDATE " ++ Text.quoteIdentifier t ++ " SET " ++ assignments columns ++ " WHERE "
      ++ conditions key
  | deleteByKey t key => "DELETE FROM " ++ Text.quoteIdentifier t ++ " WHERE " ++ conditions key

def fields (columns : List Column) : List String := columns.map (·.field)

/-- The statements by primary key; an update needs a column outside the key. -/
def byKey (table : String) (key shown : List Column) : List Statement :=
  let rest := shown.filter (fun c => !c.isPrimaryKey)
  [selectByKey table (fields shown) (fields key)]
    ++ (if rest.isEmpty then [] else [updateByKey table (fields rest) (fields key)])
    ++ [deleteByKey table (fields key)]

/-- The statements of a table with columns `all`, of which `shown` are declared. -/
def ofColumns (table : String) (all shown : List Column) : List Statement :=
  let key := all.filter Column.isPrimaryKey
  [ Statement.table table,
    selectAll table (fields shown),
    insert table (fields (shown.filter (fun c => !c.isAutoIncrement))) ]
    ++ (if key.isEmpty then [] else byKey table key shown)

def line (s : Statement) : String :=
  "static readonly " ++ s.name ++ " = " ++ Text.quoteLiteral s.sql ++ ";"

end Statement

end SchemaTypes
