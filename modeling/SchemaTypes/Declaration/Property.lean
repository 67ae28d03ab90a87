import SchemaTypes.Column
import SchemaTypes.Config.Basic

/-!
# Properties

A column becomes a property of the declaration of its table. Its name is that of the column,
converted if asked for, and its type that of the column's SQL type.
-/

set_option autoImplicit false

namespace SchemaTypes

structure Property where
  name : String
  optional : Bool
  type : PropertyType
  deriving DecidableEq, Repr

namespace Property

structure Style where
  rename : Bool
  case : Case
  dates : DateMapping := {}

def Style.name (style : Style) (field : String) : String :=
  if style.rename then style.case.convert field else field

def of? (style : Style) (field sqlType : String) (optional : Bool) : Option Property :=
  (PropertyType.ofSqlType? style.dates sqlType).map fun type =>
    { name := style.name field, optional := optional, type := type }

def line (p : Property) : String :=
  p.name ++ (if p.optional then "?:" else ":") ++ " " ++ p.type.name ++ ";"

end Property

def Config.style (c : Config) : Property.Style :=
  ⟨c.renameAttributeToCase, c.case, c.dates⟩

def Config.property? (c : Config) (column : Column) : Option Property :=
  Property.of? c.style column.field column.sqlType (c.setNullAsOptional && column.nullable)

end SchemaTypes
