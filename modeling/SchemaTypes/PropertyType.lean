import SchemaTypes.Text.Search

/-!
# Property types

The TypeScript type of a column is found by looking for the names of SQL type families inside the
column's full SQL type, numbers first. Types that mention no known family have no TypeScript
type, and their columns are left out.
-/

set_option autoImplicit false

namespace SchemaTypes

inductive PropertyType where
  | number
  | string
  | date
  deriving DecidableEq, Repr

/-- Which temporal columns are typed `Date` instead of `string`. -/
structure DateMapping where
  dateTime : Bool := false
  date : Bool := false
  deriving DecidableEq, Repr

/-- A column of a string family that the mapping turns into a `Date`. -/
def DateMapping.applies (dates : DateMapping) (sqlType : String) : Bool :=
  (dates.dateTime && (Text.startsWith "datetime" sqlType || Text.startsWith "timestamp" sqlType))
    || (dates.date && sqlType == "date")

namespace PropertyType

def name : PropertyType → String
  | .number => "number"
  | .string => "string"
  | .date => "Date"

def typeof : PropertyType → String
  | .number => "number"
  | .string => "string"
  | .date => "object"

def numberFamilies : List String := ["int", "float", "decimal", "numeric"]

def stringFamilies : List String := ["date", "time", "char", "text", "blob", "enum"]

def mentions (families : List String) (sqlType : String) : Bool :=
  families.any (fun f => Text.occursIn f sqlType)

def ofSqlType? (dates : DateMapping) (sqlType : String) : Option PropertyType :=
  if mentions numberFamilies sqlType then some .number
  else if mentions stringFamilies sqlType then
    if dates.applies sqlType then some .date else some .string
  else none

end PropertyType

end SchemaTypes
