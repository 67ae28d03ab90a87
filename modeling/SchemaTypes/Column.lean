import SchemaTypes.Text.Casing
import SchemaTypes.Text.Search

/-!
# Columns

What a server tells about one column of a table. Names and types are kept in small letters; the
key and the extra information are kept as they come.
-/

set_option autoImplicit false

namespace SchemaTypes

structure Column where
  field : String
  sqlType : String
  nullable : Bool
  /-- `PRI`, `UNI`, `MUL` or empty -/
  key : String
  default : Option String
  extra : String
  deriving DecidableEq, Repr

namespace Column

def ofListing (field sqlType null : String) (key default extra : Option String) : Column where
  field := Text.toLower field
  sqlType := Text.toLower sqlType
  nullable := Text.sameIgnoringCase null "YES"
  key := key.getD ""
  default := default
  extra := extra.getD ""

def isPrimaryKey (c : Column) : Bool := c.key == "PRI"

def isAutoIncrement (c : Column) : Bool :=
  Text.occursIn "auto_increment" (Text.toLower c.extra)

end Column

end SchemaTypes
