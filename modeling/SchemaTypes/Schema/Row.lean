import SchemaTypes.Column

/-!
# Rows of a reply

Rows are read by the names of their columns or by position. A value may be missing, null or no
text; the first such value that matters is the fault of the row.
-/

set_option autoImplicit false

namespace SchemaTypes

inductive Cell where
  | null
  | text (value : String)
  | binary
  deriving DecidableEq, Repr

structure Row where
  cells : List (String × Cell)
  deriving DecidableEq, Repr

inductive RowFault where
  | missing (column : String)
  | notText (column : String)
  | null (column : String)
  deriving DecidableEq, Repr

namespace RowFault

def quoted (column : String) : String :=
  "column " ++ .ofList (Char.ofNat 0x60 :: column.toList ++ [Char.ofNat 0x60])

def message : RowFault → String
  | missing column => quoted column ++ " not found"
  | notText column => quoted column
  | null column => quoted column ++ " is NULL"

end RowFault

namespace Row

/-- The text of a cell, or none where it is null. -/
def decode (column : String) : Option Cell → Except RowFault (Option String)
  | none => .error (.missing column)
  | some .null => .ok none
  | some (.text value) => .ok (some value)
  | some .binary => .error (.notText column)

def required (column : String) : Except RowFault (Option String) → Except RowFault String
  | .error fault => .error fault
  | .ok none => .error (.null column)
  | .ok (some value) => .ok value

def named (r : Row) (column : String) : Except RowFault (Option String) :=
  decode column (r.cells.lookup column)

def positional (r : Row) (index : Nat) : Except RowFault (Option String) :=
  decode ("#" ++ toString index) ((r.cells[index]?).map (·.2))

/-- Name and type of a table; the first column is named after the database, so both are read by
position. -/
def tableEntry (r : Row) : Except RowFault (String × String) := do
  let name ← required "#0" (r.positional 0)
  let type ← required "#1" (r.positional 1)
  return (name, type)

def column (r : Row) : Except RowFault Column := do
  let field ← required "Field" (r.named "Field")
  let type ← required "Type" (r.named "Type")
  let null ← required "Null" (r.named "Null")
  let key ← r.named "Key"
  let default ← r.named "Default"
  let extra ← r.named "Extra"
  return Column.ofListing field type null key default extra

end Row

end SchemaTypes
