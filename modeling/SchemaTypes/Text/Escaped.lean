import SchemaTypes.Unicode.Category
import SchemaTypes.Unicode.Property
import SchemaTypes.Text.Digits

/-!
# Escaped text

Text in double quotes as listings show it: quotes, backslashes and the usual control characters
get a backslash, and characters that do not print, or that join with the one before them, are
given by their code point.
-/

set_option autoImplicit false

namespace SchemaTypes.Text
open Unicode

/-- Control, format and private characters, unassigned code points, and every separator but the
space do not print. -/
def prints (n : Nat) : Bool :=
  n == 0x20 || !(other ++ separator).contains n

def hexText (n : Nat) : List Char := Nat.toDigits 16 n

def escapeChar (c : Char) : List Char :=
  if c = '\x00' then ['\\', '0']
  else if c = '\t' then ['\\', 't']
  else if c = '\n' then ['\\', 'n']
  else if c = '\r' then ['\\', 'r']
  else if c = '"' then ['\\', '"']
  else if c = '\\' then ['\\', '\\']
  else if 0x20 ≤ c.toNat && c.toNat < 0x7f then [c]
  else if graphemeExtend.contains c.toNat || !prints c.toNat then
    ['\\', 'u', '\x7b'] ++ hexText c.toNat ++ ['\x7d']
  else [c]

def escaped (s : String) : String :=
  .ofList ('"' :: s.toList.flatMap escapeChar ++ ['"'])

def escapedList (ss : List String) : String :=
  "[" ++ ", ".intercalate (ss.map escaped) ++ "]"

end SchemaTypes.Text
