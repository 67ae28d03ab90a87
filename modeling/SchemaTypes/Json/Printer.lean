import SchemaTypes.Json.Value
import SchemaTypes.Text.Digits

/-!
# Writing JSON

Values are written without blanks. Strings escape the quote, the backslash and the control
characters. A number that is no integer keeps its digits and is written with an exponent, so that
it is read back as one.
-/

set_option autoImplicit false

namespace SchemaTypes.Json

def escapeChar (c : Char) : List Char :=
  if c == '"' then ['\\', '"']
  else if c == '\\' then ['\\', '\\']
  else if c.toNat < 0x20 then
    ['\\', 'u', '0', '0', Text.hexDigit (c.toNat / 16), Text.hexDigit (c.toNat % 16)]
  else [c]

def quoted (s : String) : String :=
  .ofList ('"' :: s.toList.flatMap escapeChar ++ ['"'])

def Number.text : Number → String
  | .integer n => toString n
  | .decimal digits exponent => toString digits ++ "e" ++ toString exponent

mutual

def print : Json → String
  | .null => "null"
  | .bool b => if b then "true" else "false"
  | .number n => n.text
  | .string s => quoted s
  | .array items => "[" ++ printItems "" items ++ "]"
  | .object fields => "\x7b" ++ printFields "" fields ++ "\x7d"

def printItems (separator : String) : List Json → String
  | [] => ""
  | v :: rest => separator ++ print v ++ printItems "," rest

def printFields (separator : String) : List (String × Json) → String
  | [] => ""
  | (k, v) :: rest => separator ++ quoted k ++ ":" ++ print v ++ printFields "," rest

end

end SchemaTypes.Json
