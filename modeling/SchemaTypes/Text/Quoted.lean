/-!
# Quoted identifiers and string literals

MySQL identifiers stand between backticks, and a backtick inside is written twice. TypeScript
string literals stand between single quotes, and a quote or a backslash inside gets a backslash
before it.
-/

set_option autoImplicit false

namespace SchemaTypes.Text

def backtick : Char := Char.ofNat 0x60

def singleQuote : Char := Char.ofNat 0x27

def doubleBackticks (cs : List Char) : List Char :=
  cs.flatMap (fun c => if c = backtick then [backtick, backtick] else [c])

def quoteIdentifier (name : String) : String :=
  .ofList (backtick :: doubleBackticks name.toList ++ [backtick])

def escapeLiteral (cs : List Char) : List Char :=
  cs.flatMap (fun c => if c = '\\' || c = singleQuote then ['\\', c] else [c])

def quoteLiteral (text : String) : String :=
  .ofList (singleQuote :: escapeLiteral text.toList ++ [singleQuote])

end SchemaTypes.Text
