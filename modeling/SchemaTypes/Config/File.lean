import SchemaTypes.Config.Reader
import SchemaTypes.Failure
import SchemaTypes.Json.Reader
import SchemaTypes.Path
import SchemaTypes.Toml.Reader

/-!
# Configuration files

A configuration file is text in TOML if its extension says so and in JSON otherwise.
-/

set_option autoImplicit false

namespace SchemaTypes.Config

def jsonDepth : Nat := 127

def isToml (path : String) : Bool :=
  match Path.extension? path with
  | some e => Text.sameIgnoringCase e "toml"
  | none => false

def valueOfText? (path text : String) : Option Json :=
  if isToml path then Toml.parse? text else Json.parse? jsonDepth text

def ofFile [PatternEngine] (path : String) (content : Option ByteArray) : Except Failure Config :=
  match content.bind String.fromUTF8? with
  | none => .error (.unreadableConfig path)
  | some text =>
    match valueOfText? path text with
    | none => .error (.malformedConfig path)
    | some value =>
      match ofJson value with
      | .ok c => .ok c
      | .error fault => .error (.validation fault)

end SchemaTypes.Config
