import SchemaTypes.Json.Value

/-!
# Fields of a configuration

A field counts only if it is present and of the expected kind; otherwise the value to fall back
to is taken, without an error.
-/

set_option autoImplicit false

namespace SchemaTypes.Fields

def string? (fields : Fields) (name : String) : Option String :=
  (fields.get? name).bind Json.string?

def nonEmpty? (fields : Fields) (name : String) : Option String :=
  (fields.string? name).filter (fun s => !s.isEmpty)

def object? (fields : Fields) (name : String) : Option Fields :=
  (fields.get? name).bind Json.object?

def text (fields : Fields) (name fallback : String) : String :=
  (fields.string? name).getD fallback

def flag (fields : Fields) (name : String) (fallback : Bool) : Bool :=
  ((fields.get? name).bind Json.bool?).getD fallback

def below? (fields : Fields) (name : String) (bound : Nat) : Option Nat :=
  ((fields.get? name).bind Json.natural?).filter (fun n => n < bound)

def choice {α : Type} (fields : Fields) (name : String) (ofName? : String → Option α)
    (fallback : α) : α :=
  ((fields.string? name).bind ofName?).getD fallback

/-- A list of strings; one item of another kind spoils the whole list. -/
def strings (fields : Fields) (name : String) (fallback : List String) : List String :=
  (((fields.get? name).bind Json.array?).bind (fun items => items.mapM Json.string?)).getD fallback

end SchemaTypes.Fields
