/-!
# JSON values

Configurations are JSON values. A number written without fraction and exponent that fits in 64
bits is an integer; every other number is kept as decimal digits with an exponent and never
counts as an integer, whatever its value.
-/

set_option autoImplicit false

namespace SchemaTypes

namespace Json

inductive Number where
  | integer (value : Int)
  /-- `digits · 10 ^ exponent`; the sign of a negative zero is dropped -/
  | decimal (digits : Int) (exponent : Int)
  deriving DecidableEq, Repr, Inhabited

def unsignedBound : Nat := Nat.pow 2 64

/-- Signed integers of 64 bits are below this bound, and none is less than its negative. -/
def signedBound : Nat := Nat.pow 2 63

inductive Kind where
  | null
  | boolean
  | number
  | string
  | array
  | object
  deriving DecidableEq, Repr

def Kind.name : Kind → String
  | .null => "null"
  | .boolean => "boolean"
  | .number => "number"
  | .string => "string"
  | .array => "array"
  | .object => "object"

end Json

inductive Json where
  | null
  | bool (value : Bool)
  | number (value : Json.Number)
  | string (value : String)
  | array (items : List Json)
  | object (fields : List (String × Json))
  deriving Inhabited

namespace Json

def kind : Json → Kind
  | .null => .null
  | .bool _ => .boolean
  | .number _ => .number
  | .string _ => .string
  | .array _ => .array
  | .object _ => .object

def string? : Json → Option String
  | .string s => some s
  | _ => none

def bool? : Json → Option Bool
  | .bool b => some b
  | _ => none

def natural? : Json → Option Nat
  | .number (.integer (.ofNat n)) => some n
  | _ => none

def array? : Json → Option (List Json)
  | .array items => some items
  | _ => none

end Json

/-- The fields of a JSON object; no name occurs twice in what a reader builds. -/
abbrev Fields := List (String × Json)

namespace Json

def object? : Json → Option Fields
  | .object fields => some fields
  | _ => none

end Json

namespace Fields

def get? (fields : Fields) (name : String) : Option Json :=
  fields.lookup name

/-- A field written again takes the new value. -/
def put (fields : Fields) (name : String) (value : Json) : Fields :=
  match fields with
  | [] => [(name, value)]
  | (k, v) :: rest => if k = name then (k, value) :: rest else (k, v) :: put rest name value

theorem get_put_self (fields : Fields) (name : String) (value : Json) :
    (fields.put name value).get? name = some value := by
  induction fields with
  | nil => simp [put, get?]
  | cons f rest ih =>
    obtain ⟨k, v⟩ := f
    by_cases h : k = name
    · simp [put, get?, h]
    · have h' : (name == k) = false := by simpa using fun e : name = k => h e.symm
      simpa [put, get?, h, List.lookup_cons, h'] using ih

theorem get_put_of_ne (fields : Fields) {name other : String} (value : Json)
    (h : other ≠ name) : (fields.put name value).get? other = fields.get? other := by
  induction fields with
  | nil =>
    have hb : (other == name) = false := by simpa using h
    simp [put, get?, List.lookup_cons, hb]
  | cons f rest ih =>
    obtain ⟨k, v⟩ := f
    by_cases hk : k = name
    · have hb : (other == k) = false := by simpa [hk] using h
      simp [put, get?, hk, List.lookup_cons, hk ▸ hb]
    · rw [put, if_neg hk]
      simp only [get?, List.lookup_cons] at ih ⊢
      rw [ih]

end Fields

end SchemaTypes
