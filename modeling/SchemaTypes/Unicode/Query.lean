import SchemaTypes.Unicode.Property
import SchemaTypes.Unicode.Category
import SchemaTypes.Unicode.Script

/-!
# Looking up sets of characters by name

A set of characters is asked for by the name of a binary property, a general category or a
script, or as the value of the last two. Letter case, blanks, hyphens and underscores in names do
not count, nor does a leading `is`.
-/

set_option autoImplicit false

namespace SchemaTypes.Unicode

def significant (cs : List Char) : List Char :=
  (cs.filter (fun c => c.toNat < 0x80 && c != ' ' && c != '_' && c != '-')).map Char.toLower

/-- The prefix `is` is dropped, but `isc` keeps it, since `c` is a category. -/
def normalized (name : String) : String :=
  match name.toList with
  | [] => ""
  | [c] => .ofList (significant [c])
  | i :: s :: rest =>
    if i.toLower = 'i' && s.toLower = 's' then
      if significant rest = ['c'] then "isc" else .ofList (significant rest)
    else .ofList (significant (i :: s :: rest))

def allCodePoints : Ranges := [⟨0, 0x10FFFF, 1⟩]

/-- A category, or one of the sets that are named like categories. `assigned` is the complement
of a category and handled by `Selection`. -/
def category? (name : String) : Option Ranges :=
  if name = "any" then some allCodePoints
  else if name = "ascii" then some [⟨0, 0x7F, 1⟩]
  else categories.lookup name

structure Selection where
  ranges : Ranges
  complement : Bool := false

def selectCategory? (name : String) : Option Selection :=
  if name = "assigned" then some ⟨unassigned, true⟩
  else (category? name).map (fun r => ⟨r, false⟩)

def selectScript? (name : String) : Option Selection :=
  (script? name).map (fun r => ⟨r, false⟩)

def named? (name : String) : Option Selection :=
  let n := normalized name
  ((properties.lookup n).map (fun r => ⟨r, false⟩) <|> selectCategory? n) <|> selectScript? n

def categoryNames : List String := ["gc", "generalcategory", "category"]

def scriptNames : List String := ["sc", "script", "scx", "scriptextensions"]

def valued? (property value : String) : Option Selection :=
  let p := normalized property
  let v := normalized value
  if categoryNames.contains p then selectCategory? v
  else if scriptNames.contains p then selectScript? v
  else none

end SchemaTypes.Unicode
