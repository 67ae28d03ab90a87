import SchemaTypes.Name.Case

/-!
# Conversion between naming conventions

A name is taken apart by the convention it is written in and put together by the convention
asked for. Snake case marks its boundaries with underscores, the other two with capitals.

Two conversions are not the identity although source and target agree: camel case loses its
inner capitals and pascal case its leading one. Snake case is kept as it is.
-/

set_option autoImplicit false

namespace SchemaTypes.Case

def lowerAll (cs : List Char) : List Char := cs.map Char.toLower

def lowerFirst : List Char → List Char
  | [] => []
  | c :: cs => c.toLower :: cs

def capitalize : List Char → List Char
  | [] => []
  | c :: cs => c.toUpper :: cs

def capitalPositions (cs : List Char) : List Nat :=
  (cs.zipIdx.filter (fun p => p.1.isUpper)).map Prod.snd

/-- Puts an underscore before each of the ascending positions; `shift` counts the underscores
already put in. -/
def insertUnderscores (shift : Nat) : List Nat → List Char → List Char
  | [], cs => cs
  | i :: rest, cs => insertUnderscores (shift + 1) rest (cs.insertIdx (i + shift) '_')

def underscored (cs : List Char) : List Char :=
  insertUnderscores 0 (capitalPositions cs) (lowerAll cs)

/-- Drops every underscore and raises the character after it; `raise` tells that an underscore
has just been dropped. -/
def joinUnderscores (raise : Bool) : List Char → List Char
  | [] => []
  | c :: cs =>
    if c = '_' then joinUnderscores true cs
    else (if raise then c.toUpper else c) :: joinUnderscores false cs

theorem lower_all_length (cs : List Char) : (lowerAll cs).length = cs.length := by
  simp [lowerAll]

theorem join_underscores_dropped (raise : Bool) (cs : List Char) :
    joinUnderscores raise ('_' :: cs) = joinUnderscores true cs := by
  simp [joinUnderscores]

def respell (source target : Case) (cs : List Char) : List Char :=
  match source, target with
  | .pascal, .snake => underscored (lowerFirst cs)
  | .pascal, _ => lowerFirst cs
  | .snake, .snake => cs
  | .snake, .camel => joinUnderscores false (lowerAll cs)
  | .snake, .pascal => capitalize (joinUnderscores false (lowerAll cs))
  | .camel, .snake => underscored cs
  | .camel, .pascal => capitalize cs
  | .camel, .camel => lowerAll cs

def convertChars (target : Case) (cs : List Char) : List Char :=
  respell (ofChars cs) target cs

/-- Declaration names start with a capital, so a camel case name is raised to pascal case
whatever the target is. -/
def raised (target : Case) : Case → Case
  | .camel => .pascal
  | _ => target

def convertUpChars (target : Case) (cs : List Char) : List Char :=
  respell (ofChars cs) (raised target (ofChars cs)) cs

def convert (target : Case) (name : String) : String :=
  .ofList (convertChars target name.toList)

def convertUp (target : Case) (name : String) : String :=
  .ofList (convertUpChars target name.toList)

end SchemaTypes.Case
