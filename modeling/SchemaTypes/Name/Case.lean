/-!
# Naming conventions

A name is written in camel, pascal or snake case. Which one is read off the name itself: an
underscore with a character on either side makes it snake case, a leading capital pascal case,
and everything else counts as camel case. Only the first underscore is looked at, and only the
letters `A` to `Z` and `a` to `z` have a case here.
-/

set_option autoImplicit false

namespace SchemaTypes

inductive Case where
  | camel
  | pascal
  | snake
  deriving DecidableEq, Repr, Inhabited

namespace Case

def all : List Case := [.camel, .pascal, .snake]

def name : Case → String
  | .camel => "camel"
  | .pascal => "pascal"
  | .snake => "snake"

def ofName? (text : String) : Option Case :=
  all.find? (fun c => c.name == text)

/-- The first underscore stands neither first nor last. -/
def hasInnerUnderscore (cs : List Char) : Bool :=
  !(cs.takeWhile (· != '_')).isEmpty && 1 < (cs.dropWhile (· != '_')).length

def startsCapital : List Char → Bool
  | [] => false
  | c :: _ => c.isUpper

def ofChars (cs : List Char) : Case :=
  if hasInnerUnderscore cs then .snake
  else if startsCapital cs then .pascal
  else .camel

def infer (name : String) : Case := ofChars name.toList

end Case

end SchemaTypes
