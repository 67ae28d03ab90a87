/-!
# Searching in text

Whether one text starts with, ends with or occurs in another.
-/

set_option autoImplicit false

namespace SchemaTypes.Text

def occursInChars (pattern : List Char) : List Char → Bool
  | [] => pattern.isEmpty
  | c :: cs => pattern.isPrefixOf (c :: cs) || occursInChars pattern cs

def occursIn (pattern text : String) : Bool :=
  occursInChars pattern.toList text.toList

def startsWith (pattern text : String) : Bool :=
  pattern.toList.isPrefixOf text.toList

def endsWith (pattern text : String) : Bool :=
  pattern.toList.reverse.isPrefixOf text.toList.reverse

def sameIgnoringCase (s t : String) : Bool :=
  s.toList.map Char.toLower == t.toList.map Char.toLower

end SchemaTypes.Text
