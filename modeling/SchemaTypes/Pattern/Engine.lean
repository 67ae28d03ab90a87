/-!
# Pattern engines

The columns to leave out are given by patterns, and what the patterns mean is left to an engine.
An engine tells which texts are patterns and, of a pattern, which texts it matches in some part.
-/

set_option autoImplicit false

namespace SchemaTypes

/-- A pattern that has been read. -/
structure Matcher where
  matchesText : String → Bool

class PatternEngine where
  parse? : String → Option Matcher

end SchemaTypes
