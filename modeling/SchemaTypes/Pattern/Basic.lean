import SchemaTypes.Pattern.CharSet

/-!
# Patterns

The syntax of patterns once it has been read, and what it means for a pattern to match. A text
with `n` characters has `n + 1` gaps. An assertion is about a gap; every other pattern leads from
gaps to gaps. Only whether a match exists is asked for, so the order in which alternatives are
tried plays no part.
-/

set_option autoImplicit false

namespace SchemaTypes

/-- Conditions on the characters before and after a gap. The flag tells whether words are those
of all scripts or of ASCII only. -/
inductive Assertion where
  | textStart
  | textEnd
  | lineStart
  | lineEnd
  /-- lines end in a line feed, a carriage return, or both -/
  | anyLineStart
  | anyLineEnd
  | wordBoundary (unicode : Bool)
  | notWordBoundary (unicode : Bool)
  | wordStart (unicode : Bool)
  | wordEnd (unicode : Bool)
  | wordStartHalf (unicode : Bool)
  | wordEndHalf (unicode : Bool)
  deriving DecidableEq, Repr

namespace Assertion

def isWord (unicode : Bool) : Option Char → Bool
  | none => false
  | some c => (if unicode then CharSet.word else CharSet.asciiWord).mem c.toNat

def holds (before after : Option Char) : Assertion → Bool
  | textStart => before.isNone
  | textEnd => after.isNone
  | lineStart => before.isNone || before == some '\n'
  | lineEnd => after.isNone || after == some '\n'
  | anyLineStart =>
    before.isNone || before == some '\n' || (before == some '\r' && after != some '\n')
  | anyLineEnd =>
    after.isNone || after == some '\r' || (after == some '\n' && before != some '\r')
  | wordBoundary u => isWord u before != isWord u after
  | notWordBoundary u => isWord u before == isWord u after
  | wordStart u => !isWord u before && isWord u after
  | wordEnd u => isWord u before && !isWord u after
  | wordStartHalf u => !isWord u before
  | wordEndHalf u => !isWord u after

end Assertion

inductive Pattern where
  | empty
  | char (set : CharSet)
  | assertion (a : Assertion)
  | seq (p q : Pattern)
  | alt (p q : Pattern)
  /-- between `least` and `most` times, or any number from `least` on -/
  | repeats (p : Pattern) (least : Nat) (most : Option Nat)
  deriving Inhabited

/-- A set of gaps of a text: one mark for each gap. -/
abbrev Marks := List Bool

namespace Marks

def union (ms ns : Marks) : Marks := List.zipWith or ms ns

/-- `k` steps; a step that changes nothing is the last. -/
def iterate (step : Marks → Marks) : Nat → Marks → Marks
  | 0, ms => ms
  | k + 1, ms =>
    let next := step ms
    if next = ms then ms else iterate step k next

end Marks

namespace Pattern

def surroundings (before : Option Char) : List Char → List (Option Char × Option Char)
  | [] => [(before, none)]
  | c :: cs => (before, some c) :: surroundings (some c) cs

/-- The gaps where a match ends that starts at one of the marked gaps. -/
def advance (text : List Char) : Pattern → Marks → Marks
  | .empty, ms => ms
  | .char set, ms => false :: List.zipWith (fun m c => m && set.mem c.toNat) ms text
  | .assertion a, ms =>
    List.zipWith (fun m s => m && a.holds s.1 s.2) ms (surroundings none text)
  | .seq p q, ms => advance text q (advance text p ms)
  | .alt p q, ms => (advance text p ms).union (advance text q ms)
  | .repeats p least most, ms =>
    let once := fun ns => advance text p ns
    let more := match most with
      | none => text.length + 1
      | some m => m - least
    Marks.iterate (fun ns => Marks.union ns (once ns)) more (Marks.iterate once least ms)

def matchesChars (p : Pattern) (text : List Char) : Bool :=
  (p.advance text (List.replicate (text.length + 1) true)).any id

def matchesText (p : Pattern) (text : String) : Bool :=
  p.matchesChars text.toList

end Pattern

end SchemaTypes
