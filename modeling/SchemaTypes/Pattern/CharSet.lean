import SchemaTypes.Unicode.Query
import SchemaTypes.Unicode.Folding

/-!
# Sets of characters in patterns

The sets that one position of a pattern can stand for, built from ranges and tables by the
operations that patterns have. Membership is that of the operations on sets; a caseless set holds
every character that differs from a member in case only.
-/

set_option autoImplicit false

namespace SchemaTypes

inductive CharSet where
  | nothing
  | range (first last : Nat)
  | table (ranges : Unicode.Ranges)
  | union (a b : CharSet)
  | inter (a b : CharSet)
  | diff (a b : CharSet)
  | symmDiff (a b : CharSet)
  | compl (a : CharSet)
  /-- closed under simple case folding -/
  | caseless (a : CharSet)
  /-- closed under the case of the letters `A` to `Z` only -/
  | asciiCaseless (a : CharSet)
  deriving Inhabited

namespace CharSet

def otherCase (n : Nat) : Nat :=
  if 0x41 ≤ n && n ≤ 0x5A then n + 0x20
  else if 0x61 ≤ n && n ≤ 0x7A then n - 0x20
  else n

def mem : CharSet → Nat → Bool
  | nothing, _ => false
  | range first last, n => first ≤ n && n ≤ last
  | table ranges, n => ranges.contains n
  | union a b, n => mem a n || mem b n
  | inter a b, n => mem a n && mem b n
  | diff a b, n => mem a n && !mem b n
  | symmDiff a b, n => mem a n != mem b n
  | compl a, n => !mem a n
  | caseless a, n => (Unicode.orbit n).any (mem a)
  | asciiCaseless a, n => mem a n || mem a (otherCase n)

/-- How many runs of code points the set is written with, a measure of its size in an
automaton. -/
def size : CharSet → Nat
  | nothing => 0
  | range _ _ => 1
  | table ranges => ranges.runCount
  | union a b | inter a b | diff a b | symmDiff a b => size a + size b
  | compl a => size a + 1
  | caseless a | asciiCaseless a => 2 * size a

def single (c : Char) : CharSet := range c.toNat c.toNat

def ofRanges (rs : List (Nat × Nat)) : CharSet :=
  rs.foldr (fun r s => union (range r.1 r.2) s) nothing

def unions : List CharSet → CharSet
  | [] => nothing
  | [a] => a
  | a :: rest => union a (unions rest)

def any : CharSet := range 0 0x10FFFF

def asciiDigits : CharSet := range 0x30 0x39

def asciiBlanks : CharSet := ofRanges [(0x09, 0x0D), (0x20, 0x20)]

def asciiWord : CharSet := ofRanges [(0x30, 0x39), (0x41, 0x5A), (0x5F, 0x5F), (0x61, 0x7A)]

def digits : CharSet := table Unicode.decimalNumber

def blanks : CharSet := table Unicode.whiteSpace

def word : CharSet :=
  union asciiWord (table (Unicode.alphabetic ++ Unicode.mark ++ Unicode.decimalNumber
    ++ Unicode.connectorPunctuation ++ Unicode.joinControl))

def posix? (name : String) : Option CharSet :=
  match name with
  | "alnum" => some (ofRanges [(0x30, 0x39), (0x41, 0x5A), (0x61, 0x7A)])
  | "alpha" => some (ofRanges [(0x41, 0x5A), (0x61, 0x7A)])
  | "ascii" => some (range 0 0x7F)
  | "blank" => some (ofRanges [(0x09, 0x09), (0x20, 0x20)])
  | "cntrl" => some (ofRanges [(0, 0x1F), (0x7F, 0x7F)])
  | "digit" => some asciiDigits
  | "graph" => some (range 0x21 0x7E)
  | "lower" => some (range 0x61 0x7A)
  | "print" => some (range 0x20 0x7E)
  | "punct" => some (ofRanges [(0x21, 0x2F), (0x3A, 0x40), (0x5B, 0x60), (0x7B, 0x7E)])
  | "space" => some asciiBlanks
  | "upper" => some (range 0x41 0x5A)
  | "word" => some asciiWord
  | "xdigit" => some (ofRanges [(0x30, 0x39), (0x41, 0x46), (0x61, 0x66)])
  | _ => none

def ofSelection (s : Unicode.Selection) : CharSet :=
  if s.complement then compl (table s.ranges) else table s.ranges

end CharSet

end SchemaTypes
