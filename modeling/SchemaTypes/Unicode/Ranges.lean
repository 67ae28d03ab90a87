import SchemaTypes.Text.Digits

/-!
# Sets and maps of code points

Properties of characters are given by ranges of code points, and case mappings by ranges with the
code point that the first of the range goes to. Both are written as words of hexadecimal numbers:
`41-5a` is a range, `100-12e/2` is every second code point of one, and `41-5a>61` sends a range
to the one that starts at `61`.
-/

set_option autoImplicit false

namespace SchemaTypes.Unicode

/-- Every `step`-th code point from `first` to `last`. -/
structure Range where
  first : Nat
  last : Nat
  step : Nat := 1
  deriving DecidableEq, Repr

def Range.contains (r : Range) (n : Nat) : Bool :=
  r.first ≤ n && n ≤ r.last && (n - r.first) % r.step == 0

def Range.runs (r : Range) : List (Nat × Nat) :=
  if r.step ≤ 1 then [(r.first, r.last)]
  else (List.range ((r.last - r.first) / r.step + 1)).map fun k =>
    (r.first + k * r.step, r.first + k * r.step)

abbrev Ranges := List Range

abbrev Mapping := List (Range × Nat)

def cut (separator : Char) (cs : List Char) : List Char × List Char :=
  (cs.takeWhile (· != separator), (cs.dropWhile (· != separator)).drop 1)

def Range.ofChars (cs : List Char) : Range :=
  let (bounds, step) := cut '/' cs
  let (first, last) := cut '-' bounds
  let first' := Text.digitsValue 16 first
  { first := first'
    last := if last.isEmpty then first' else Text.digitsValue 16 last
    step := if step.isEmpty then 1 else Text.digitsValue 16 step }

def words (cs : List Char) : List (List Char) :=
  let step (c : Char) (state : List Char × List (List Char)) :=
    if c = ' ' || c = '\n' then
      (if state.1.isEmpty then state else ([], state.1 :: state.2))
    else (c :: state.1, state.2)
  let (first, rest) := cs.foldr step ([], [])
  if first.isEmpty then rest else first :: rest

namespace Ranges

def ofText (text : String) : Ranges :=
  (words text.toList).map Range.ofChars

def contains (rs : Ranges) (n : Nat) : Bool :=
  rs.any (fun r => r.contains n)

/-- Counts runs in the order of their first code points. One that starts in what is covered so
far, or right after it, is no new run. -/
def countRuns (covered : Option Nat) : List (Nat × Nat) → Nat
  | [] => 0
  | (first, last) :: rest =>
    match covered with
    | none => 1 + countRuns (some last) rest
    | some n => (if n + 1 < first then 1 else 0) + countRuns (some (max n last)) rest

def runCount (rs : Ranges) : Nat :=
  countRuns none ((rs.flatMap Range.runs).mergeSort (fun a b => a.1 ≤ b.1))

end Ranges

namespace Mapping

def ofText (text : String) : Mapping :=
  (words text.toList).map fun word =>
    let (range, target) := cut '>' word
    (Range.ofChars range, Text.digitsValue 16 target)

def image? (m : Mapping) (n : Nat) : Option Nat :=
  (m.find? (fun e => e.1.contains n)).map (fun e => e.2 + (n - e.1.first))

def preimages (m : Mapping) (n : Nat) : List Nat :=
  m.filterMap fun e =>
    let source := e.1.first + (n - e.2)
    if e.2 ≤ n && e.1.contains source then some source else none

end Mapping

end SchemaTypes.Unicode
