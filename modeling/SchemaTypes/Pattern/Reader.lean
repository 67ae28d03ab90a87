import SchemaTypes.Pattern.Bracket
import SchemaTypes.Pattern.Engine

/-!
# Reading patterns

A pattern is read from left to right with a stack of the groups and alternations that are still
open. Flags set inside a group hold to its end. Besides its syntax a pattern is bounded in two
ways: nesting may not be deeper than 250 levels, and the automaton that the pattern describes may
not take more than ten mebibytes.

This is the engine of the program. It knows no sets of characters by age, by grapheme, word or
sentence break, and takes script extensions for scripts.
-/

set_option autoImplicit false

namespace SchemaTypes.Pattern

/-- A part of a pattern with the measures that its limits are about. -/
structure Piece where
  pattern : Pattern
  depth : Nat := 0
  /-- size of the automaton, in bytes -/
  weight : Nat := 0
  /-- false for a setting of flags, which no repetition can follow -/
  repeatable : Bool := true

inductive Frame where
  /-- `before` are the pieces before the group, last first; `flags` hold again after it -/
  | group (before : List Piece) (flags : Flags)
  | branches (done : List Piece)

structure Reading where
  flags : Flags := {}
  items : List Piece := []
  stack : List Frame := []
  names : List String := []

def stateWeight : Nat := 32

def nestLimit : Nat := 250

def weightLimit : Nat := 10 * 1024 * 1024

def deeper (ps : List Piece) : Nat := maxDepth (ps.map (·.depth)) + 1

def totalWeight (ps : List Piece) : Nat := ps.foldl (fun n p => n + p.weight) 0

def inSequence : List Piece → Piece
  | [] => { pattern := .empty }
  | [p] => p
  | p :: ps =>
    { pattern := ps.foldl (fun later q => .seq q.pattern later) p.pattern
      depth := deeper (p :: ps)
      weight := totalWeight (p :: ps) }

def alternatives : List Piece → Piece
  | [] => { pattern := .empty }
  | [p] => p
  | p :: ps =>
    { pattern := ps.foldl (fun later q => .alt q.pattern later) p.pattern
      depth := deeper (p :: ps)
      weight := totalWeight (p :: ps) + 2 * stateWeight }

/-- The size of one position in an automaton over bytes: a state for every byte of a character,
and about two for every range of a set. -/
def charWeight (c : Char) : Nat := stateWeight * c.utf8Size

def setWeight (s : CharSet) : Nat := 2 * stateWeight * s.size

def pieceOfSet (s : CharSet) (depth : Nat) : Piece :=
  { pattern := .char s, depth := depth, weight := setWeight s }

/-- A character outside brackets. Without Unicode a hexadecimal escape beyond ASCII would be a
lone byte, which no text holds. -/
def pieceOfLiteral (f : Flags) (c : Char) (byte : Bool) : Option Piece :=
  if !f.unicode && byte && 0x80 ≤ c.toNat then none
  else some { pattern := .char (f.fold (.single c)), weight := charWeight c }

def dotSet (f : Flags) : CharSet :=
  if f.dotAll then .any
  else if f.anyLine then .diff (.diff .any (.single '\n')) (.single '\r')
  else .diff .any (.single '\n')

def pieceOfUnit (f : Flags) : Unit → Option Piece
  | .literal c byte => pieceOfLiteral f c byte
  | .dot =>
    if f.unicode then some { pattern := .char (dotSet f), weight := 8 * stateWeight } else none
  | .assertion a => some { pattern := .assertion a, weight := stateWeight }
  | .set s => some (pieceOfSet s 0)

def lineStart (f : Flags) : Assertion :=
  if f.multiLine then (if f.anyLine then .anyLineStart else .lineStart) else .textStart

def lineEnd (f : Flags) : Assertion :=
  if f.multiLine then (if f.anyLine then .anyLineEnd else .lineEnd) else .textEnd

def Flags.set? (f : Flags) (letter : Char) (on : Bool) : Option Flags :=
  match letter with
  | 'i' => some { f with caseless := on }
  | 'm' => some { f with multiLine := on }
  | 's' => some { f with dotAll := on }
  | 'R' => some { f with anyLine := on }
  | 'u' => some { f with unicode := on }
  | 'x' => some { f with extended := on }
  | 'U' => some f
  | _ => none

/-- Flag letters up to a colon or a closing parenthesis, which is given back. Letters after a
hyphen are switched off. No letter and no hyphen may come twice, and the hyphen not last. -/
def flagLetters (f : Flags) (on : Bool) (seen : List Char) :
    List Char → Option (Flags × List Char × Char × List Char)
  | [] => none
  | c :: cs =>
    if c = ':' || c = ')' then
      if seen.head? = some '-' then none else some (f, seen, c, cs)
    else if seen.contains c then none
    else if c = '-' then flagLetters f false (c :: seen) cs
    else match f.set? c on with
      | some f' => flagLetters f' on (c :: seen) cs
      | none => none

def isLetter (c : Char) : Bool := Unicode.alphabetic.contains c.toNat

def isNumeric (c : Char) : Bool := Unicode.number.contains c.toNat

def isNameChar (first : Bool) (c : Char) : Bool :=
  c = '_' || isLetter c
    || (!first && (c = '.' || c = '[' || c = ']' || isNumeric c))

def groupName (cs : List Char) : Option (String × List Char) :=
  match cs.takeWhile (· != '>'), cs.dropWhile (· != '>') with
  | c :: name, _ :: rest =>
    if isNameChar true c && name.all (isNameChar false) then some (.ofList (c :: name), rest)
    else none
  | _, _ => none

namespace Reading

def push (r : Reading) (p : Piece) : Reading := { r with items := p :: r.items }

def openGroup (r : Reading) (inner : Flags) : Reading :=
  { r with flags := inner, items := [], stack := .group r.items r.flags :: r.stack }

def openNamed (r : Reading) (cs : List Char) : Option (Reading × List Char) :=
  (groupName cs).bind fun (name, rest) =>
    if r.names.contains name then none
    else some ({ r with names := name :: r.names }.openGroup r.flags, rest)

def lookAround : List (List Char) := [['?', '='], ['?', '!'], ['?', '<', '='], ['?', '<', '!']]

def group (r : Reading) (cs : List Char) : Option (Reading × List Char) :=
  let cs := r.flags.skip cs
  if lookAround.any (fun s => s.isPrefixOf cs) then none
  else match cs with
    | '?' :: 'P' :: '<' :: rest => r.openNamed rest
    | '?' :: '<' :: rest => r.openNamed rest
    | '?' :: rest =>
      match flagLetters r.flags true [] rest with
      | some (f, seen, stop, rest') =>
        if stop = ':' then some (r.openGroup f, rest')
        else if seen.isEmpty then none
        else some ({ r with flags := f }.push { pattern := .empty, repeatable := false }, rest')
      | none => none
    | _ => some (r.openGroup r.flags, cs)

def alternate (r : Reading) : Reading :=
  let branch := inSequence r.items
  match r.stack with
  | .branches done :: rest => { r with items := [], stack := .branches (branch :: done) :: rest }
  | stack => { r with items := [], stack := .branches [branch] :: stack }

def grouped (p : Piece) : Piece :=
  { p with depth := p.depth + 1, weight := p.weight + 2 * stateWeight, repeatable := true }

def closeGroup (r : Reading) : Option Reading :=
  let last := inSequence r.items
  match r.stack with
  | .branches done :: .group before flags :: rest =>
    some { r with flags := flags, items := grouped (alternatives (last :: done)) :: before,
                  stack := rest }
  | .group before flags :: rest =>
    some { r with flags := flags, items := grouped last :: before, stack := rest }
  | _ => none

def finish (r : Reading) : Option Piece :=
  let last := inSequence r.items
  match r.stack with
  | [] => some last
  | [.branches done] => some (alternatives (last :: done))
  | _ => none

def repeated (r : Reading) (least : Nat) (most : Option Nat) : Option Reading :=
  match r.items with
  | [] => none
  | p :: rest =>
    if !p.repeatable then none
    else
      let weight := match most with
        | none => max least 1 * p.weight + stateWeight
        | some m => m * p.weight + (m - least) * stateWeight
      let q : Piece :=
        { pattern := .repeats p.pattern least most, depth := p.depth + 1, weight := weight }
      some { r with items := q :: rest }

end Reading

def countBound : Nat := Nat.pow 2 32

def count (f : Flags) (cs : List Char) : Option (Nat × List Char) :=
  let rec digits (fuel : Nat) (cs : List Char) : List Char × List Char :=
    match fuel with
    | 0 => ([], cs)
    | fuel + 1 =>
      match cs with
      | c :: rest =>
        if c.isDigit then
          let (ds, rest') := digits fuel (f.skip rest)
          (c :: ds, rest')
        else ([], cs)
      | [] => ([], [])
  let (ds, rest) := digits (cs.length + 1) (cs.dropWhile isBlank)
  let n := Text.digitsValue 10 ds
  if ds.isEmpty || countBound ≤ n then none else some (n, f.skip (rest.dropWhile isBlank))

/-- A repetition may be followed by a question mark, which asks for fewest repetitions first and
so changes nothing here. -/
def dropLazy : List Char → List Char
  | '?' :: cs => cs
  | cs => cs

def bounds (f : Flags) (cs : List Char) : Option (Nat × Option Nat × List Char) := do
  let rest ← f.skip? cs
  let (least, rest) ← count f rest
  match rest with
  | '\x7d' :: after => some (least, some least, dropLazy (f.skip after))
  | ',' :: after =>
    let after ← f.skip? after
    match after with
    | '\x7d' :: after' => some (least, none, dropLazy (f.skip after'))
    | _ =>
      let (most, after') ← count f after
      match after' with
      | '\x7d' :: after'' =>
        if least ≤ most then some (least, some most, dropLazy (f.skip after'')) else none
      | _ => none
  | _ => none

/-- Reads to the end of the pattern. Every turn reads a character, so a bound above the length of
the pattern is never reached. -/
def readAll (fuel : Nat) (r : Reading) (cs : List Char) : Option Piece :=
  match fuel with
  | 0 => none
  | fuel + 1 =>
    let repetition (least : Nat) (most : Option Nat) (rest : List Char) :=
      (r.repeated least most).bind (fun r' => readAll fuel r' rest)
    let unit (u : Unit) (rest : List Char) :=
      (pieceOfUnit r.flags u).bind (fun p => readAll fuel (r.push p) rest)
    match r.flags.skip cs with
    | [] => r.finish
    | '(' :: rest => (r.group rest).bind (fun (r', rest') => readAll fuel r' rest')
    | ')' :: rest => r.closeGroup.bind (fun r' => readAll fuel r' rest)
    | '|' :: rest => readAll fuel r.alternate rest
    | '[' :: rest =>
      (bracketed r.flags rest).bind fun (c, rest') =>
        readAll fuel (r.push (pieceOfSet c.set c.depth)) rest'
    | '?' :: rest => repetition 0 (some 1) (dropLazy rest)
    | '*' :: rest => repetition 0 none (dropLazy rest)
    | '+' :: rest => repetition 1 none (dropLazy rest)
    | '\x7b' :: rest =>
      (bounds r.flags rest).bind fun (least, most, rest') => repetition least most rest'
    | '\\' :: rest => (escape r.flags rest).bind (fun (u, rest') => unit u rest')
    | '.' :: rest => unit .dot rest
    | '^' :: rest => unit (.assertion (lineStart r.flags)) rest
    | '$' :: rest => unit (.assertion (lineEnd r.flags)) rest
    | c :: rest => unit (.literal c false) rest

def parse? (text : String) : Option Pattern :=
  match readAll (text.length + 1) {} text.toList with
  | some p => if p.depth ≤ nestLimit && p.weight ≤ weightLimit then some p.pattern else none
  | none => none

instance engine : PatternEngine where
  parse? text := (parse? text).map fun p => ⟨p.matchesText⟩

end SchemaTypes.Pattern
