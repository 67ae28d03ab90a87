import SchemaTypes.Pattern.Escape

/-!
# Bracketed classes

Classes in brackets hold characters, ranges, escapes, named ASCII classes and nested classes, and
combine sets by intersection `&&`, difference `--` and symmetric difference `~~`, from left to
right and each weaker than the union of what stands side by side. Without Unicode no class may be
negated and none may hold characters beyond ASCII.
-/

set_option autoImplicit false

namespace SchemaTypes.Pattern

/-- A set with the nesting depth of the syntax that it was read from. -/
structure Class where
  set : CharSet
  depth : Nat := 0

inductive SetOp where
  | inter
  | diff
  | symmDiff

def SetOp.apply : SetOp → CharSet → CharSet → CharSet
  | .inter, a, b => .inter a b
  | .diff, a, b => .diff a b
  | .symmDiff, a, b => .symmDiff a b

/-- A class that is still open, or the left side of an operation in one. -/
inductive ClassFrame where
  /-- `items` of the enclosing class come last first -/
  | opened (items : List Class) (negated : Bool)
  | operand (op : SetOp) (left : Class)

def maxDepth (ds : List Nat) : Nat := ds.foldl max 0

def unionOf : List Class → Class
  | [c] => c
  | [] => ⟨.nothing, 0⟩
  | cs => ⟨CharSet.unions (cs.reverse.map (·.set)), maxDepth (cs.map (·.depth)) + 1⟩

def finishOperand (f : Flags) (right : Class) : List ClassFrame → Class × List ClassFrame
  | .operand op left :: rest =>
    (⟨op.apply (f.fold left.set) (f.fold right.set), max left.depth right.depth + 1⟩, rest)
  | stack => (right, stack)

/-- The items at the start of a class: hyphens, or one closing bracket, stand for themselves. -/
def leadingItems (f : Flags) (fuel : Nat) (cs : List Char) (items : List Class) :
    Option (List Class × List Char) :=
  match fuel with
  | 0 => none
  | fuel + 1 =>
    match f.skip cs with
    | [] => none
    | c :: rest =>
      if c = '-' then leadingItems f fuel rest (⟨.single '-', 0⟩ :: items)
      else if c = ']' && items.isEmpty then
        (f.skip? rest).map (fun r => ([⟨.single ']', 0⟩], r))
      else some (items, c :: rest)

def openClass (f : Flags) (cs : List Char) : Option (Bool × List Class × List Char) := do
  let rest ← f.skip? cs
  match rest with
  | '^' :: rest' =>
    let (items, r) ← leadingItems f (rest'.length + 1) rest' []
    some (true, items, r)
  | _ =>
    let (items, r) ← leadingItems f (rest.length + 1) rest []
    some (false, items, r)

def posixClass (f : Flags) : List Char → Option (Option Class × List Char)
  | ':' :: cs =>
    let (negated, body) := match cs with
      | '^' :: r => (true, r)
      | _ => (false, cs)
    let name := body.takeWhile (· != ':')
    match body.dropWhile (· != ':') with
    | ':' :: ']' :: rest =>
      (CharSet.posix? (.ofList name)).map fun s =>
        if negated && !f.unicode then (none, rest)
        else (some ⟨complementIf negated (f.fold s), 0⟩, rest)
    | _ => none
  | _ => none

def rangeEnd (f : Flags) : Unit → Option Nat
  | .literal c _ =>
    if !f.unicode && 0x80 ≤ c.toNat then none else some c.toNat
  | _ => none

def classItem (f : Flags) : List Char → Option (Unit × List Char)
  | [] => none
  | '\\' :: rest => escape f rest
  | c :: rest => some (.literal c false, rest)

def memberOf (f : Flags) : Unit → Option Class
  | .set s => some ⟨s, 0⟩
  | u => (rangeEnd f u).map (fun n => ⟨.range n n, 0⟩)

def peekAfter (f : Flags) (cs : List Char) : Option Char :=
  if !f.extended then cs.head?
  else match cs.dropWhile isBlank with
    | '#' :: rest => (rest.dropWhile isBlank).head?
    | rest => rest.head?

def classRange (f : Flags) (cs : List Char) : Option (Class × List Char) := do
  let (first, rest) ← classItem f cs
  let rest ← f.skip? rest
  match rest with
  | '-' :: after =>
    if peekAfter f after = some ']' || peekAfter f after = some '-' then
      (memberOf f first).map (fun c => (c, rest))
    else
      let after ← f.skip? after
      let (last, rest') ← classItem f after
      let a ← rangeEnd f first
      let b ← rangeEnd f last
      if a ≤ b then some (⟨.range a b, 0⟩, rest') else none
  | _ => (memberOf f first).map (fun c => (c, rest))

def closeClass (f : Flags) (negated : Bool) (c : Class) : Option Class :=
  if negated && !f.unicode then none
  else some ⟨complementIf negated (f.fold c.set), c.depth + 1⟩

/-- Reads items until the outermost class is closed. Every turn reads a character, so a bound
above the length of the rest is never reached. -/
def classItems (f : Flags) (fuel : Nat) (stack : List ClassFrame) (items : List Class)
    (cs : List Char) : Option (Class × List Char) :=
  match fuel with
  | 0 => none
  | fuel + 1 => do
    let cs ← f.skip? cs
    let operation (op : SetOp) (rest : List Char) :=
      let (left, stack') := finishOperand f (unionOf items) stack
      classItems f fuel (.operand op left :: stack') [] rest
    match cs with
    | '[' :: rest =>
      match posixClass f rest with
      | some (some c, rest') => classItems f fuel stack (c :: items) rest'
      | some (none, _) => none
      | none =>
        let (negated, leading, rest') ← openClass f rest
        classItems f fuel (.opened items negated :: stack) leading rest'
    | ']' :: rest =>
      let (c, stack') := finishOperand f (unionOf items) stack
      match stack' with
      | .opened outer negated :: below =>
        let closed ← closeClass f negated c
        match below with
        | [] => some (closed, rest)
        | _ => classItems f fuel below (closed :: outer) rest
      | _ => none
    | '&' :: '&' :: rest => operation .inter rest
    | '-' :: '-' :: rest => operation .diff rest
    | '~' :: '~' :: rest => operation .symmDiff rest
    | _ =>
      let (c, rest) ← classRange f cs
      classItems f fuel stack (c :: items) rest

def bracketed (f : Flags) (cs : List Char) : Option (Class × List Char) := do
  let (negated, leading, rest) ← openClass f cs
  classItems f (rest.length + 1) [.opened [] negated] leading rest

end SchemaTypes.Pattern
