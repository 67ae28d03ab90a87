import SchemaTypes.Toml.Document
import SchemaTypes.Toml.Quoted
import SchemaTypes.Toml.Scalar

/-!
# Reading TOML

A document is a sequence of lines with headers and keys. Values may nest arrays and inline
tables, both over several lines, to a bounded depth. The document is given as a JSON object.
-/

set_option autoImplicit false

namespace SchemaTypes.Toml

def maxDepth : Nat := 80

def skipBlanks (cs : List Char) : List Char := cs.dropWhile isBlank

def comment (cs : List Char) : Option (List Char) :=
  match cs with
  | '#' :: rest =>
    match rest.dropWhile isPlain with
    | [] => some []
    | '\n' :: more => some ('\n' :: more)
    | '\r' :: '\n' :: more => some ('\n' :: more)
    | _ => none
  | _ => some cs

def endOfLine (cs : List Char) : Option (List Char) :=
  (comment (skipBlanks cs)).bind fun rest =>
    match rest with
    | [] => some []
    | '\n' :: more => some more
    | '\r' :: '\n' :: more => some more
    | _ => none

def skipLines (fuel : Nat) (cs : List Char) : Option (List Char) :=
  match fuel with
  | 0 => none
  | fuel + 1 =>
    match skipBlanks cs with
    | '\n' :: rest => skipLines fuel rest
    | '\r' :: '\n' :: rest => skipLines fuel rest
    | '#' :: rest => (comment ('#' :: rest)).bind (skipLines fuel)
    | rest => some rest

def skip (cs : List Char) : Option (List Char) := skipLines (cs.length + 1) cs

def isBare (c : Char) : Bool := c.isAlphanum || c = '_' || c = '-'

def keyPart (cs : List Char) : Option (String × List Char) :=
  match oneLine? cs with
  | some quoted => quoted.map (fun p => (.ofList p.1, p.2))
  | none =>
    let name := cs.takeWhile isBare
    if name.isEmpty then none else some (.ofList name, cs.dropWhile isBare)

def key (fuel : Nat) (cs : List Char) : Option (List String × List Char) :=
  match fuel with
  | 0 => none
  | fuel + 1 => do
    let (part, rest) ← keyPart cs
    match skipBlanks rest with
    | '.' :: more =>
      let (parts, rest') ← key fuel (skipBlanks more)
      return (part :: parts, rest')
    | rest' => return ([part], rest')

def keyOf (cs : List Char) : Option (List String × List Char) := key (cs.length + 1) cs

def endsScalar (c : Char) : Bool :=
  isBlankOrEnd c || c = ',' || c = ']' || c = '\x7d' || c = '#'

/-- A scalar outside quotes. A date may be parted from its time by one space. -/
def bareScalar (cs : List Char) : Option (Json × List Char) :=
  let run := cs.takeWhile (fun c => !endsScalar c)
  let rest := cs.drop run.length
  match rest with
  | ' ' :: d :: more =>
    if isDate run && d.isDigit then
      let run' := (d :: more).takeWhile (fun c => !endsScalar c)
      (scalar? (run ++ ' ' :: run')).map (fun v => (v, (d :: more).drop run'.length))
    else (scalar? run).map (fun v => (v, rest))
  | _ => (scalar? run).map (fun v => (v, rest))

mutual

def value (fuel depth : Nat) (cs : List Char) : Option (Json × List Char) :=
  match fuel with
  | 0 => none
  | fuel + 1 =>
    match cs with
    | '[' :: rest => if depth = 0 then none else items fuel (depth - 1) [] rest
    | '\x7b' :: rest => if depth = 0 then none else pairs fuel (depth - 1) [] rest
    | _ =>
      match string? cs with
      | some quoted => quoted.map (fun p => (.string (.ofList p.1), p.2))
      | none => bareScalar cs

/-- The rest of an array, with the items before it last first. -/
def items (fuel depth : Nat) (done : List Json) (cs : List Char) : Option (Json × List Char) :=
  match fuel with
  | 0 => none
  | fuel + 1 =>
    match skip cs with
    | none => none
    | some (']' :: rest) => some (.array done.reverse, rest)
    | some cs' =>
      match value fuel depth cs' with
      | none => none
      | some (v, rest) =>
        match skip rest with
        | some (',' :: rest') => items fuel depth (v :: done) rest'
        | some (']' :: rest') => some (.array (v :: done).reverse, rest')
        | _ => none

def pairs (fuel depth : Nat) (done : Entries) (cs : List Char) : Option (Json × List Char) :=
  match fuel with
  | 0 => none
  | fuel + 1 =>
    match skip cs with
    | none => none
    | some ('\x7d' :: rest) => some (.object (fieldsOf done), rest)
    | some cs' =>
      match keyOf cs' with
      | some (path, '=' :: rest) =>
        match value fuel depth (skipBlanks rest) with
        | none => none
        | some (v, rest') =>
          match done.define true path v, skip rest' with
          | some done', some (',' :: more) => pairs fuel depth done' more
          | some done', some ('\x7d' :: more) => some (.object (fieldsOf done'), more)
          | _, _ => none
      | _ => none

end

structure Section where
  entries : Entries := []
  header : List String := []

def headerLine (s : Section) (cs : List Char) : Option (Section × List Char) := do
  let (element, cs) := match cs with
    | '[' :: rest => (true, rest)
    | _ => (false, cs)
  let (path, rest) ← keyOf (skipBlanks cs)
  let rest ← expect ']' rest
  let rest ← if element then expect ']' rest else some rest
  let entries ← if element then s.entries.openElement path else s.entries.openTable path
  return (⟨entries, path⟩, rest)

def keyLine (s : Section) (cs : List Char) : Option (Section × List Char) := do
  let (path, rest) ← keyOf cs
  let rest ← expect '=' rest
  let (v, rest') ← value (rest.length + 1) maxDepth (skipBlanks rest)
  let entries ← s.entries.within s.header (Entries.define true path v)
  return ({ s with entries := entries }, rest')

def documentLines (fuel : Nat) (s : Section) (cs : List Char) : Option Section :=
  match fuel with
  | 0 => none
  | fuel + 1 =>
    match skipBlanks cs with
    | [] => some s
    | c :: rest =>
      if c = '\n' || c = '\r' || c = '#' then
        (endOfLine (c :: rest)).bind (documentLines fuel s)
      else
        let line := if c = '[' then headerLine s rest else keyLine s (c :: rest)
        line.bind fun (s', rest') => (endOfLine rest').bind (documentLines fuel s')

def withoutMark : List Char → List Char
  | c :: cs => if c.toNat = 0xFEFF then cs else c :: cs
  | [] => []

def parse? (text : String) : Option Json :=
  let cs := withoutMark text.toList
  (documentLines (cs.length + 1) {} cs).map (fun s => .object (fieldsOf s.entries))

end SchemaTypes.Toml
