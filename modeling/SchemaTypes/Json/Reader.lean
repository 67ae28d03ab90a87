import SchemaTypes.Json.Token

/-!
# Reading JSON

A document is read token by token with a stack of the containers that are still open, so nesting
is bounded by the length of that stack. A text is one value with nothing but blanks around it.
-/

set_option autoImplicit false

namespace SchemaTypes.Json

inductive Frame where
  | array (items : List Json)
  | object (fields : Fields) (name : String)

inductive Expecting where
  | value
  | valueOrEnd
  | name
  | nameOrEnd
  | colon
  | next
  | nothing (document : Json)

structure Reader where
  expecting : Expecting := .value
  /-- innermost first -/
  stack : List Frame := []

namespace Reader

/-- A value is complete: it goes into the innermost container or is the document. -/
def complete (value : Json) : List Frame → Reader
  | [] => ⟨.nothing value, []⟩
  | .array items :: rest => ⟨.next, .array (value :: items) :: rest⟩
  | .object fields name :: rest => ⟨.next, .object (fields.put name value) name :: rest⟩

def close (token : Token) : List Frame → Option Reader
  | .array items :: rest =>
    match token with
    | .closeArray => some (complete (.array items.reverse) rest)
    | _ => none
  | .object fields _ :: rest =>
    match token with
    | .closeObject => some (complete (.object fields) rest)
    | _ => none
  | [] => none

def value (limit : Nat) (token : Token) (stack : List Frame) : Option Reader :=
  match token with
  | .scalar v => some (complete v stack)
  | .string s => some (complete (.string s) stack)
  | .openArray =>
    if stack.length < limit then some ⟨.valueOrEnd, .array [] :: stack⟩ else none
  | .openObject =>
    if stack.length < limit then some ⟨.nameOrEnd, .object [] "" :: stack⟩ else none
  | _ => none

def name (token : Token) : List Frame → Option Reader
  | .object fields _ :: rest =>
    match token with
    | .string s => some ⟨.colon, .object fields s :: rest⟩
    | _ => none
  | _ => none

def separator (token : Token) (stack : List Frame) : Option Reader :=
  match token, stack with
  | .comma, .array _ :: _ => some ⟨.value, stack⟩
  | .comma, .object _ _ :: _ => some ⟨.name, stack⟩
  | _, _ => close token stack

/-- One token further; at most `limit` containers are open at a time. -/
def step (limit : Nat) (r : Reader) (token : Token) : Option Reader :=
  match r.expecting with
  | .value => value limit token r.stack
  | .valueOrEnd =>
    match token with
    | .closeArray => close token r.stack
    | _ => value limit token r.stack
  | .name => name token r.stack
  | .nameOrEnd =>
    match token with
    | .closeObject => close token r.stack
    | _ => name token r.stack
  | .colon =>
    match token with
    | .colon => some ⟨.value, r.stack⟩
    | _ => none
  | .next => separator token r.stack
  | .nothing _ => none

def document? (r : Reader) : Option Json :=
  match r.expecting with
  | .nothing v => some v
  | _ => none

end Reader

def ofTokens? (limit : Nat) (tokens : List Token) : Option Json :=
  (tokens.foldlM (Reader.step limit) {}).bind Reader.document?

def parse? (limit : Nat) (text : String) : Option Json :=
  (tokens? text.toList).bind (ofTokens? limit)

end SchemaTypes.Json
