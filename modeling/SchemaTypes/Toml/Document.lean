import SchemaTypes.Json.Value

/-!
# Documents of TOML

What a document has defined so far. A table may be defined once, by a header or by the keys in
it, and what is defined by a value is closed. A header may still open a table that other headers
have only passed through, and dotted keys may only extend tables that dotted keys have made.
-/

set_option autoImplicit false

namespace SchemaTypes.Toml

/-- How a table has come about. -/
inductive Origin where
  /-- a header has passed through it -/
  | passed
  | dotted
  | header
  deriving DecidableEq, Repr

inductive Item where
  | value (v : Json)
  | table (origin : Origin) (entries : List (String × Item))
  | tables (elements : List (List (String × Item)))

abbrev Entries := List (String × Item)

namespace Entries

def put (name : String) (item : Item) : Entries → Entries
  | [] => [(name, item)]
  | (k, i) :: rest => if k = name then (k, item) :: rest else (k, i) :: put name item rest

def into (name : String) (item : Item) (change : Entries → Option Entries) (es : Entries) :
    Option Entries :=
  match item with
  | .value _ => none
  | .table origin inner => (change inner).map (fun inner' => put name (.table origin inner') es)
  | .tables [] => none
  | .tables (last :: earlier) =>
    (change last).map (fun last' => put name (.tables (last' :: earlier)) es)

/-- Whether a path leads on into an item: dotted keys may not enter a table with a header. -/
def entersDotted : Item → Bool
  | .table .header _ => false
  | _ => true

def isDotted : Item → Bool
  | .table .dotted _ => true
  | _ => false

/-- Defines a key. Behind dots it must lie in a table that dotted keys have made, as `isOpen` tells
of the entries at hand. -/
def define (isOpen : Bool) (path : List String) (v : Json) (es : Entries) : Option Entries :=
  match path with
  | [] => none
  | [name] => if isOpen && (es.lookup name).isNone then some (put name (.value v) es) else none
  | name :: rest =>
    match es.lookup name with
    | none => (define true rest v []).map (fun inner => put name (.table .dotted inner) es)
    | some item =>
      if entersDotted item then into name item (define (isDotted item) rest v) es else none

def openTable (path : List String) (es : Entries) : Option Entries :=
  match path with
  | [] => none
  | [name] =>
    match es.lookup name with
    | none => some (put name (.table .header []) es)
    | some (.table .passed inner) => some (put name (.table .header inner) es)
    | some _ => none
  | name :: rest =>
    match es.lookup name with
    | none => (openTable rest []).map (fun inner => put name (.table .passed inner) es)
    | some item => into name item (openTable rest) es

def openElement (path : List String) (es : Entries) : Option Entries :=
  match path with
  | [] => none
  | [name] =>
    match es.lookup name with
    | none => some (put name (.tables [[]]) es)
    | some (.tables elements) => some (put name (.tables ([] :: elements)) es)
    | some _ => none
  | name :: rest =>
    match es.lookup name with
    | none => (openElement rest []).map (fun inner => put name (.table .passed inner) es)
    | some item => into name item (openElement rest) es

def within (path : List String) (change : Entries → Option Entries) (es : Entries) :
    Option Entries :=
  match path with
  | [] => change es
  | name :: rest => (es.lookup name).bind (fun item => into name item (within rest change) es)

end Entries

mutual

def Item.json : Item → Json
  | .value v => v
  | .table _ entries => .object (fieldsOf entries)
  | .tables elements => .array (objectsOf [] elements)

def fieldsOf : List (String × Item) → List (String × Json)
  | [] => []
  | (k, i) :: rest => (k, i.json) :: fieldsOf rest

/-- Objects in the order of their definition, before those already given. -/
def objectsOf (later : List Json) : List (List (String × Item)) → List Json
  | [] => later
  | e :: earlier => objectsOf (.object (fieldsOf e) :: later) earlier

end

end SchemaTypes.Toml
