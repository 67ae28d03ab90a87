/-!
# Paths

A path is kept as it is written and compared by its components. Empty components and single dots
do not count, except that a path may start with a dot; two dots always count, since what they
lead to depends on the file tree.
-/

set_option autoImplicit false

namespace SchemaTypes.Path

inductive Component where
  | root
  | current
  | parent
  | name (text : String)
  deriving DecidableEq, Repr

def segments : List Char → List (List Char)
  | [] => [[]]
  | c :: cs =>
    match segments cs with
    | [] => [[]]
    | s :: rest => if c = '/' then [] :: s :: rest else (c :: s) :: rest

theorem segments_ne_nil (cs : List Char) : segments cs ≠ [] := by
  induction cs with
  | nil => simp [segments]
  | cons c cs ih =>
    cases h : segments cs with
    | nil => exact absurd h ih
    | cons s rest => by_cases hc : c = '/' <;> simp [segments, h, hc]

def ofSegment (s : List Char) : Option Component :=
  if s = [] ∨ s = ['.'] then none
  else if s = ['.', '.'] then some .parent
  else some (.name (.ofList s))

def start (cs : List Char) : List Component :=
  match cs, segments cs with
  | '/' :: _, _ => [.root]
  | _, ['.'] :: _ => [.current]
  | _, _ => []

def components (path : String) : List Component :=
  start path.toList ++ (segments path.toList).filterMap ofSegment

def isAbsolute (path : String) : Bool := path.toList.head? == some '/'

/-- A file below a directory; an absolute file stays where it is. -/
def join (dir file : String) : String :=
  if isAbsolute file || dir.isEmpty then file
  else if dir.toList.getLast? == some '/' then dir ++ file
  else dir ++ "/" ++ file

def fileName? (path : String) : Option String :=
  match (components path).getLast? with
  | some (.name text) => some text
  | _ => none

/-- What follows the last dot of the file name; a dot in front starts no extension. -/
def extension? (path : String) : Option String :=
  (fileName? path).bind fun name =>
    let reversed := name.toList.reverse
    let after := reversed.takeWhile (· != '.')
    let before := (reversed.dropWhile (· != '.')).drop 1
    if before.isEmpty then none else some (.ofList after.reverse)

def endsAsDirectory (path : String) : Bool :=
  match (segments path.toList).getLast? with
  | some s => s == [] || s == ['.'] || s == ['.', '.']
  | none => true

/-- Two paths are spelled the same up to empty components and dots. -/
def same (p q : String) : Bool := components p == components q

end SchemaTypes.Path
