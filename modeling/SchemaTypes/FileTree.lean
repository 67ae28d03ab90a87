import SchemaTypes.Path

/-!
# File trees

A tree of directories and text files with a working directory, and the operations on it that
writing output needs: making missing directories, and writing a file with its old content
dropped or kept. Names are at most 255 bytes long and paths shorter than 4096; no name holds the
null character. A tree has no links, and everything in it may be read and written. An operation that
fails may have made directories before.
-/

set_option autoImplicit false

namespace SchemaTypes

open SchemaTypes.Path (Component)

/-- Names from a node up to the root of the tree. -/
abbrev Location := List String

inductive Node where
  | file (content : String)
  | directory
  deriving DecidableEq, Repr

inductive FileError where
  | notFound
  | notDirectory
  | isDirectory
  | alreadyExists
  | tooLong
  | invalidName
  deriving DecidableEq, Repr

structure FileTree where
  home : Location := []
  /-- every node but the root, each location at most once -/
  nodes : List (Location × Node) := []
  deriving Repr

namespace FileTree

def node? (t : FileTree) (l : Location) : Option Node :=
  if l = [] then some .directory else t.nodes.lookup l

def replaceNode (l : Location) (n : Node) : List (Location × Node) → List (Location × Node)
  | [] => [(l, n)]
  | (k, m) :: rest => if k = l then (l, n) :: rest else (k, m) :: replaceNode l n rest

def put (t : FileTree) (l : Location) (n : Node) : FileTree :=
  { t with nodes := replaceNode l n t.nodes }

theorem lookup_replace_self (l : Location) (n : Node) (nodes : List (Location × Node)) :
    (replaceNode l n nodes).lookup l = some n := by
  induction nodes with
  | nil => simp [replaceNode]
  | cons m rest ih =>
    obtain ⟨place, node⟩ := m
    by_cases h : place = l
    · simp [replaceNode, h]
    · have hb : (l == place) = false := by simpa using Ne.symm h
      simp [replaceNode, h, List.lookup_cons, hb, ih]

theorem lookup_replace_of_ne {k l : Location} (n : Node) (nodes : List (Location × Node))
    (hkl : k ≠ l) : (replaceNode l n nodes).lookup k = nodes.lookup k := by
  have hb : (k == l) = false := by simpa using hkl
  induction nodes with
  | nil => simp [replaceNode, List.lookup_cons, hb]
  | cons m rest ih =>
    obtain ⟨place, node⟩ := m
    by_cases h : place = l
    · simp [replaceNode, h, List.lookup_cons, hb]
    · simp [replaceNode, h, List.lookup_cons, ih]

theorem node_put_self (t : FileTree) {l : Location} (n : Node) (hl : l ≠ []) :
    (t.put l n).node? l = some n := by
  simp [node?, put, hl, lookup_replace_self]

theorem node_put_of_ne (t : FileTree) {k l : Location} (n : Node) (hkl : k ≠ l) :
    (t.put l n).node? k = t.node? k := by
  simp [node?, put, lookup_replace_of_ne n t.nodes hkl]

def maxNameBytes : Nat := 255

def maxPathBytes : Nat := 4096

def hasNull (c : Component) : Bool :=
  match c with
  | .name text => text.toList.contains '\x00'
  | _ => false

def componentBytes : Component → Nat
  | .name text => text.utf8ByteSize
  | .parent => 2
  | .current => 1
  | .root => 0

/-- The length of a path with one more byte for each component, be it a slash or the end. -/
def pathBytes : List Component → Nat
  | [] => 0
  | c :: rest => componentBytes c + 1 + pathBytes rest

def refused? (path : List Component) : Option FileError :=
  if path.any hasNull then some .invalidName
  else if maxPathBytes < pathBytes path then some .tooLong
  else none

def enter (t : FileTree) (l : Location) : Component → Except FileError Location
  | .root => .ok []
  | .current => .ok l
  | .parent => .ok l.tail
  | .name text =>
    if maxNameBytes < text.utf8ByteSize then .error .tooLong
    else match t.node? (text :: l) with
      | none => .error .notFound
      | some (.file _) => .error .notDirectory
      | some .directory => .ok (text :: l)

def directory (t : FileTree) (path : List Component) : Except FileError Location :=
  path.foldlM t.enter t.home

def isDirectory (t : FileTree) (path : List Component) : Bool :=
  match refused? path, t.directory path with
  | none, .ok _ => true
  | _, _ => false

/-- Makes one directory, whose parent must exist. Paths are given last component first. -/
def makeDirectory (t : FileTree) (path : List Component) : Except FileError FileTree :=
  match refused? path with
  | some e => .error e
  | none =>
    match path with
    | [] => .error .notFound
    | last :: above =>
      match t.directory above.reverse with
      | .error e => .error e
      | .ok l =>
        match last with
        | .name text =>
          if maxNameBytes < text.utf8ByteSize then .error .tooLong
          else match t.node? (text :: l) with
            | none => .ok (t.put (text :: l) .directory)
            | some _ => .error .alreadyExists
        | _ => .error .alreadyExists

/-- An attempt to make a directory that must at least exist afterwards. -/
def orExisting (t : FileTree) (path : List Component) (made : Except FileError FileTree) :
    FileTree × Option FileError :=
  match made with
  | .ok t' => (t', none)
  | .error e => if t.isDirectory path.reverse then (t, none) else (t, some e)

/-- Makes a directory and whatever is missing above it; last component first. -/
def makeDirectories (t : FileTree) : List Component → FileTree × Option FileError
  | [] => (t, none)
  | last :: above =>
    match t.makeDirectory (last :: above) with
    | .error .notFound =>
      match t.makeDirectories above with
      | (t', none) => t'.orExisting (last :: above) (t'.makeDirectory (last :: above))
      | failed => failed
    | made => t.orExisting (last :: above) made

/-- Where the file of a path is or would be. -/
def target (t : FileTree) (path : List Component) : Except FileError Location :=
  match refused? path, path.reverse with
  | some e, _ => .error e
  | none, .name text :: above =>
    match t.directory above.reverse with
    | .error e => .error e
    | .ok l => if maxNameBytes < text.utf8ByteSize then .error .tooLong else .ok (text :: l)
  | none, _ => .error .isDirectory

/-- New content of a file: the addition alone for a file that is new or emptied, and otherwise
after the old content, from which a line end parts it. -/
def joined (old addition : String) : String :=
  if old.isEmpty then addition else old ++ "\n" ++ addition

def contentAfter (truncate : Bool) (old : Option String) (addition : String) : String :=
  if truncate then addition else joined (old.getD "") addition

def writeFile (t : FileTree) (path : List Component) (truncate : Bool) (addition : String) :
    FileTree × Option FileError :=
  match t.target path with
  | .error e => (t, some e)
  | .ok l =>
    match t.node? l with
    | some .directory => (t, some .isDirectory)
    | some (.file old) => (t.put l (.file (contentAfter truncate (some old) addition)), none)
    | none => (t.put l (.file (contentAfter truncate none addition)), none)

def write (t : FileTree) (path : List Component) (truncate : Bool) (addition : String) :
    FileTree × Option FileError :=
  match t.makeDirectories path.reverse.tail with
  | (t', none) => t'.writeFile path truncate addition
  | failed => failed

def read? (t : FileTree) (path : String) : Option String :=
  if Path.endsAsDirectory path then none
  else match t.target (Path.components path) with
    | .error _ => none
    | .ok l =>
      match t.node? l with
      | some (.file content) => some content
      | _ => none

def placeDirectories (t : FileTree) : Location → FileTree
  | [] => t
  | name :: above =>
    let t' := t.placeDirectories above
    let l := name :: above ++ t.home
    if (t'.node? l).isNone then t'.put l .directory else t'

def place (t : FileTree) (path : String) (content : Option String) : FileTree :=
  let names := (Path.components path).filterMap fun c =>
    match c with
    | .name text => some text
    | _ => none
  let l := names.reverse
  match content with
  | some text => (t.placeDirectories l.tail).put (l ++ t.home) (.file text)
  | none => t.placeDirectories l

def below? (home l : Location) : Option (List String) :=
  if home.isSuffixOf l && l.length != home.length then
    some (l.take (l.length - home.length)).reverse
  else none

/-- Everything below the working directory: files with their text, and directories, whose paths
end in a slash. -/
def listing (t : FileTree) : List (String × Option String) :=
  t.nodes.filterMap fun (l, n) =>
    (below? t.home l).map fun names =>
      let path := "/".intercalate names
      match n with
      | .file content => (path, some content)
      | .directory => (path ++ "/", none)

end FileTree

end SchemaTypes
