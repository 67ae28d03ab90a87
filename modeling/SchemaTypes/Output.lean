import SchemaTypes.FileTree
import SchemaTypes.Failure
import SchemaTypes.Text.Search

/-!
# Output

Declarations are written to files below an output directory. Several may go to one file: with
`reWrite` on, a file is emptied the first time a writer writes it and extended after that;
otherwise every declaration extends what is there. A dry run prints instead and touches no file.
-/

set_option autoImplicit false

namespace SchemaTypes

structure World where
  tree : FileTree := {}
  printed : String := ""

def World.print (w : World) (text : String) : World := { w with printed := w.printed ++ text }

structure Writer where
  dir : String
  reWrite : Bool
  dryRun : Bool := false
  /-- paths written, the first spelling of each -/
  touched : List String := []

namespace Writer

def fileExtension : String := ".ts"

def outputPath (w : Writer) (file : String) : String :=
  Path.join w.dir (if Text.endsWith fileExtension file then file else file ++ fileExtension)

def hasTouched (w : Writer) (path : String) : Bool :=
  w.touched.any (Path.same path)

def touch (w : Writer) (path : String) : Writer :=
  if w.hasTouched path then w else { w with touched := path :: w.touched }

/-- A file is emptied when it is to be rewritten and has not been written yet. -/
def truncates (w : Writer) (path : String) : Bool :=
  w.reWrite && !w.hasTouched path

def dryText (path code : String) : String := "// " ++ path ++ "\n" ++ code ++ "\n"

/-- Writes a declaration. A failed write may leave new directories and nothing else. -/
def write (w : Writer) (world : World) (file code : String) :
    Writer × World × Except Failure String :=
  let path := w.outputPath file
  if w.dryRun then (w, world.print (dryText path code), .ok path)
  else
    match world.tree.write (Path.components path) (w.truncates path) code with
    | (tree, none) => (w.touch path, { world with tree := tree }, .ok path)
    | (tree, some _) => (w, { world with tree := tree }, .error (.fileWrite path))

end Writer

end SchemaTypes
