import SchemaTypes.Column

/-!
# Tables

A table descriptor says which table of which database is declared, in what form, under what name
and in which file. Its columns are filled in when they have been fetched.
-/

set_option autoImplicit false

namespace SchemaTypes

inductive OutputKind where
  | interface
  | classDecl
  | typeAlias
  deriving DecidableEq, Repr, Inhabited

namespace OutputKind

def all : List OutputKind := [.interface, .classDecl, .typeAlias]

def name : OutputKind → String
  | .interface => "interface"
  | .classDecl => "class"
  | .typeAlias => "type"

def ofName? (text : String) : Option OutputKind :=
  all.find? (fun k => k.name == text)

theorem of_name_name (k : OutputKind) : ofName? k.name = some k := by
  cases k <;> decide

end OutputKind

structure Table where
  name : String
  kind : OutputKind
  database : String
  suffix : String
  /-- stands between the table's name and the suffix in file names -/
  connector : String
  /-- relative to the output directory; the extension may be missing -/
  file : String
  omitPatterns : List String
  withConstructor : Bool
  withStatements : Bool
  unreadable : Bool := false
  columns : List Column := []
  deriving DecidableEq, Repr

namespace Table

def hasConstructor (t : Table) : Bool := t.kind == .classDecl && t.withConstructor

def hasStatements (t : Table) : Bool := t.kind == .classDecl && t.withStatements

end Table

end SchemaTypes
