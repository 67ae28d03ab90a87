import SchemaTypes.Config.Fault
import SchemaTypes.Declaration.Property
import SchemaTypes.Declaration.Statement
import SchemaTypes.Pattern.Engine

/-!
# Declarations

The TypeScript declaration of a table: an interface, a type or a class with one property for
every column that no pattern leaves out and whose type is known. A class may also have the SQL
statements of the table and a constructor that copies the members of its argument whose values
have the right type.
-/

set_option autoImplicit false

namespace SchemaTypes

structure Declaration where
  kind : OutputKind
  name : String
  properties : List Property
  statements : Option (List Statement)
  hasConstructor : Bool
  deriving DecidableEq, Repr

def capitalized (name : String) : String := .ofList (Case.capitalize name.toList)

/-- The name of a table's declaration starts with a capital whatever the naming convention. -/
def Config.declarationName (c : Config) (t : Table) : String :=
  let base := if c.renameTableToCase then c.case.convertUp t.name else t.name
  capitalized (base ++ c.case.convertUp t.suffix)

namespace Declaration

def opening (kind : OutputKind) (name : String) : String :=
  match kind with
  | .interface => "export interface " ++ name ++ " \x7b\n"
  | .typeAlias => "export type " ++ name ++ " = \x7b\n"
  | .classDecl => "export class " ++ name ++ " \x7b\n"

def closing : OutputKind → String
  | .typeAlias => "\x7d;\n"
  | _ => "\x7d\n"

def spaces (n : Nat) : String := .ofList (List.replicate n ' ')

def indented (tabSize level : Nat) (line : String) : String :=
  spaces (tabSize * level) ++ line ++ "\n"

def typeEntry (p : Property) : String :=
  Text.quoteLiteral p.name ++ ": " ++ Text.quoteLiteral p.type.typeof

def typeTable (properties : List Property) : String :=
  if properties.isEmpty then "\x7b\x7d"
  else "\x7b " ++ ", ".intercalate (properties.map typeEntry) ++ " \x7d"

/-- The lines of the copying constructor with their levels of indentation. -/
def constructorLines (name : String) (properties : List Property) : List (Nat × String) :=
  [ (1, "constructor(input?: Partial<" ++ name ++ ">) \x7b"),
    (2, "if (input) \x7b"),
    (3, "const types: Record<string, string> = " ++ typeTable properties ++ ";"),
    (3, "for (const key of Object.keys(input)) \x7b"),
    (4, "// @ts-ignore"),
    (4, "if (typeof input[key] === types[key]) \x7b"),
    (5, "// @ts-ignore"),
    (5, "this[key] = input[key];"),
    (4, "\x7d"),
    (3, "\x7d"),
    (2, "\x7d"),
    (1, "\x7d") ]

def propertyText (tabSize : Nat) (d : Declaration) : String :=
  String.join (d.properties.map (fun p => indented tabSize 1 p.line))

def statementText (tabSize : Nat) (d : Declaration) : String :=
  match d.statements with
  | none => ""
  | some statements => "\n" ++ String.join (statements.map (fun s => indented tabSize 1 s.line))

def constructorText (tabSize : Nat) (d : Declaration) : String :=
  if d.hasConstructor then
    "\n" ++ String.join
      ((constructorLines d.name d.properties).map (fun l => indented tabSize l.1 l.2))
  else ""

def text (tabSize : Nat) (d : Declaration) : String :=
  opening d.kind d.name ++ propertyText tabSize d ++ statementText tabSize d
    ++ constructorText tabSize d ++ closing d.kind

end Declaration

namespace Table

/-- The patterns of the columns to leave out, if all of them are well formed. -/
def omitted? [PatternEngine] (t : Table) : Option (List Matcher) :=
  t.omitPatterns.mapM PatternEngine.parse?

def shown (c : Config) (omitted : List Matcher) (columns : List Column) :
    List (Column × Property) :=
  columns.filterMap fun column =>
    if omitted.any (fun p => p.matchesText column.field) then none
    else (c.property? column).map (fun p => (column, p))

def declarationOf (t : Table) (c : Config) (omitted : List Matcher) : Declaration :=
  let members := shown c omitted t.columns
  { kind := t.kind
    name := c.declarationName t
    properties := members.map (·.2)
    statements :=
      if t.hasStatements then some (Statement.ofColumns t.name t.columns (members.map (·.1)))
      else none
    hasConstructor := t.hasConstructor }

def declaration [PatternEngine] (t : Table) (c : Config) : Except ConfigFault Declaration :=
  match t.omitted? with
  | some omitted => .ok (t.declarationOf c omitted)
  | none => .error (.omitPatterns t.name)

def render [PatternEngine] (t : Table) (c : Config) : Except ConfigFault String :=
  (t.declaration c).map (Declaration.text c.tabSize)

end Table

end SchemaTypes
