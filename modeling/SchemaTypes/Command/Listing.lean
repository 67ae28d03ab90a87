import SchemaTypes.Run
import SchemaTypes.Text.Escaped

/-!
# What the command prints

One line for every table after a run, and a description of tables and columns for inspection.
-/

set_option autoImplicit false

namespace SchemaTypes.Command

def checkMark : String := "✓"

def crossMark : String := "✗"

def reportText (r : Report) : String :=
  String.join (r.written.map fun w =>
      "  " ++ checkMark ++ " " ++ w.1 ++ " -> " ++ w.2 ++ "\n")
    ++ String.join (r.errored.map fun t =>
      "  " ++ crossMark ++ " " ++ t ++ " (columns unavailable)\n")
    ++ String.join (r.failed.map fun t => "  " ++ crossMark ++ " " ++ t ++ " (write failed)\n")

def spaced (s : String) : String := if s.isEmpty then "" else " " ++ s

def columnText (c : Column) : String :=
  "    - " ++ c.field ++ " " ++ c.sqlType ++ " " ++ (if c.nullable then "NULL" else "NOT NULL")
    ++ spaced c.key ++ spaced (Text.toUpper c.extra) ++ "\n"

def omitText (patterns : List String) : String :=
  if patterns.isEmpty then "" else "  Omit: " ++ Text.escapedList patterns ++ "\n"

def tableText (t : Table) : String :=
  "Table: " ++ t.database ++ "." ++ t.name ++ " (" ++ t.kind.name ++ ")\n"
    ++ "  File: " ++ t.file ++ "\n"
    ++ (if t.unreadable then "  Columns unavailable\n"
        else "  Columns:\n" ++ String.join (t.columns.map columnText) ++ omitText t.omitPatterns)
    ++ "\n"

def inspectionText (tables : List Table) : String :=
  "Resolved " ++ toString tables.length ++ " tables:\n\n" ++ String.join (tables.map tableText)

end SchemaTypes.Command
