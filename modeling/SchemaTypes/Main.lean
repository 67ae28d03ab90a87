import SchemaTypes.Command.Basic

/-!
# Running the command

Reads the configuration file that the arguments name, runs the command, and shows what comes of
it. No server can be reached from here, so a valid configuration ends in a connection error.
-/

set_option autoImplicit false

open SchemaTypes

def usage : String :=
  "Usage: sqlts-codegen [--config PATH] [--silent] [--dry-run] [generate | inspect]"

def configTree (args : List String) : IO FileTree := do
  match Command.request args with
  | .run i =>
    match i.path? with
    | none => return {}
    | some path =>
      try
        let text ← IO.FS.readFile path
        return FileTree.place {} path (some text)
      catch _ => return {}
  | _ => return {}

def main (args : List String) : IO UInt32 := do
  let tree ← configTree args
  let effect := Command.run args tree (fun _ => none)
  (← IO.getStdout).putStr effect.stdout
  if effect.showsUsage then
    if effect.exitCode = 0 then IO.println usage else IO.eprintln usage
  match effect.error with
  | some message => IO.eprintln ("[ERROR] " ++ message)
  | none => pure ()
  return UInt32.ofNat effect.exitCode
