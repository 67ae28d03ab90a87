/-!
# Command line arguments

The command takes a configuration path, two flags and the name of an action. An option may be
given once. Short options may be written together, and a value may follow its option directly,
behind an equals sign or as the next argument, where it must not look like an option.
-/

set_option autoImplicit false

namespace SchemaTypes.Command

inductive Action where
  | generate
  | inspect
  deriving DecidableEq, Repr

structure Invocation where
  config : Option String := none
  silent : Bool := false
  dryRun : Bool := false
  action : Action := .generate
  deriving DecidableEq, Repr

inductive Request where
  | run (invocation : Invocation)
  | help
  | version
  | misuse
  deriving DecidableEq, Repr

def looksLikeOption (arg : String) : Bool :=
  match arg.toList with
  | '-' :: _ :: _ => true
  | _ => false

/-- A path is taken once and must not be empty. -/
def Invocation.withConfig? (i : Invocation) (path : String) : Option Invocation :=
  if i.config.isSome || path.isEmpty then none else some { i with config := some path }

def Invocation.withSilent? (i : Invocation) : Option Invocation :=
  if i.silent then none else some { i with silent := true }

def Invocation.withDryRun? (i : Invocation) : Option Invocation :=
  if i.dryRun then none else some { i with dryRun := true }

/-- What one argument means for those after it. -/
inductive Step where
  | go (i : Invocation)
  | needsPath
  | stop (r : Request)

def Step.ofOption (i : Option Invocation) : Step :=
  match i with
  | some i => .go i
  | none => .stop .misuse

def shortOptions (i : Invocation) : List Char → Step
  | [] => .go i
  | c :: rest =>
    match c with
    | 'h' => .stop .help
    | 'V' => .stop .version
    | 's' =>
      match i.withSilent? with
      | some i' => shortOptions i' rest
      | none => .stop .misuse
    | 'c' =>
      match rest with
      | [] => .needsPath
      | '=' :: path => Step.ofOption (i.withConfig? (.ofList path))
      | path => Step.ofOption (i.withConfig? (.ofList path))
    | _ => .stop .misuse

def longOption (i : Invocation) (name : String) (value : Option String) : Step :=
  match name, value with
  | "config", none => .needsPath
  | "config", some path => Step.ofOption (i.withConfig? path)
  | "silent", none => Step.ofOption i.withSilent?
  | "dry-run", none => Step.ofOption i.withDryRun?
  | "help", none => .stop .help
  | "version", none => .stop .version
  | _, _ => .stop .misuse

def splitValue (cs : List Char) : String × Option String :=
  match cs.dropWhile (· != '=') with
  | [] => (.ofList cs, none)
  | _ :: value => (.ofList (cs.takeWhile (· != '=')), some (.ofList value))

def option (i : Invocation) (arg : String) : Step :=
  match arg.toList with
  | '-' :: '-' :: cs => longOption i (splitValue cs).1 (splitValue cs).2
  | '-' :: cs => shortOptions i cs
  | _ => .stop .misuse

def actionArguments (i : Invocation) : List String → Request
  | [] => .run i
  | "--" :: [] => .run i
  | "--help" :: _ => .help
  | arg :: _ =>
    match arg.toList with
    | '-' :: 'h' :: _ => .help
    | _ => .misuse

def action? (name : String) : Option Action :=
  if name = "generate" then some .generate
  else if name = "inspect" then some .inspect
  else none

def helpArguments : List String → Request
  | [] => .help
  | [name] => if name = "help" || (action? name).isSome then .help else .misuse
  | "help" :: [name] => if (action? name).isSome then .help else .misuse
  | _ => .misuse

def arguments (i : Invocation) (expectsPath : Bool) : List String → Request
  | [] => if expectsPath then .misuse else .run i
  | arg :: rest =>
    if expectsPath then
      if looksLikeOption arg then .misuse
      else match i.withConfig? arg with
        | some i' => arguments i' false rest
        | none => .misuse
    else if arg = "--" then (if rest.isEmpty then .run i else .misuse)
    else if arg = "help" then helpArguments rest
    else match action? arg with
      | some a => actionArguments { i with action := a } rest
      | none =>
        if looksLikeOption arg then
          match option i arg with
          | .go i' => arguments i' false rest
          | .needsPath => arguments i true rest
          | .stop r => r
        else .misuse

def request (args : List String) : Request := arguments {} false args

end SchemaTypes.Command
