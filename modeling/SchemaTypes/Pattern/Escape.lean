import SchemaTypes.Pattern.Basic

/-!
# Flags and escapes of patterns

What a backslash and the characters after it stand for, under the flags in force. A reading
function takes the rest of a pattern and gives what it has read with the rest after it, or
nothing where the pattern is not well formed.
-/

set_option autoImplicit false

namespace SchemaTypes.Pattern

structure Flags where
  caseless : Bool := false
  multiLine : Bool := false
  dotAll : Bool := false
  anyLine : Bool := false
  unicode : Bool := true
  extended : Bool := false
  deriving DecidableEq, Repr

def isBlank (c : Char) : Bool := Unicode.whiteSpace.contains c.toNat

def skipExtended (inComment : Bool) : List Char → List Char
  | [] => []
  | c :: cs =>
    if inComment then skipExtended (c != '\n') cs
    else if c = '#' then skipExtended true cs
    else if isBlank c then skipExtended false cs
    else c :: cs

def Flags.skip (f : Flags) (cs : List Char) : List Char :=
  if f.extended then skipExtended false cs else cs

def Flags.skip? (f : Flags) (cs : List Char) : Option (List Char) :=
  match f.skip cs with
  | [] => none
  | rest => some rest

def Flags.fold (f : Flags) (s : CharSet) : CharSet :=
  if f.caseless then (if f.unicode then .caseless s else .asciiCaseless s) else s

inductive Unit where
  /-- `byte` marks a character written as a two digit hexadecimal escape -/
  | literal (c : Char) (byte : Bool)
  | dot
  | assertion (a : Assertion)
  | set (s : CharSet)

def isMeta (c : Char) : Bool :=
  ['\\', '.', '+', '*', '?', '(', ')', '|', '[', ']', '\x7b', '\x7d', '^', '$', '#', '&', '-',
    '~'].contains c

/-- ASCII characters that a backslash leaves as they are: all but letters, digits and the angle
brackets. -/
def isEscapeable (c : Char) : Bool :=
  isMeta c || (c.toNat < 0x80 && !c.isAlphanum && c != '<' && c != '>')

def validChar? (n : Nat) : Option Char :=
  if n < 0xD800 || (0xDFFF < n && n < 0x110000) then some (Char.ofNat n) else none

def hexDigits (f : Flags) : Nat → List Char → Option (List Char × List Char)
  | 0, cs => some ([], cs)
  | n + 1, cs =>
    match f.skip cs with
    | c :: rest =>
      if Text.isHexDigit c then (hexDigits f n rest).map (fun r => (c :: r.1, r.2)) else none
    | [] => none

def untilBrace (f : Flags) (fuel : Nat) (cs : List Char) : Option (List Char × List Char) :=
  match fuel with
  | 0 => none
  | fuel + 1 =>
    match f.skip cs with
    | [] => none
    | c :: rest =>
      if c = '\x7d' then some ([], rest)
      else (untilBrace f fuel rest).map (fun r => (c :: r.1, r.2))

def braced (f : Flags) (cs : List Char) : Option (List Char × List Char) :=
  untilBrace f (cs.length + 1) cs

/-- The digits of a hexadecimal escape: two, four or eight by its letter, or any number in
braces. -/
def hexEscape (f : Flags) (letter : Char) (cs : List Char) : Option (Unit × List Char) :=
  match f.skip cs with
  | [] => none
  | c :: rest =>
    if c = '\x7b' then
      match braced f rest with
      | some (ds, rest') =>
        if ds.isEmpty || !ds.all Text.isHexDigit then none
        else (validChar? (Text.digitsValue 16 ds)).map (fun d => (.literal d false, f.skip rest'))
      | none => none
    else
      let count := if letter = 'x' then 2 else if letter = 'u' then 4 else 8
      (hexDigits f count (c :: rest)).bind fun (ds, rest') =>
        (validChar? (Text.digitsValue 16 ds)).map fun d =>
          (.literal d (letter = 'x'), f.skip rest')

def splitAt? (separator : List Char) : List Char → Option (List Char × List Char)
  | [] => none
  | c :: cs =>
    if separator.isPrefixOf (c :: cs) then some ([], (c :: cs).drop separator.length)
    else (splitAt? separator cs).map (fun r => (c :: r.1, r.2))

/-- The set that a name or a name with a value in braces asks for. The three signs between name
and value mean the same. -/
def selection? (name : List Char) : Option Unicode.Selection :=
  match splitAt? ['!', '='] name <|> splitAt? [':'] name <|> splitAt? ['='] name with
  | some (property, value) => Unicode.valued? (.ofList property) (.ofList value)
  | none => Unicode.named? (.ofList name)

def complementIf (negated : Bool) (s : CharSet) : CharSet :=
  if negated then .compl s else s

def propertyEscape (f : Flags) (negated : Bool) (cs : List Char) :
    Option (Unit × List Char) := do
  guard f.unicode
  match f.skip cs with
  | [] => none
  | '\\' :: _ => none
  | c :: rest =>
    let (name, rest') ← if c = '\x7b' then braced f rest else some ([c], f.skip rest)
    let s ← selection? name
    some (.set (complementIf negated (f.fold (.ofSelection s))), rest')

def classEscape (f : Flags) (letter : Char) (rest : List Char) : Option (Unit × List Char) :=
  let negated := letter.isUpper
  let s := match letter.toLower with
    | 'd' => if f.unicode then CharSet.digits else .asciiDigits
    | 's' => if f.unicode then CharSet.blanks else .asciiBlanks
    | _ => if f.unicode then CharSet.word else .asciiWord
  if negated && !f.unicode then none else some (.set (complementIf negated s), rest)

def boundaryName (c : Char) : Bool := c.isAlpha || c = '-'

def boundary? (unicode : Bool) (name : List Char) : Option Assertion :=
  if name = "start".toList then some (.wordStart unicode)
  else if name = "end".toList then some (.wordEnd unicode)
  else if name = "start-half".toList then some (.wordStartHalf unicode)
  else if name = "end-half".toList then some (.wordEndHalf unicode)
  else none

/-- A word boundary, which may be followed by its kind in braces. Braces that do not start with
the letters of a name are left for a repetition. -/
def boundaryEscape (f : Flags) (rest : List Char) : Option (Unit × List Char) :=
  match rest with
  | '\x7b' :: inner =>
    match f.skip inner with
    | [] => none
    | c :: _ =>
      if !boundaryName c then some (.assertion (.wordBoundary f.unicode), rest)
      else
        (braced f inner).bind fun (name, rest') =>
          (boundary? f.unicode name).map (fun a => (.assertion a, rest'))
  | _ => some (.assertion (.wordBoundary f.unicode), rest)

def escape (f : Flags) : List Char → Option (Unit × List Char)
  | [] => none
  | c :: rest =>
    let literal (d : Char) := some (Unit.literal d false, rest)
    let assertion (a : Assertion) := some (Unit.assertion a, rest)
    if c.isDigit then none
    else if c = 'x' || c = 'u' || c = 'U' then hexEscape f c rest
    else if c = 'p' || c = 'P' then propertyEscape f (c = 'P') rest
    else if ['d', 's', 'w', 'D', 'S', 'W'].contains c then classEscape f c rest
    else if isEscapeable c then literal c
    else match c with
      | 'a' => literal '\x07'
      | 'f' => literal '\x0c'
      | 't' => literal '\t'
      | 'n' => literal '\n'
      | 'r' => literal '\r'
      | 'v' => literal '\x0b'
      | 'A' => assertion .textStart
      | 'z' => assertion .textEnd
      | 'b' => boundaryEscape f rest
      | 'B' => assertion (.notWordBoundary f.unicode)
      | '<' => assertion (.wordStart f.unicode)
      | '>' => assertion (.wordEnd f.unicode)
      | _ => none

end SchemaTypes.Pattern
