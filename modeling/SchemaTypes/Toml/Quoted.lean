import SchemaTypes.Text.Digits

/-!
# Strings of TOML

Basic strings in double quotes know escapes, literal strings in single quotes do not. Three
quotes open a string of several lines, whose first line end does not count; in a basic one a
backslash at the end of a line drops the blanks up to the next text. A reading function takes
what follows the opening quotes and gives the text with the rest after the closing ones.
-/

set_option autoImplicit false

namespace SchemaTypes.Toml

def isBlank (c : Char) : Bool := c = ' ' || c = '\t'

def isPlain (c : Char) : Bool := c = '\t' || (0x20 ≤ c.toNat && c.toNat != 0x7F)

def codePoint (n : Nat) (cs : List Char) : Option (Char × List Char) :=
  let ds := cs.take n
  let v := Text.digitsValue 16 ds
  if ds.length = n && ds.all Text.isHexDigit
      && (v < 0xD800 || (0xDFFF < v && v < 0x110000)) then
    some (Char.ofNat v, cs.drop n)
  else none

def escape : List Char → Option (Char × List Char)
  | [] => none
  | c :: rest =>
    match c with
    | 'b' => some ('\x08', rest)
    | 't' => some ('\t', rest)
    | 'n' => some ('\n', rest)
    | 'f' => some ('\x0c', rest)
    | 'r' => some ('\r', rest)
    | 'e' => some ('\x1b', rest)
    | '"' => some ('"', rest)
    | '\\' => some ('\\', rest)
    | 'x' => codePoint 2 rest
    | 'u' => codePoint 4 rest
    | 'U' => codePoint 8 rest
    | _ => none

def consFirst (c : Char) (r : Option (List Char × List Char)) : Option (List Char × List Char) :=
  r.map (fun p => (c :: p.1, p.2))

def basic (fuel : Nat) (cs : List Char) : Option (List Char × List Char) :=
  match fuel, cs with
  | 0, _ => none
  | _, [] => none
  | fuel + 1, c :: rest =>
    if c = '"' then some ([], rest)
    else if c = '\\' then (escape rest).bind (fun (d, rest') => consFirst d (basic fuel rest'))
    else if isPlain c then consFirst c (basic fuel rest)
    else none

def literal (quote : Char) : List Char → Option (List Char × List Char)
  | [] => none
  | c :: rest =>
    if c = quote then some ([], rest)
    else if isPlain c then consFirst c (literal quote rest)
    else none

def restOfLine (cs : List Char) : Option (List Char) :=
  match cs.dropWhile isBlank with
  | '\n' :: rest => some rest
  | '\r' :: '\n' :: rest => some rest
  | _ => none

def isBlankOrEnd (c : Char) : Bool := isBlank c || c = '\n' || c = '\r'

/-- A run of quotes ends a string of several lines if it has three of them; up to two more before
these belong to the text. -/
def closing (quote : Char) (cs : List Char) : Option (List Char × List Char) :=
  let run := cs.takeWhile (· == quote)
  if run.length < 3 then none
  else some (List.replicate (min (run.length - 3) 2) quote, cs.drop (min run.length 5))

/-- A string of several lines; `escapes` tells a basic one. -/
def lines (escapes : Bool) (quote : Char) (fuel : Nat) (cs : List Char) :
    Option (List Char × List Char) :=
  match fuel, cs with
  | 0, _ => none
  | _, [] => none
  | fuel + 1, c :: rest =>
    if c = quote then
      match closing quote (c :: rest) with
      | some ended => some ended
      | none => consFirst c (lines escapes quote fuel rest)
    else if escapes && c = '\\' then
      match restOfLine rest with
      | some next => lines escapes quote fuel (next.dropWhile isBlankOrEnd)
      | none => (escape rest).bind (fun (d, rest') => consFirst d (lines escapes quote fuel rest'))
    else if c = '\r' then
      if rest.head? = some '\n' then consFirst c (lines escapes quote fuel rest) else none
    else if isPlain c || c = '\n' then consFirst c (lines escapes quote fuel rest)
    else none

/-- The line end right after three opening quotes does not count. -/
def withoutFirstLineEnd : List Char → List Char
  | '\n' :: rest => rest
  | '\r' :: '\n' :: rest => rest
  | cs => cs

def singleQuote : Char := Char.ofNat 0x27

def oneLine? : List Char → Option (Option (List Char × List Char))
  | [] => none
  | c :: rest =>
    if c = '"' then some (basic (rest.length + 1) rest)
    else if c = singleQuote then some (literal singleQuote rest)
    else none

/-- A string of any of the four forms, or nothing where no quote stands. -/
def string? (cs : List Char) : Option (Option (List Char × List Char)) :=
  match cs with
  | a :: b :: c :: rest =>
    if a = b && b = c && (a = '"' || a = singleQuote) then
      some (lines (a = '"') a (rest.length + 1) (withoutFirstLineEnd rest))
    else oneLine? cs
  | _ => oneLine? cs

end SchemaTypes.Toml
