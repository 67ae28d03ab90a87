import SchemaTypes.Json.Value
import SchemaTypes.Text.Digits

/-!
# JSON tokens

The tokenizer is a machine that eats one character at a time. Its state holds the token that is
still open: a string, an escape in it, or a run of characters that will be a number or one of
the words `true`, `false` and `null`. Blanks separate tokens and are dropped.
-/

set_option autoImplicit false

namespace SchemaTypes.Json
open Text

inductive Token where
  | openArray
  | closeArray
  | openObject
  | closeObject
  | colon
  | comma
  | scalar (value : Json)
  | string (text : String)
  deriving Inhabited

def isBlank (c : Char) : Bool :=
  c == ' ' || c == '\t' || c == '\n' || c == '\r'

def signed? : List Char → Option Int
  | '-' :: ds =>
    if ds.isEmpty || !ds.all Char.isDigit then none else some (-(digitsValue 10 ds : Int))
  | '+' :: ds => if ds.isEmpty || !ds.all Char.isDigit then none else some (digitsValue 10 ds)
  | ds => if ds.isEmpty || !ds.all Char.isDigit then none else some (digitsValue 10 ds)

/-- The parts of a number after its sign: integer digits, fraction digits and exponent, where
`none` stands for a part that is not written. -/
structure NumberParts where
  whole : List Char
  fraction : Option (List Char)
  exponent : Option Int

def splitExponent (cs : List Char) : Option (List Char × Option Int) :=
  match cs.span (fun c => c != 'e' && c != 'E') with
  | (mantissa, []) => some (mantissa, none)
  | (mantissa, _ :: rest) => (signed? rest).map (fun e => (mantissa, some e))

def splitFraction (cs : List Char) : List Char × Option (List Char) :=
  match cs.span (· != '.') with
  | (whole, []) => (whole, none)
  | (whole, _ :: rest) => (whole, some rest)

def NumberParts.wellFormed (p : NumberParts) : Bool :=
  !p.whole.isEmpty && p.whole.all Char.isDigit
    && (p.whole.length == 1 || p.whole.head? != some '0')
    && (match p.fraction with
        | none => true
        | some ds => !ds.isEmpty && ds.all Char.isDigit)

def numberParts? (cs : List Char) : Option NumberParts :=
  (splitExponent cs).bind fun me =>
    let wf := splitFraction me.1
    let p : NumberParts := ⟨wf.1, wf.2, me.2⟩
    if p.wellFormed then some p else none

/-- A binary double precision number reaches up to this power of two, less half a unit in its
last place. -/
def doubleLimit : Nat := Nat.pow 2 1024 - Nat.pow 2 970

/-- Whether `digits · 10 ^ exponent` is too large for double precision. The number of digits
decides all cases but those near the limit, which has 309 digits. -/
def overflows (digits : Nat) (exponent : Int) : Bool :=
  let size := (Nat.toDigits 10 digits).length + exponent
  if digits = 0 then false
  else if 310 < size then true
  else if size < 309 then false
  else if 0 ≤ exponent then doubleLimit ≤ digits * Nat.pow 10 exponent.toNat
  else doubleLimit * Nat.pow 10 (-exponent).toNat ≤ digits

/-- An integer has neither fraction nor exponent, fits in 64 bits (signed when negative), and is
no negative zero. -/
def NumberParts.number? (negative : Bool) (p : NumberParts) : Option Number :=
  let whole := digitsValue 10 p.whole
  let plain := p.fraction.isNone && p.exponent.isNone
  if plain && !negative && whole < unsignedBound then some (.integer whole)
  else if plain && negative && 0 < whole && whole ≤ signedBound then
    some (.integer (-(whole : Int)))
  else
    let fraction := p.fraction.getD []
    let digits := digitsValue 10 (p.whole ++ fraction)
    let exponent := p.exponent.getD 0 - fraction.length
    if overflows digits exponent then none
    else some (.decimal (if negative then -(digits : Int) else digits) exponent)

def number? : List Char → Option Number
  | '-' :: cs => (numberParts? cs).bind (NumberParts.number? true)
  | cs => (numberParts? cs).bind (NumberParts.number? false)

def scalar? (cs : List Char) : Option Json :=
  if cs = "true".toList then some (.bool true)
  else if cs = "false".toList then some (.bool false)
  else if cs = "null".toList then some .null
  else (number? cs).map .number

/-- What the tokenizer is inside of. Texts are kept with their last character first. -/
inductive Open where
  | nothing
  | run (text : List Char)
  | string (text : List Char)
  | escape (text : List Char)
  /-- `left` digits of a `\u` escape are still to come; `high` is a first surrogate -/
  | unicode (text : List Char) (left code : Nat) (high : Option Nat)
  | halfway (text : List Char) (high : Nat) (backslash : Bool)

structure Tokenizer where
  tokens : List Token := []
  inside : Open := .nothing

namespace Tokenizer

def emit (t : Tokenizer) (token : Token) : Tokenizer :=
  ⟨token :: t.tokens, .nothing⟩

def close (t : Tokenizer) : Option Tokenizer :=
  match t.inside with
  | .nothing => some t
  | .run text => (scalar? text.reverse).map (fun v => t.emit (.scalar v))
  | _ => none

def simpleEscape? : Char → Option Char
  | '"' => some '"'
  | '\\' => some '\\'
  | '/' => some '/'
  | 'b' => some '\x08'
  | 'f' => some '\x0c'
  | 'n' => some '\n'
  | 'r' => some '\r'
  | 't' => some '\t'
  | _ => none

/-- A code point written by one or two `\u` escapes is complete, or the first half of one. -/
def finishUnicode (text : List Char) (code : Nat) (high : Option Nat) : Option Open :=
  match high with
  | none =>
    if 0xD800 ≤ code && code ≤ 0xDBFF then some (.halfway text code false)
    else if 0xDC00 ≤ code && code ≤ 0xDFFF then none
    else some (.string (Char.ofNat code :: text))
  | some h =>
    if 0xDC00 ≤ code && code ≤ 0xDFFF then
      some (.string (Char.ofNat (0x10000 + (h - 0xD800) * 0x400 + (code - 0xDC00)) :: text))
    else none

def outside (t : Tokenizer) (c : Char) : Option Tokenizer :=
  let ended (f : Tokenizer → Tokenizer) := t.close.map f
  if isBlank c then t.close
  else if c == '[' then ended (emit · .openArray)
  else if c == ']' then ended (emit · .closeArray)
  else if c == '\x7b' then ended (emit · .openObject)
  else if c == '\x7d' then ended (emit · .closeObject)
  else if c == ':' then ended (emit · .colon)
  else if c == ',' then ended (emit · .comma)
  else if c == '"' then ended (fun s => { s with inside := .string [] })
  else match t.inside with
    | .run text => some { t with inside := .run (c :: text) }
    | _ => some { t with inside := .run [c] }

def step (t : Tokenizer) (c : Char) : Option Tokenizer :=
  match t.inside with
  | .nothing | .run _ => t.outside c
  | .string text =>
    if c == '"' then some (t.emit (.string (.ofList text.reverse)))
    else if c == '\\' then some { t with inside := .escape text }
    else if c.toNat < 0x20 then none
    else some { t with inside := .string (c :: text) }
  | .escape text =>
    if c == 'u' then some { t with inside := .unicode text 4 0 none }
    else (simpleEscape? c).map (fun d => { t with inside := .string (d :: text) })
  | .unicode text left code high =>
    if !isHexDigit c then none
    else if left ≤ 1 then
      (finishUnicode text (code * 16 + hexValue c) high).map (fun o => { t with inside := o })
    else some { t with inside := .unicode text (left - 1) (code * 16 + hexValue c) high }
  | .halfway text high false =>
    if c == '\\' then some { t with inside := .halfway text high true } else none
  | .halfway text high true =>
    if c == 'u' then some { t with inside := .unicode text 4 0 (some high) } else none

end Tokenizer

def tokens? (cs : List Char) : Option (List Token) :=
  ((cs.foldlM Tokenizer.step {}).bind Tokenizer.close).map (fun t => t.tokens.reverse)

end SchemaTypes.Json
