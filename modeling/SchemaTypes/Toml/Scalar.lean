import SchemaTypes.Json.Token
import SchemaTypes.Toml.Time

/-!
# Scalars of TOML

Numbers, truth values, dates and times. Integers must fit in 64 bits with a sign. As JSON values,
numbers that are not finite become null, and a date or time becomes an object that holds its
text.
-/

set_option autoImplicit false

namespace SchemaTypes.Toml
open Json (Number signedBound)

/-- Digits without the underscores between them; an underscore elsewhere is refused. -/
def withoutUnderscores (isDigit : Char → Bool) : List Char → Option (List Char)
  | [] => none
  | [c] => if isDigit c then some [c] else none
  | c :: d :: rest =>
    if !isDigit c then none
    else if d = '_' then (withoutUnderscores isDigit rest).map (c :: ·)
    else (withoutUnderscores isDigit (d :: rest)).map (c :: ·)

def isOctal (c : Char) : Bool := '0' ≤ c && c ≤ '7'

def isBinary (c : Char) : Bool := c = '0' || c = '1'

def prefixed? (base : Nat) (isDigit : Char → Bool) (cs : List Char) : Option Number :=
  (withoutUnderscores isDigit cs).bind fun ds =>
    let n := Text.digitsValue base ds
    if n < signedBound then some (.integer n) else none

def wholePart? (cs : List Char) : Option (List Char) :=
  (withoutUnderscores Char.isDigit cs).bind fun ds =>
    if ds.length > 1 && ds.head? = some '0' then none else some ds

def decimal? (negative : Bool) (cs : List Char) : Option Number :=
  (wholePart? cs).bind fun ds =>
    let n := Text.digitsValue 10 ds
    if negative then (if n ≤ signedBound then some (.integer (-(n : Int))) else none)
    else if n < signedBound then some (.integer n) else none

def exponent? : List Char → Option Int
  | '-' :: cs => (withoutUnderscores Char.isDigit cs).map fun ds => -(Text.digitsValue 10 ds : Int)
  | '+' :: cs => (withoutUnderscores Char.isDigit cs).map fun ds => (Text.digitsValue 10 ds : Int)
  | cs => (withoutUnderscores Char.isDigit cs).map fun ds => (Text.digitsValue 10 ds : Int)

def float? (negative : Bool) (cs : List Char) : Option Number := do
  guard (cs.any (fun c => c = '.' || c = 'e' || c = 'E'))
  let mantissa := cs.takeWhile (fun c => c != 'e' && c != 'E')
  let power ← match cs.drop mantissa.length with
    | [] => some 0
    | _ :: rest => exponent? rest
  let whole ← wholePart? (mantissa.takeWhile (· != '.'))
  let fraction ← match mantissa.dropWhile (· != '.') with
    | [] => some []
    | _ :: rest => withoutUnderscores Char.isDigit rest
  let digits := Text.digitsValue 10 (whole ++ fraction)
  let exponent := power - fraction.length
  if Json.overflows digits exponent then none
  else some (.decimal (if negative then -(digits : Int) else digits) exponent)

def number? (negative : Bool) (cs : List Char) : Option Json :=
  if cs = "inf".toList || cs = "nan".toList then some .null
  else ((decimal? negative cs) <|> (float? negative cs)).map .number

/-- The name under which the text of a date or time is kept. -/
def dateField : String := "datetime"

def scalar? (cs : List Char) : Option Json :=
  if cs = "true".toList then some (.bool true)
  else if cs = "false".toList then some (.bool false)
  else if isDate cs || isTime cs || isDateTime cs then
    some (.object [(dateField, .string (.ofList cs))])
  else match cs with
    | '0' :: 'x' :: rest => (prefixed? 16 Text.isHexDigit rest).map .number
    | '0' :: 'o' :: rest => (prefixed? 8 isOctal rest).map .number
    | '0' :: 'b' :: rest => (prefixed? 2 isBinary rest).map .number
    | '+' :: rest => number? false rest
    | '-' :: rest => number? true rest
    | _ => number? false cs

end SchemaTypes.Toml
