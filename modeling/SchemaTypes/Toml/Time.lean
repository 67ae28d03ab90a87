import SchemaTypes.Text.Digits

/-!
# Dates and times in TOML

A date, a time, or both with an optional offset from universal time. Only whether a text is one
is asked for. Seconds may be left out, and a leap second counts.
-/

set_option autoImplicit false

namespace SchemaTypes.Toml

def fixed (n : Nat) (cs : List Char) : Option (Nat × List Char) :=
  let ds := cs.take n
  if ds.length = n && ds.all Char.isDigit then some (Text.digitsValue 10 ds, cs.drop n) else none

def expect (c : Char) : List Char → Option (List Char)
  | [] => none
  | d :: rest => if d = c then some rest else none

def isLeapYear (year : Nat) : Bool :=
  year % 4 == 0 && (year % 100 != 0 || year % 400 == 0)

def daysInMonth (year month : Nat) : Nat :=
  if month = 2 then (if isLeapYear year then 29 else 28)
  else if [4, 6, 9, 11].contains month then 30
  else 31

def date (cs : List Char) : Option (List Char) := do
  let (year, cs) ← fixed 4 cs
  let cs ← expect '-' cs
  let (month, cs) ← fixed 2 cs
  let cs ← expect '-' cs
  let (day, cs) ← fixed 2 cs
  guard (1 ≤ month && month ≤ 12 && 1 ≤ day && day ≤ daysInMonth year month)
  return cs

def fraction : List Char → Option (List Char)
  | '.' :: cs =>
    if (cs.takeWhile Char.isDigit).isEmpty then none else some (cs.dropWhile Char.isDigit)
  | cs => some cs

def seconds : List Char → Option (List Char)
  | ':' :: cs => do
    let (second, cs) ← fixed 2 cs
    guard (second ≤ 60)
    fraction cs
  | cs => some cs

def time (cs : List Char) : Option (List Char) := do
  let (hour, cs) ← fixed 2 cs
  let cs ← expect ':' cs
  let (minute, cs) ← fixed 2 cs
  guard (hour ≤ 23 && minute ≤ 59)
  seconds cs

def offset : List Char → Option (List Char)
  | [] => some []
  | c :: cs =>
    if c = 'Z' || c = 'z' then some cs
    else if c = '+' || c = '-' then do
      let (hour, cs) ← fixed 2 cs
      let cs ← expect ':' cs
      let (minute, cs) ← fixed 2 cs
      guard (hour ≤ 23 && minute ≤ 59)
      return cs
    else none

def isDate (cs : List Char) : Bool := date cs == some []

def isTime (cs : List Char) : Bool := time cs == some []

def isDateTime (cs : List Char) : Bool :=
  match date cs with
  | some (c :: rest) =>
    (c = 'T' || c = 't' || c = ' ') && ((time rest).bind offset) == some []
  | _ => false

end SchemaTypes.Toml
