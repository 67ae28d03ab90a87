import SchemaTypes.Unicode.CaseMapping
import SchemaTypes.Unicode.Property

/-!
# Small letters and capitals

The full case mappings of text. One letter depends on its surroundings: a capital sigma at the
end of a word becomes the final small sigma. A word ends where no cased character follows,
characters that case ignores left out.
-/

set_option autoImplicit false

namespace SchemaTypes.Text
open Unicode

def lowerChar (c : Char) : List Char :=
  if c.toNat < 0x80 then [c.toLower]
  else match lowerFull.lookup c.toNat with
    | some ns => ns.map Char.ofNat
    | none => [((lowerMap.image? c.toNat).map Char.ofNat).getD c]

def upperChar (c : Char) : List Char :=
  if c.toNat < 0x80 then [c.toUpper]
  else match upperFull.lookup c.toNat with
    | some ns => ns.map Char.ofNat
    | none => [((upperMap.image? c.toNat).map Char.ofNat).getD c]

/-- The first character that case does not ignore has a case. -/
def startsCased (cs : List Char) : Bool :=
  match cs.dropWhile (fun c => caseIgnorable.contains c.toNat) with
  | [] => false
  | c :: _ => cased.contains c.toNat

def capitalSigma : Char := 'Σ'

/-- Small letters for the rest of a text whose first part, last character first, is `before`. -/
def lowerAfter (before : List Char) : List Char → List Char
  | [] => []
  | c :: rest =>
    (if c = capitalSigma then
      (if startsCased before && !startsCased rest then ['ς'] else ['σ'])
    else lowerChar c) ++ lowerAfter (c :: before) rest

def toLower (s : String) : String := .ofList (lowerAfter [] s.toList)

def toUpper (s : String) : String := .ofList (s.toList.flatMap upperChar)

end SchemaTypes.Text
