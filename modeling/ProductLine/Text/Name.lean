import ProductLine.Text.NameTable
import ProductLine.Text.NumberTable

/-!
# Names

A name is a letter or an underscore followed by letters, digits, marks and underscores of any script.
-/

namespace ProductLine

namespace Text

/-- Whether a code point lies in one of the ranges. -/
def inRanges (ranges : List (Nat × Nat)) (n : Nat) : Bool :=
  ranges.any fun (first, last) => first ≤ n && n ≤ last

/-- Whether a character can begin a name. -/
def isNameStart (c : Char) : Bool :=
  if c.toNat < 128 then c.isAlpha || c == '_' else inRanges nameStartRanges c.toNat

/-- Whether a character can continue a name. -/
def isNamePart (c : Char) : Bool :=
  if c.toNat < 128 then c.isAlphanum || c == '_'
  else inRanges nameStartRanges c.toNat || inRanges namePartRanges c.toNat

/-- Whether a text is a name. -/
def isName : List Char → Bool
  | [] => false
  | c :: rest => isNameStart c && rest.all isNamePart

/-- Whether a character is a digit of any script. -/
def isDigit (c : Char) : Bool :=
  if c.toNat < 128 then c.isDigit else inRanges digitRanges c.toNat

/-- The characters that begin names without being letters. -/
def symbolStarts : List Nat := [0x1885, 0x1886, 0x2118, 0x212e]

/-- Whether a character is a letter or a number of any script. -/
def isAlphanumeric (c : Char) : Bool :=
  if c.toNat < 128 then c.isAlphanum
  else (inRanges nameStartRanges c.toNat && !symbolStarts.contains c.toNat) || inRanges numberRanges c.toNat

end Text

end ProductLine
