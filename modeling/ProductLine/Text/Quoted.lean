import ProductLine.Text.Name
import ProductLine.Text.PrintableTable

/-!
# Quoted texts

A text is shown between quotes, single ones unless it holds a single quote and no double one. A quote
of the kind in use, a backslash, line ends, tabs and characters without a printed form are escaped.
Texts are given by their code points, because an escaped constant may hold unpaired surrogates.
-/

namespace ProductLine

namespace Text

/-- Whether a code point has a printed form. -/
def isPrintable (n : Nat) : Bool := 32 ≤ n && !inRanges unprintedRanges n

/-- The low `count` hexadecimal digits of a number. -/
def hexDigits (count n : Nat) : List Char :=
  let digits := Nat.toDigits 16 n
  List.replicate (count - digits.length) '0' ++ digits

/-- A code point inside quotes of the given kind. -/
def escape (quote : Char) (n : Nat) : List Char :=
  if n = quote.toNat || n = 92 then ['\\', Char.ofNat n]
  else if n = 10 then ['\\', 'n']
  else if n = 13 then ['\\', 'r']
  else if n = 9 then ['\\', 't']
  else if isPrintable n then [Char.ofNat n]
  else if n < 0x100 then '\\' :: 'x' :: hexDigits 2 n
  else if n < 0x10000 then '\\' :: 'u' :: hexDigits 4 n
  else '\\' :: 'U' :: hexDigits 8 n

/-- The kind of quote for a text. -/
def quoteFor (points : List Nat) : Char :=
  if points.contains 39 && !points.contains 34 then '"' else '\''

/-- A text of code points between quotes. -/
def quotePoints (points : List Nat) : List Char :=
  let quote := quoteFor points
  quote :: points.flatMap (escape quote) ++ [quote]

/-- A text between quotes. -/
def quoted (s : String) : String := String.ofList (quotePoints (s.toList.map Char.toNat))

/-- A list of texts, each between quotes. -/
def quotedList (texts : List String) : String := "[" ++ ", ".intercalate (texts.map quoted) ++ "]"

end Text

end ProductLine
