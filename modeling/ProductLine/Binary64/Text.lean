import ProductLine.Binary64.Basic

/-!
# Decimal texts of binary64 numbers

A number is written with the fewest decimal digits that read back as it, or with a fixed count of
significant digits. Both are points of a decimal grid next to the exact value, compared in whole numbers.
A `NumberStyle` then says where positional notation ends and whether a point is kept.
-/

namespace ProductLine

/-- A positive decimal: the digits, the first one nonzero, and the power of ten of the first digit. -/
structure Decimal where
  digits : List Char
  exponent : Int

/-- How a decimal is laid out: positional up to a power of ten, with or without a final `.0`. -/
structure NumberStyle where
  positionalBelow : Int
  keepsPoint : Bool

namespace Decimal

/-- The number of decimal digits of a positive integer. -/
def length (n : Nat) : Nat :=
  let least := n.log2 * 30102999566 / 100000000000
  if Binary64.tenTo (least + 1) ≤ n then least + 2 else least + 1

/-- The power of ten of the first digit of `u` units, for a positive `u`. -/
def leading (u : Nat) : Int := (length (u * Binary64.tenTo 400 / Binary64.scale) : Int) - 401

/-- The quotient `u` units over `10 ^ exponent` as a numerator and a denominator. -/
def gridQuotient (u : Nat) (exponent : Int) : Nat × Nat :=
  if 0 ≤ exponent then (u, Binary64.scale * Binary64.tenTo exponent.toNat)
  else (u * Binary64.tenTo (-exponent).toNat, Binary64.scale)

/-- Whether `digits * 10 ^ exponent` rounds to `u` units. -/
def readsBack (u digits : Nat) (exponent : Int) : Bool :=
  if 0 ≤ exponent then Binary64.roundUnits (digits * Binary64.tenTo exponent.toNat * Binary64.scale) 1 == u
  else Binary64.roundUnits (digits * Binary64.scale) (Binary64.tenTo (-exponent).toNat) == u

/-- The point of the grid of `10 ^ exponent` nearest to `u` units among the two neighbours that read
back as `u`. -/
def neighbour? (u : Nat) (exponent : Int) : Option Nat :=
  let (num, den) := gridQuotient u exponent
  let low := num / den
  let near := Binary64.nearest num den
  let far := if near = low then low + 1 else low
  if readsBack u near exponent then some near
  else if readsBack u far exponent then some far
  else none

/-- The digits of an integer on the grid of `10 ^ exponent`, without trailing zeros. -/
def ofGrid (digits : Nat) (exponent : Int) : Decimal :=
  let text := Nat.toDigits 10 digits
  ⟨(text.reverse.dropWhile (· == '0')).reverse, exponent + text.length - 1⟩

/-- The shortest decimal that reads back as `u` units, for a positive `u`. -/
def shortest (u : Nat) : Decimal :=
  let first := leading u
  let grid (count : Nat) : Int := first - count
  match (List.range 17).findSome? fun count => (neighbour? u (grid count)).map (ofGrid · (grid count)) with
  | some decimal => decimal
  | none => ofGrid u 0

/-- The decimal with six significant digits nearest to `u` units, for a positive `u`. -/
def sixDigits (u : Nat) : Decimal :=
  let exponent := leading u - 5
  let (num, den) := gridQuotient u exponent
  ofGrid (Binary64.nearest num den) exponent

/-- An exponent with its sign and at least two digits. -/
def exponentText (exponent : Int) : List Char :=
  let digits := Nat.toDigits 10 exponent.natAbs
  (if exponent < 0 then '-' else '+') :: (if digits.length < 2 then '0' :: digits else digits)

/-- The decimal laid out in a style. -/
def layOut (style : NumberStyle) (d : Decimal) : List Char :=
  if d.exponent < -4 ∨ style.positionalBelow ≤ d.exponent then
    match d.digits with
    | [] => []
    | [c] => c :: 'e' :: exponentText d.exponent
    | c :: rest => c :: '.' :: rest ++ 'e' :: exponentText d.exponent
  else if d.exponent < 0 then
    '0' :: '.' :: List.replicate (-d.exponent - 1).toNat '0' ++ d.digits
  else
    let whole := d.exponent.toNat + 1
    if d.digits.length ≤ whole then
      d.digits ++ List.replicate (whole - d.digits.length) '0' ++ (if style.keepsPoint then ['.', '0'] else [])
    else d.digits.take whole ++ '.' :: d.digits.drop whole

end Decimal

namespace Binary64

/-- Numbers in full: positional below `10 ^ 16`, always with a point. -/
def fullStyle : NumberStyle := ⟨16, true⟩

/-- Numbers in brief: positional below `10 ^ 6`, a point only before a fraction. -/
def briefStyle : NumberStyle := ⟨6, false⟩

/-- A number in a style, its digits chosen by `digits`. -/
def write (style : NumberStyle) (digits : Nat → Decimal) : Binary64 → List Char
  | .nan => ['n', 'a', 'n']
  | .infinite false => ['i', 'n', 'f']
  | .infinite true => ['-', 'i', 'n', 'f']
  | .finite u _ =>
    if u = 0 then (if style.keepsPoint then ['0', '.', '0'] else ['0'])
    else (if u < 0 then ['-'] else []) ++ (digits u.natAbs).layOut style

/-- The shortest text that reads back as the number. -/
def text (x : Binary64) : String := String.ofList (write fullStyle Decimal.shortest x)

/-- The number with six significant digits. -/
def briefText (x : Binary64) : String := String.ofList (write briefStyle Decimal.sixDigits x)

end Binary64

end ProductLine
