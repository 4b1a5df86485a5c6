import ProductLine.Binary64.Basic

/-!
# Powers of binary64 numbers

The power of two finite numbers is the machine's; the cases with an infinity or no number are the
standard's. A power of finite numbers that grows beyond every finite number has no value.
-/

namespace ProductLine

namespace Binary64

/-- The machine word of a number: biased exponent and stored digits in one count of units. -/
def toBits : Binary64 → UInt64
  | .finite u _ =>
    let shift := excess u.natAbs
    let word := shift * twoTo 52 + u.natAbs / twoTo shift
    (if u < 0 then word + twoTo 63 else word).toUInt64
  | .infinite false => 0x7ff0000000000000
  | .infinite true => 0xfff0000000000000
  | .nan => 0x7ff8000000000000

/-- The number a machine word stands for. -/
def ofBits (word : UInt64) : Binary64 :=
  let w := word.toNat
  let negative := twoTo 63 ≤ w
  let exponent := w / twoTo 52 % twoTo 11
  let digits := w % twoTo 52
  if exponent = twoTo 11 - 1 then
    if digits = 0 then .infinite negative else .nan
  else if exponent = 0 then ofQuotient negative digits 1
  else ofQuotient negative ((twoTo 52 + digits) * twoTo (exponent - 1)) 1

/-- The machine's power of two numbers. -/
def machinePower (a b : Binary64) : Binary64 :=
  ofBits (Float.pow (Float.ofBits a.toBits) (Float.ofBits b.toBits)).toBits

/-- Whether the number is an odd integer. -/
def isOdd : Binary64 → Bool
  | .finite u _ => u % (scale : Int) == 0 && u / (scale : Int) % 2 == 1
  | _ => false

/-- The magnitude of a number. -/
def abs (x : Binary64) : Binary64 := if lt x zero then neg x else x

/-- The power, or nothing if the power of two finite numbers is not finite. -/
def power? (a b : Binary64) : Option Binary64 :=
  match a, b with
  | .nan, b => some (if b = zero then one else .nan)
  | a, .nan => some (if a = one then one else .nan)
  | .infinite s, b =>
    if lt zero b then some (.infinite (s && isOdd b))
    else if b = zero then some one
    else some zero
  | a, .infinite s =>
    if abs a = one then some one
    else some (if lt one (abs a) != s then .infinite false else zero)
  | a, b =>
    match machinePower a b with
    | .finite u h => some (.finite u h)
    | _ => none

end Binary64

end ProductLine
