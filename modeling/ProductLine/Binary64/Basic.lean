/-!
# Binary64 numbers

A finite binary64 number is an integer multiple of the smallest positive one, the unit, so it is stored
as that integer. Every operation computes the exact quotient of two natural numbers of units and rounds
it once, to the nearest number and to the even one of two equally near ones. There is a single zero: no
value of this library depends on its sign. Main statement: `roundUnits_roundUnits`, rounding a rounded
magnitude changes nothing, which is why rounding always lands on a number.
-/

namespace ProductLine

namespace Binary64

/-- The power of two with an exponent. -/
def twoTo (n : Nat) : Nat := Nat.pow 2 n

/-- The power of ten with an exponent. -/
def tenTo (n : Nat) : Nat := Nat.pow 10 n

/-- A power of two is positive. -/
theorem twoTo_pos (n : Nat) : 0 < twoTo n := Nat.two_pow_pos n

/-- The power of a sum is the product of the powers. -/
theorem twoTo_add (m n : Nat) : twoTo (m + n) = twoTo m * twoTo n := Nat.pow_add 2 m n

/-- Powers of two grow with the exponent. -/
theorem twoTo_le_twoTo {m n : Nat} (h : m ≤ n) : twoTo m ≤ twoTo n := Nat.pow_le_pow_right (by decide) h

/-- Powers of two grow strictly with the exponent. -/
theorem twoTo_lt_twoTo {m n : Nat} (h : m < n) : twoTo m < twoTo n := Nat.pow_lt_pow_right (by decide) h

/-- A power of two divides every higher one. -/
theorem twoTo_dvd_twoTo {m n : Nat} (h : m ≤ n) : twoTo m ∣ twoTo n := Nat.pow_dvd_pow 2 h

/-- How many units make one: the unit is two to the power of -1074. -/
def scale : Nat := twoTo 1074

/-- The first magnitude, in units, beyond every finite number. -/
def limit : Nat := twoTo 2098

/-- The number of binary digits of a natural number. -/
def bitLength (n : Nat) : Nat := if n = 0 then 0 else n.log2 + 1

/-- The integer nearest to `num / den`, the even one of two equally near ones. -/
def nearest (num den : Nat) : Nat :=
  if den < 2 * (num % den) ∨ (2 * (num % den) = den ∧ num / den % 2 = 1) then num / den + 1
  else num / den

/-- How many low binary digits a magnitude of `n` units loses to keep 53 of them. -/
def excess (n : Nat) : Nat := bitLength n - 53

/-- The magnitude nearest to `num / den` units that has at most 53 significant binary digits. -/
def roundUnits (num den : Nat) : Nat :=
  nearest num (den * twoTo (excess (num / den))) * twoTo (excess (num / den))

/-- What is below a power of two has at most as many binary digits as the exponent says. -/
theorem bitLength_le {n k : Nat} (h : n < twoTo k) : bitLength n ≤ k := by
  unfold bitLength
  split
  · omega
  · rename_i hn
    have := (Nat.log2_lt hn).2 h
    omega

/-- A number is below two to the power of the number of its binary digits. -/
theorem lt_twoTo_bitLength (n : Nat) : n < twoTo (bitLength n) := by
  unfold bitLength
  split
  · rename_i hn
    subst hn
    decide
  · exact Nat.lt_log2_self

/-- The nearest integer is at most the next one above the quotient. -/
theorem nearest_le (num den : Nat) : nearest num den ≤ num / den + 1 := by
  unfold nearest
  split <;> omega

/-- The nearest integer is not below the quotient rounded down. -/
theorem le_nearest (num den : Nat) : num / den ≤ nearest num den := by
  unfold nearest
  split <;> omega

/-- An exact quotient is its own nearest integer. -/
theorem nearest_of_dvd {num den : Nat} (hd : 0 < den) (h : den ∣ num) : nearest num den = num / den := by
  unfold nearest
  rw [Nat.mod_eq_zero_of_dvd h]
  simp
  omega

/-- The kept significand has at most 53 binary digits, or is the power of two just above them. -/
theorem nearest_excess_le (num den : Nat) :
    nearest num (den * twoTo (excess (num / den))) ≤ twoTo 53 := by
  have hq : num / den < twoTo (53 + excess (num / den)) :=
    Nat.lt_of_lt_of_le (lt_twoTo_bitLength _) (twoTo_le_twoTo (by unfold excess; omega))
  have hs : num / (den * twoTo (excess (num / den))) < twoTo 53 := by
    rw [← Nat.div_div_eq_div_mul]
    rw [twoTo_add] at hq
    exact Nat.div_lt_of_lt_mul (by rw [Nat.mul_comm]; exact hq)
  exact Nat.le_trans (nearest_le num _) hs

/-- A magnitude with at most 53 significant binary digits is rounded to itself. -/
theorem roundUnits_of_significand {m s : Nat} (hm : m ≤ twoTo 53) :
    roundUnits (m * twoTo s) 1 = m * twoTo s := by
  have hdvd : twoTo (excess (m * twoTo s)) ∣ m * twoTo s := by
    rcases Nat.lt_or_ge m (twoTo 53) with h | h
    · have hlt : m * twoTo s < twoTo (53 + s) := by
        rw [twoTo_add]
        exact Nat.mul_lt_mul_of_pos_right h (twoTo_pos s)
      have hle : excess (m * twoTo s) ≤ s := by
        have := bitLength_le hlt
        unfold excess
        omega
      exact Nat.dvd_trans (twoTo_dvd_twoTo hle) (Nat.dvd_mul_left _ _)
    · have hm' : m = twoTo 53 := Nat.le_antisymm hm h
      subst hm'
      rw [← twoTo_add]
      have hlt : twoTo (53 + s) < twoTo (54 + s) := twoTo_lt_twoTo (by omega)
      have hle : excess (twoTo (53 + s)) ≤ 53 + s := by
        have := bitLength_le hlt
        unfold excess
        omega
      exact twoTo_dvd_twoTo hle
  unfold roundUnits
  rw [Nat.div_one, Nat.one_mul, nearest_of_dvd (twoTo_pos _) hdvd]
  exact Nat.div_mul_cancel hdvd

/-- Rounding a rounded magnitude changes nothing. -/
theorem roundUnits_roundUnits (num den : Nat) :
    roundUnits (roundUnits num den) 1 = roundUnits num den :=
  roundUnits_of_significand (nearest_excess_le num den)

/-- A magnitude in units that is a finite number: rounding keeps it and it is below the limit. -/
def IsExact (units : Nat) : Prop := roundUnits units 1 = units ∧ units < limit

/-- Whether a magnitude is that of a number can be computed. -/
instance (units : Nat) : Decidable (IsExact units) := inferInstanceAs (Decidable (_ ∧ _))

end Binary64

/-- A binary64 number: a finite one in units, an infinity, or no number. -/
inductive Binary64 where
  | finite (units : Int) (exact : Binary64.IsExact units.natAbs)
  | infinite (negative : Bool)
  | nan
deriving DecidableEq

namespace Binary64

/-- The number nearest to `num / den` units with the given sign; an infinity beyond the limit. -/
def ofQuotient (negative : Bool) (num den : Nat) : Binary64 :=
  if h : roundUnits num den < limit then
    .finite (if negative then -(roundUnits num den : Int) else roundUnits num den)
      (by
        have hx : IsExact (roundUnits num den) := ⟨roundUnits_roundUnits num den, h⟩
        split
        · simpa using hx
        · simpa using hx)
  else .infinite negative

/-- The number nearest to an integer number of units. -/
def ofUnits (units : Int) : Binary64 := ofQuotient (decide (units < 0)) units.natAbs 1

/-- The value if it is a finite number. -/
def finite? : Binary64 → Option Binary64
  | .finite u h => some (.finite u h)
  | _ => none

/-- The finite number nearest to an integer, if the integer does not lie beyond the limit. -/
def ofInt? (n : Int) : Option Binary64 := finite? (ofQuotient (decide (n < 0)) (n.natAbs * scale) 1)

/-- The number zero. -/
def zero : Binary64 := ofQuotient false 0 1

/-- The number one. -/
def one : Binary64 := ofQuotient false scale 1

/-- Zero, where some number is needed. -/
instance : Inhabited Binary64 := ⟨zero⟩

/-- The number with the other sign. -/
def neg : Binary64 → Binary64
  | .finite u h => .finite (-u) (by simpa using h)
  | .infinite s => .infinite (!s)
  | .nan => .nan

/-- The rounded sum. -/
def add : Binary64 → Binary64 → Binary64
  | .finite a _, .finite b _ => ofUnits (a + b)
  | .finite _ _, .infinite s => .infinite s
  | .infinite s, .finite _ _ => .infinite s
  | .infinite s, .infinite t => if s = t then .infinite s else .nan
  | .nan, _ => .nan
  | _, .nan => .nan

/-- The rounded difference. -/
def sub (a b : Binary64) : Binary64 := add a (neg b)

/-- An infinity times a finite number of `u` units. -/
def scaleInfinity (negative : Bool) (u : Int) : Binary64 :=
  if u = 0 then .nan else .infinite (negative != decide (u < 0))

/-- The rounded product. -/
def mul : Binary64 → Binary64 → Binary64
  | .finite a _, .finite b _ => ofQuotient (decide (a * b < 0)) (a * b).natAbs scale
  | .finite a _, .infinite s => scaleInfinity s a
  | .infinite s, .finite b _ => scaleInfinity s b
  | .infinite s, .infinite t => .infinite (s != t)
  | .nan, _ => .nan
  | _, .nan => .nan

/-- The rounded quotient. A nonzero number over zero is infinite, zero over zero is no number. -/
def div : Binary64 → Binary64 → Binary64
  | .finite a _, .finite b _ =>
    if b = 0 then scaleInfinity false a
    else ofQuotient (decide (a < 0) != decide (b < 0)) (a.natAbs * scale) b.natAbs
  | .finite _ _, .infinite _ => zero
  | .infinite s, .finite b _ => .infinite (s != decide (b < 0))
  | .infinite _, .infinite _ => .nan
  | .nan, _ => .nan
  | _, .nan => .nan

/-- Numbers are added with `+`. -/
instance : Add Binary64 := ⟨add⟩

/-- Numbers are subtracted with `-`. -/
instance : Sub Binary64 := ⟨sub⟩

/-- Numbers are multiplied with `*`. -/
instance : Mul Binary64 := ⟨mul⟩

/-- Numbers are divided with `/`. -/
instance : Div Binary64 := ⟨div⟩

/-- Numbers are negated with `-`. -/
instance : Neg Binary64 := ⟨neg⟩

/-- Strictly smaller; never so if one side is no number. -/
def lt : Binary64 → Binary64 → Bool
  | .finite a _, .finite b _ => decide (a < b)
  | .finite _ _, .infinite s => !s
  | .infinite s, .finite _ _ => s
  | .infinite s, .infinite t => s && !t
  | .nan, _ => false
  | _, .nan => false

/-- Whether the number is an integer; infinities are not. -/
def isInteger : Binary64 → Bool
  | .finite u _ => u % (scale : Int) == 0
  | _ => false

/-- Whether the value is no number. -/
def isNaN : Binary64 → Bool
  | .nan => true
  | _ => false

/-- Whether the number is finite. -/
def isFinite : Binary64 → Bool
  | .finite _ _ => true
  | _ => false

/-- The number nearest to the multiple of ten to the power of `-places` nearest to `x`, both times the even
one of two equally near ones. Beyond 323 places every number stays what it is. -/
def roundPlaces (places : Nat) : Binary64 → Binary64
  | .finite u h =>
    if 323 < places then .finite u h
    else ofQuotient (decide (u < 0)) (nearest (u.natAbs * tenTo places) scale * scale) (tenTo places)
  | x => x

/-- The number rounded to the given places, or as it is if there is no limit to them. -/
def normalize : Option Nat → Binary64 → Binary64
  | some places, x => roundPlaces places x
  | none, x => x

/-- A decimal with `digits` as its digits, shifted by a power of ten. Far too large a decimal is
infinite and far too small a one is zero before any power is computed. -/
def ofDecimal (negative : Bool) (digits : Nat) (exponent : Int) : Binary64 :=
  let size : Int := (digits.log2 / 4 : Nat) + exponent
  let top : Int := (digits.log2 / 3 : Nat) + 1 + exponent
  if digits = 0 then zero
  else if 400 < size then .infinite negative
  else if top < -400 then zero
  else if 0 ≤ exponent then ofQuotient negative (digits * tenTo exponent.toNat * scale) 1
  else ofQuotient negative (digits * scale) (tenTo (-exponent).toNat)

end Binary64

end ProductLine
