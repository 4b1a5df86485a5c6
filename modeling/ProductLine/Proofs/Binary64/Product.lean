import Mathlib.Tactic.Common
import ProductLine.Proofs.Binary64.Rounding

/-!
# Products of numbers

Zero times a finite number is zero. A product of numbers is no number only where zero meets an infinity
(`isNaN_mul`), and rounding to places neither makes nor removes what is no number (`isNaN_normalize`). One is
neutral, and one and one stay two however few places there are.
-/

namespace ProductLine

namespace Binary64

/-- A quotient is always a number, be it infinite. -/
lemma isNaN_ofQuotient (negative : Bool) (num den : Nat) : (ofQuotient negative num den).isNaN = false := by
  rw [ofQuotient]
  split
  · rfl
  · rfl

/-- Zero is a number. -/
@[simp] lemma isNaN_zero : zero.isNaN = false := isNaN_ofQuotient false 0 1

/-- Zero is finite. -/
@[simp] lemma isFinite_zero : zero.isFinite = true := by
  rw [zero_eq]
  rfl

/-- What is finite is a number. -/
lemma isNaN_of_isFinite {x : Binary64} (h : x.isFinite = true) : x.isNaN = false := by
  cases x with
  | finite => rfl
  | infinite => rfl
  | nan => cases h

/-- Rounding to places neither makes nor removes what is no number. -/
lemma isNaN_normalize (places : Option Nat) (x : Binary64) : (normalize places x).isNaN = x.isNaN := by
  cases places with
  | none => rfl
  | some n =>
    cases x with
    | finite u h =>
      show (roundPlaces n (finite u h)).isNaN = false
      rw [roundPlaces]
      split
      · rfl
      · exact isNaN_ofQuotient _ _ _
    | infinite => rfl
    | nan => rfl

/-- Zero times a finite number is zero. -/
lemma zero_mul_of_isFinite {x : Binary64} (h : x.isFinite = true) : zero * x = zero := by
  rw [zero_eq]
  cases x with
  | finite v hv => rw [finite_mul_finite, Int.zero_mul, Int.natAbs_zero, ofQuotient_zero]
  | infinite => cases h
  | nan => cases h

/-- A finite number times zero is zero. -/
lemma mul_zero_of_isFinite {x : Binary64} (h : x.isFinite = true) : x * zero = zero := by
  rw [zero_eq]
  cases x with
  | finite v hv => rw [finite_mul_finite, Int.mul_zero, Int.natAbs_zero, ofQuotient_zero]
  | infinite => cases h
  | nan => cases h

/-- A count of units is zero exactly if there are none. -/
lemma finite_eq_zero {u : Int} {h : IsExact u.natAbs} : finite u h = zero ↔ u = 0 := by
  rw [zero_eq, finite.injEq]

/-- Infinity times a count of units is no number exactly if there are none. -/
lemma isNaN_scaleInfinity (s : Bool) (u : Int) : (scaleInfinity s u).isNaN = true ↔ u = 0 := by
  rw [scaleInfinity]
  split
  · exact iff_of_true rfl ‹_›
  · exact iff_of_false Bool.false_ne_true ‹_›

/-- A product of numbers is no number exactly if one is zero and the other an infinity. -/
theorem isNaN_mul {x y : Binary64} (hx : x.isNaN = false) (hy : y.isNaN = false) :
    (x * y).isNaN = true ↔ (x = zero ∧ y.isFinite = false) ∨ (y = zero ∧ x.isFinite = false) := by
  cases x with
  | nan => cases hx
  | finite u hu =>
    cases y with
    | nan => cases hy
    | finite v hv =>
      rw [finite_mul_finite, isNaN_ofQuotient]
      exact iff_of_false Bool.false_ne_true (by simp [isFinite])
    | infinite s =>
      show (scaleInfinity s u).isNaN = true ↔ _
      rw [isNaN_scaleInfinity, finite_eq_zero]
      simp [isFinite]
  | infinite s =>
    cases y with
    | nan => cases hy
    | finite v hv =>
      show (scaleInfinity s v).isNaN = true ↔ _
      rw [isNaN_scaleInfinity, finite_eq_zero]
      simp [isFinite]
    | infinite t =>
      refine iff_of_false Bool.false_ne_true ?_
      simp [zero_eq]

/-- The order of two factors does not matter. -/
protected theorem mul_comm (x y : Binary64) : x * y = y * x := by
  cases x with
  | nan => cases y <;> rfl
  | finite u hu =>
    cases y with
    | finite v hv => rw [finite_mul_finite, finite_mul_finite, Int.mul_comm]
    | infinite => rfl
    | nan => rfl
  | infinite s =>
    cases y with
    | finite => rfl
    | infinite t =>
      show infinite (s != t) = infinite (t != s)
      cases s <;> cases t <;> rfl
    | nan => rfl

/-- One is neutral on the left of a product. -/
protected theorem one_mul (x : Binary64) : one * x = x := by
  rw [Binary64.mul_comm, Binary64.mul_one]

/-- Two stays two at any number of places. -/
lemma normalize_two (places : Option Nat) : normalize places (one + one) = one + one := by
  have hexact : IsExact (scale + scale : Int).natAbs := by decide +kernel
  have htwo : one + one = finite (scale + scale) hexact := by
    rw [one_eq, finite_add_finite]
    exact ofQuotient_eq_finite hexact hexact.1
  rw [htwo]
  exact normalize_of_dvd places hexact (by decide +kernel)

end Binary64

end ProductLine
