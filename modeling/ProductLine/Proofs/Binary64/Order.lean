import Mathlib.Tactic.Common
import ProductLine.Binary64.Basic

/-!
# The order of numbers

Every number has a position among the integers, the infinities beyond all finite numbers. Numbers compare as
their positions do (`lt_eq`), and only equal numbers have one position (`position_inj`), so comparing is a
strict total order on the values that are numbers.
-/

namespace ProductLine

namespace Binary64

/-- The position of a number. What is no number stands with the positive infinity. -/
def position : Binary64 → Int
  | .finite u _ => u
  | .infinite false => limit
  | .infinite true => -limit
  | .nan => limit

/-- Finite numbers stand between the two infinities. -/
lemma position_finite {u : Int} (h : IsExact u.natAbs) :
    -(limit : Int) < (finite u h).position ∧ (finite u h).position < limit := by
  have hlt : u.natAbs < limit := h.2
  show -(limit : Int) < u ∧ u < limit
  omega

/-- The limit is positive, as an integer too. -/
lemma limit_cast_pos : (0 : Int) < limit := by
  have h : 0 < limit := twoTo_pos _
  omega

/-- Numbers are compared by their positions. -/
theorem lt_eq {x y : Binary64} (hx : x.isNaN = false) (hy : y.isNaN = false) :
    lt x y = decide (x.position < y.position) := by
  have hlimit := limit_cast_pos
  cases x with
  | nan => cases hx
  | finite u hu =>
    have hpos := position_finite hu
    cases y with
    | nan => cases hy
    | finite v hv => rfl
    | infinite s =>
      cases s with
      | false => exact (decide_eq_true hpos.2).symm
      | true =>
        have hnot : ¬ (finite u hu).position < -(limit : Int) := by omega
        exact (decide_eq_false hnot).symm
  | infinite s =>
    cases y with
    | nan => cases hy
    | finite v hv =>
      have hpos := position_finite hv
      cases s with
      | false =>
        have hnot : ¬ (limit : Int) < (finite v hv).position := by omega
        exact (decide_eq_false hnot).symm
      | true => exact (decide_eq_true hpos.1).symm
    | infinite t =>
      cases s with
      | false =>
        cases t with
        | false => exact (decide_eq_false (Int.lt_irrefl (limit : Int))).symm
        | true => exact (decide_eq_false (show ¬ (limit : Int) < -(limit : Int) by omega)).symm
      | true =>
        cases t with
        | false => exact (decide_eq_true (show -(limit : Int) < limit by omega)).symm
        | true => exact (decide_eq_false (Int.lt_irrefl (-(limit : Int)))).symm

/-- Numbers at the same position are equal. -/
theorem position_inj {x y : Binary64} (hx : x.isNaN = false) (hy : y.isNaN = false)
    (h : x.position = y.position) : x = y := by
  have hlimit := limit_cast_pos
  cases x with
  | nan => cases hx
  | finite u hu =>
    have hpos := position_finite hu
    rw [h] at hpos
    cases y with
    | nan => cases hy
    | finite v hv =>
      have huv : u = v := h
      subst huv
      rfl
    | infinite s =>
      cases s with
      | false => exact absurd hpos.2 (Int.lt_irrefl (limit : Int))
      | true => exact absurd hpos.1 (Int.lt_irrefl (-(limit : Int)))
  | infinite s =>
    cases y with
    | nan => cases hy
    | finite v hv =>
      have hpos := position_finite hv
      rw [← h] at hpos
      cases s with
      | false => exact absurd hpos.2 (Int.lt_irrefl (limit : Int))
      | true => exact absurd hpos.1 (Int.lt_irrefl (-(limit : Int)))
    | infinite t =>
      cases s with
      | false =>
        cases t with
        | false => rfl
        | true =>
          have heq : (limit : Int) = -limit := h
          omega
      | true =>
        cases t with
        | false =>
          have heq : -(limit : Int) = limit := h
          omega
        | true => rfl

end Binary64

end ProductLine
