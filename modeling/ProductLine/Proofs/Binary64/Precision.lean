import Mathlib.Algebra.Order.Field.Basic
import Mathlib.Algebra.Order.Field.Rat
import Mathlib.Tactic.FieldSimp
import ProductLine.Proofs.Binary64.Product

/-!
# How far products are from exact

A product of finite numbers is rounded twice, to a number and to the decimal places that are kept, and so may
differ from the exact one. If it does not, products may be regrouped: numbers with the same exact product have
the same product (`mul_eq_of_value`). Between minus one and one a product is a decimal of the places kept that
is off by half a unit of the last place and a little (`exists_decimal`), so two ways to group three factors
are no more than two such units apart (`exists_decimals`).
-/

namespace ProductLine

namespace Binary64

/-- The exact value of a finite number. -/
def value : Binary64 → ℚ
  | .finite u _ => u / scale
  | _ => 0

/-- The most by which a magnitude up to one changes when it is rounded to a number. -/
def roundoff : ℚ := twoTo 1021 / scale

/-- The next power of two is twice as large. -/
lemma twoTo_succ (n : Nat) : twoTo (n + 1) = 2 * twoTo n := by
  rw [Nat.add_comm, twoTo_add]
  rfl

/-- The units in one are more than none, as a fraction too. -/
lemma scale_cast_pos : (0 : ℚ) < scale := by exact_mod_cast scale_pos

/-! Single roundings -/

section Rounding

variable {num den : Nat}

/-- What comes as near as something above does not go beyond it. -/
lemma le_of_gap_le {q m : Nat} (hd : 0 < den) (hm : num ≤ m * den) (h : gap num den q ≤ gap num den m) : q ≤ m := by
  by_contra hlt
  have hmore : (m + 1) * den ≤ q * den := Nat.mul_le_mul_right den (by omega)
  zify at hm hmore hd
  rw [gap, gap, abs_of_nonneg (by linarith), abs_of_nonneg (by linarith)] at h
  linarith

/-- A quotient that is not beyond an integer is not rounded beyond it. -/
lemma nearest_le_of_le (hd : 0 < den) {m : Nat} (h : num ≤ m * den) : nearest num den ≤ m :=
  le_of_gap_le hd h (gap_nearest_le hd m)

/-- A quotient that is not beyond a magnitude that rounding keeps is not rounded beyond it. -/
lemma roundUnits_le_of_le (hd : 0 < den) {m : Nat} (hm : roundUnits m 1 = m) (h : num ≤ m * den) :
    roundUnits num den ≤ m := le_of_gap_le hd h (roundUnits_nearest num hd hm)

/-- A count differs from a quotient by its gap, in steps. -/
lemma abs_sub_quotient (hd : 0 < den) (q : Nat) : |(q : ℚ) - num / den| = gap num den q / den := by
  have hden : (0 : ℚ) < den := by exact_mod_cast hd
  have hdiff : (q : ℚ) - num / den = (q * den - num) / den := by field_simp
  rw [hdiff, abs_div, abs_of_pos hden, gap]
  push_cast
  rfl

/-- The nearest integer is no further than one half from the quotient. -/
lemma abs_nearest_sub_le (hd : 0 < den) : |(nearest num den : ℚ) - num / den| ≤ 1 / 2 := by
  have hden : (0 : ℚ) < den := by exact_mod_cast hd
  have hgap : 2 * gap num den (nearest num den) ≤ den := by
    have hspec := nearest_spec num hd
    omega
  have hcast : (2 : ℚ) * gap num den (nearest num den) ≤ den := by exact_mod_cast hgap
  rw [abs_sub_quotient hd, div_le_div_iff₀ hden two_pos]
  linarith

/-- A magnitude up to one is rounded to one up to one, and changes by the roundoff at most. -/
lemma abs_roundUnits_sub_le (hd : 0 < den) (h : num ≤ scale * den) :
    |(roundUnits num den : ℚ) / scale - num / (scale * den)| ≤ roundoff := by
  have hquot : num / den < twoTo 1075 := by
    have hle : num / den ≤ scale := Nat.div_le_of_le_mul (by rwa [Nat.mul_comm])
    exact lt_of_le_of_lt hle (twoTo_lt_twoTo (by decide))
  have hexcess : twoTo (excess (num / den)) ≤ 2 * twoTo 1021 := by
    have hbits := bitLength_le hquot
    rw [← twoTo_succ]
    exact twoTo_le_twoTo (by unfold excess; omega)
  have hgap : gap num den (roundUnits num den) ≤ den * twoTo 1021 := by
    have hspec := nearest_spec num (Nat.mul_pos hd (twoTo_pos (excess (num / den))))
    rw [gap_mul, ← roundUnits] at hspec
    have hmul := Nat.mul_le_mul_left den hexcess
    zify at hmul
    push_cast at hspec
    rcases hspec with hspec | hspec <;> linarith
  have hden : (0 : ℚ) < den := by exact_mod_cast hd
  have hcast : (gap num den (roundUnits num den) : ℚ) ≤ den * twoTo 1021 := by exact_mod_cast hgap
  have hdiff : (roundUnits num den : ℚ) / scale - num / (scale * den) =
      ((roundUnits num den : ℚ) - num / den) / scale := by
    rw [mul_comm (scale : ℚ), ← div_div, ← sub_div]
  rw [hdiff, abs_div, abs_of_pos scale_cast_pos, abs_sub_quotient hd, roundoff]
  refine div_le_div_of_nonneg_right ?_ scale_cast_pos.le
  rw [div_le_iff₀ hden]
  linarith

end Rounding

/-! Signs -/

/-- An integer given by its sign and magnitude. -/
def signed (negative : Bool) (magnitude : Nat) : Int := if negative then -magnitude else magnitude

/-- The factor that a sign stands for. -/
def signum (negative : Bool) : ℚ := if negative then -1 else 1

/-- A sign does not change a magnitude. -/
lemma abs_signum_mul (negative : Bool) (q : ℚ) : |signum negative * q| = |q| := by
  cases negative <;> simp [signum]

/-- The magnitude of a signed count is the count. -/
@[simp] lemma natAbs_signed (negative : Bool) (n : Nat) : (signed negative n).natAbs = n := by
  cases negative <;> simp [signed]

/-- A signed count is the sign times the count, as a fraction. -/
lemma signed_cast (negative : Bool) (n : Nat) : (signed negative n : ℚ) = signum negative * n := by
  cases negative <;> simp [signed, signum]

/-- A signed positive count is negative exactly if its sign says so. -/
lemma signed_neg_iff (negative : Bool) {n : Nat} (hn : 0 < n) : decide (signed negative n < 0) = negative := by
  cases negative with
  | false => simp [signed]
  | true => simpa [signed] using hn

/-- An integer is its sign and its magnitude. -/
lemma exists_signed (d : Int) : d = signed (decide (d < 0)) d.natAbs := by
  by_cases hd : d < 0
  · simp only [signed, hd, decide_true, if_true]
    omega
  · simp only [signed, hd, decide_false, Bool.false_eq_true, if_false]
    omega

/-- A quotient rounded within the range has the value of the rounded units. -/
lemma value_ofQuotient (negative : Bool) {num den : Nat} (h : roundUnits num den < limit) :
    (ofQuotient negative num den).value = signum negative * (roundUnits num den / scale) := by
  rw [ofQuotient, dif_pos h, value]
  show (signed negative (roundUnits num den) : ℚ) / scale = _
  rw [signed_cast, mul_div_assoc]

/-! Decimals -/

/-- The number that reads as an integer of units of the last decimal place. -/
def decimal (places : Nat) (digits : Int) : Binary64 := ofDecimal (decide (digits < 0)) digits.natAbs (-places)

variable {places : Nat}

/-- A power of ten is positive. -/
lemma tenTo_pos (n : Nat) : 0 < tenTo n := Nat.pow_pos (by decide)

/-- Decimals up to one are read as rounded quotients. -/
lemma decimal_signed (negative : Bool) {k : Nat} (hplaces : places ≤ 15) (hk : k ≤ tenTo places) :
    decimal places (signed negative k) = ofQuotient negative (k * scale) (tenTo places) := by
  rcases Nat.eq_zero_or_pos k with rfl | hpos
  · rw [Nat.zero_mul, ofQuotient_zero, ← zero_eq, decimal, natAbs_signed, ofDecimal]
    exact if_pos rfl
  · have hten : tenTo places ≤ tenTo 15 := Nat.pow_le_pow_right (by decide) hplaces
    have hlog : k.log2 < 50 := (Nat.log2_lt hpos.ne').2 (lt_of_le_of_lt (hk.trans hten) (by decide))
    rw [decimal, signed_neg_iff negative hpos, natAbs_signed, ofDecimal]
    rw [if_neg hpos.ne', if_neg (by omega), if_neg (by omega)]
    split
    · have hnone : places = 0 := by omega
      subst hnone
      show ofQuotient negative (k * 1 * scale) 1 = _
      rw [Nat.mul_one]
      rfl
    · rw [Int.neg_neg, Int.toNat_natCast]

/-- A decimal up to one is a finite number up to one that is off by the roundoff at most. -/
lemma value_decimal (hplaces : places ≤ 15) {digits : Int} (hdigits : digits.natAbs ≤ tenTo places) :
    (decimal places digits).isFinite = true ∧ |(decimal places digits).value| ≤ 1 ∧
      |(decimal places digits).value - digits / tenTo places| ≤ roundoff := by
  rw [exists_signed digits]
  generalize decide (digits < 0) = negative
  generalize digits.natAbs = k at hdigits ⊢
  have hten := tenTo_pos places
  have hscale := scale_cast_pos
  have htencast : (0 : ℚ) < tenTo places := by exact_mod_cast hten
  have hnum : k * scale ≤ scale * tenTo places := by
    rw [Nat.mul_comm k]
    exact Nat.mul_le_mul_left scale hdigits
  have hone := roundUnits_le_of_le hten roundUnits_scale hnum
  have hlimit := lt_of_le_of_lt hone scale_lt_limit
  have honecast : (roundUnits (k * scale) (tenTo places) : ℚ) ≤ scale := by exact_mod_cast hone
  have hquot : (k : ℚ) / tenTo places = (k * scale : Nat) / (scale * tenTo places) := by
    push_cast
    field_simp
  rw [decimal_signed negative hplaces hdigits, value_ofQuotient negative hlimit]
  refine ⟨(isFinite_ofQuotient _ _ _).2 hlimit, ?_, ?_⟩
  · rw [abs_signum_mul, abs_of_nonneg (div_nonneg (Nat.cast_nonneg _) hscale.le)]
    exact (div_le_one hscale).2 honecast
  · rw [signed_cast, mul_div_assoc, ← mul_sub, abs_signum_mul, hquot]
    exact abs_roundUnits_sub_le hten hnum

/-- A finite number is a count of units. -/
lemma exists_finite {x : Binary64} (h : x.isFinite = true) : ∃ u hu, x = finite u hu := by
  cases x with
  | finite u hu => exact ⟨u, hu, rfl⟩
  | infinite => cases h
  | nan => cases h

/-- A number up to one has no more units than one. -/
lemma natAbs_le_scale {u : Int} {hu : IsExact u.natAbs} (h : |(finite u hu).value| ≤ 1) : u.natAbs ≤ scale := by
  rw [value, abs_div, abs_of_pos scale_cast_pos, div_le_one scale_cast_pos] at h
  have hunits : |u| ≤ (scale : Int) := by exact_mod_cast h
  rw [Int.abs_eq_natAbs] at hunits
  exact_mod_cast hunits

/-- A product of numbers up to one is a decimal up to one, off by half a unit and the roundoff at most. -/
lemma exists_decimal (hplaces : places ≤ 15) {x y : Binary64} (hx : x.isFinite = true) (hy : y.isFinite = true)
    (hxone : |x.value| ≤ 1) (hyone : |y.value| ≤ 1) :
    ∃ digits : Int, digits.natAbs ≤ tenTo places ∧ normalize (some places) (x * y) = decimal places digits ∧
      |digits - x.value * y.value * tenTo places| ≤ 1 / 2 + roundoff * tenTo places := by
  obtain ⟨u, hu, rfl⟩ := exists_finite hx
  obtain ⟨v, hv, rfl⟩ := exists_finite hy
  have hscale := scale_cast_pos
  have hten : (0 : ℚ) < tenTo places := by exact_mod_cast tenTo_pos places
  have hnum : (u * v).natAbs ≤ scale * scale := by
    rw [Int.natAbs_mul]
    exact Nat.mul_le_mul (natAbs_le_scale hxone) (natAbs_le_scale hyone)
  have hproduct : (finite u hu).value * (finite v hv).value =
      signum (decide (u * v < 0)) * ((u * v).natAbs / (scale * scale)) := by
    have hcast : ((u * v : Int) : ℚ) = signum (decide (u * v < 0)) * (u * v).natAbs := by
      rw [← signed_cast, ← exists_signed]
    rw [← mul_div_assoc, ← hcast]
    simp only [value]
    push_cast
    field_simp
  rw [finite_mul_finite, hproduct, normalize]
  generalize decide (u * v < 0) = negative
  generalize (u * v).natAbs = num at hnum ⊢
  have hone := roundUnits_le_of_le scale_pos roundUnits_scale hnum
  have hlimit := lt_of_le_of_lt hone scale_lt_limit
  have hfirst := abs_roundUnits_sub_le scale_pos hnum
  have hsecond : |(nearest (roundUnits num scale * tenTo places) scale : ℚ) -
      (roundUnits num scale * tenTo places : Nat) / scale| ≤ 1 / 2 := abs_nearest_sub_le scale_pos
  have hdigits : nearest (roundUnits num scale * tenTo places) scale ≤ tenTo places := by
    refine nearest_le_of_le scale_pos ?_
    rw [Nat.mul_comm]
    exact Nat.mul_le_mul_left _ hone
  refine ⟨signed negative (nearest (roundUnits num scale * tenTo places) scale), ?_, ?_, ?_⟩
  · rwa [natAbs_signed]
  · rw [roundPlaces_ofQuotient (by omega) negative hlimit, decimal_signed negative hplaces hdigits]
  · rw [signed_cast, mul_assoc, ← mul_sub, abs_signum_mul]
    -- the rounded product lies between the decimal and the exact product
    have hmiddle :
        |((roundUnits num scale * tenTo places : Nat) : ℚ) / scale - num / (scale * scale) * tenTo places| ≤
        roundoff * tenTo places := by
      have hdiff :
          ((roundUnits num scale * tenTo places : Nat) : ℚ) / scale - num / (scale * scale) * tenTo places =
          ((roundUnits num scale : ℚ) / scale - num / (scale * scale)) * tenTo places := by
        push_cast
        ring
      rw [hdiff, abs_mul, abs_of_pos hten]
      exact mul_le_mul_of_nonneg_right hfirst hten.le
    exact (abs_sub_le _ _ _).trans (add_le_add hsecond hmiddle)

/-- A product of three numbers up to one, two of them multiplied first, is a decimal off by a unit and a little. -/
lemma exists_decimal_twice (hplaces : places ≤ 15) {x y z : Binary64} (hx : x.isFinite = true)
    (hy : y.isFinite = true)
    (hz : z.isFinite = true) (hxone : |x.value| ≤ 1) (hyone : |y.value| ≤ 1) (hzone : |z.value| ≤ 1) :
    ∃ digits : Int, normalize (some places) (normalize (some places) (x * y) * z) = decimal places digits ∧
      |digits - x.value * y.value * z.value * tenTo places| ≤ 1 + 3 * (roundoff * tenTo places) := by
  have hten : (0 : ℚ) < tenTo places := by exact_mod_cast tenTo_pos places
  obtain ⟨inner, hinner, heq, hoff⟩ := exists_decimal hplaces hx hy hxone hyone
  obtain ⟨hfinite, hone, hread⟩ := value_decimal hplaces hinner
  obtain ⟨outer, -, heq', hoff'⟩ := exists_decimal hplaces hfinite hz hone hzone
  refine ⟨outer, by rw [heq, heq'], ?_⟩
  generalize (decimal places inner).value = p at hread hoff'
  have hshift : |p * tenTo places - inner| ≤ roundoff * tenTo places := by
    have hdiff : p * tenTo places - inner = (p - inner / tenTo places) * tenTo places := by field_simp
    rw [hdiff, abs_mul, abs_of_pos hten]
    exact mul_le_mul_of_nonneg_right hread hten.le
  have hbefore : |p * tenTo places - x.value * y.value * tenTo places| ≤
      roundoff * tenTo places + (1 / 2 + roundoff * tenTo places) :=
    (abs_sub_le _ _ _).trans (add_le_add hshift hoff)
  -- the third factor does not enlarge what the first rounding changed
  have hcarried : |p * z.value * tenTo places - x.value * y.value * z.value * tenTo places| ≤
      roundoff * tenTo places + (1 / 2 + roundoff * tenTo places) := by
    have hdiff : p * z.value * tenTo places - x.value * y.value * z.value * tenTo places =
        z.value * (p * tenTo places - x.value * y.value * tenTo places) := by ring
    rw [hdiff, abs_mul]
    exact (mul_le_of_le_one_left (abs_nonneg _) hzone).trans hbefore
  have htotal := (abs_sub_le _ _ _).trans (add_le_add hoff' hcarried)
  linarith

/-- Up to fifteen places, six roundoffs are less than a unit of the last place. -/
lemma six_roundoff_lt (hplaces : places ≤ 15) : 6 * (roundoff * tenTo places) < 1 := by
  have hten : tenTo places ≤ tenTo 15 := Nat.pow_le_pow_right (by decide) hplaces
  have hsmall : 6 * (twoTo 1021 * tenTo 15) < scale := by decide +kernel
  have hnat : 6 * (twoTo 1021 * tenTo places) < scale :=
    lt_of_le_of_lt (Nat.mul_le_mul_left 6 (Nat.mul_le_mul_left _ hten)) hsmall
  have hcast : (6 : ℚ) * (twoTo 1021 * tenTo places) < scale := by exact_mod_cast hnat
  have hquot : 6 * (roundoff * tenTo places) = 6 * (twoTo 1021 * tenTo places) / scale := by
    rw [roundoff]
    ring
  rw [hquot]
  exact (div_lt_one scale_cast_pos).2 hcast

/-- Two ways to group three factors up to one are decimals at most two units of the last place apart. -/
theorem exists_decimals (hplaces : places ≤ 15) {x y z : Binary64} (hx : x.isFinite = true) (hy : y.isFinite = true)
    (hz : z.isFinite = true) (hxone : |x.value| ≤ 1) (hyone : |y.value| ≤ 1) (hzone : |z.value| ≤ 1) :
    ∃ m n : Int, normalize (some places) (normalize (some places) (x * y) * z) = decimal places m ∧
      normalize (some places) (x * normalize (some places) (y * z)) = decimal places n ∧ |m - n| ≤ 2 := by
  obtain ⟨m, hm, hoffm⟩ := exists_decimal_twice hplaces hx hy hz hxone hyone hzone
  obtain ⟨n, hn, hoffn⟩ := exists_decimal_twice hplaces hy hz hx hyone hzone hxone
  refine ⟨m, n, hm, by rw [Binary64.mul_comm, hn], ?_⟩
  have hrotate : y.value * z.value * x.value = x.value * y.value * z.value := by ring
  rw [hrotate, abs_sub_comm] at hoffn
  have happart := (abs_sub_le _ _ _).trans (add_le_add hoffm hoffn)
  have hsix := six_roundoff_lt hplaces
  have hlt : |(m : ℚ) - n| < 3 := by linarith
  have hint : |m - n| < 3 := by exact_mod_cast hlt
  omega

/-! Products that are exact -/

/-- Pairs of numbers with the same exact product have the same product. -/
lemma mul_eq_of_value {x y x' y' : Binary64} (hx : x.isFinite = true) (hy : y.isFinite = true)
    (hx' : x'.isFinite = true) (hy' : y'.isFinite = true) (h : x.value * y.value = x'.value * y'.value) :
    x * y = x' * y' := by
  obtain ⟨u, hu, rfl⟩ := exists_finite hx
  obtain ⟨v, hv, rfl⟩ := exists_finite hy
  obtain ⟨u', hu', rfl⟩ := exists_finite hx'
  obtain ⟨v', hv', rfl⟩ := exists_finite hy'
  have hscale := scale_cast_pos
  have hcast : (u : ℚ) * v = u' * v' := by
    simp only [value] at h
    field_simp at h
    exact h
  have hunits : u * v = u' * v' := by exact_mod_cast hcast
  rw [finite_mul_finite, finite_mul_finite, hunits]

end Binary64

end ProductLine
