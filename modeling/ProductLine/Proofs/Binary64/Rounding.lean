import Mathlib.Algebra.Order.Ring.Abs
import Mathlib.Algebra.Order.Ring.Int
import Mathlib.Tactic.Linarith
import Mathlib.Tactic.Ring
import ProductLine.Binary64.Basic

/-!
# Rounding of binary64 numbers

Rounding to an integer picks the only one nearer than half a step, or the even one at half a step
(`nearest_eq_iff`), and rounding to significant digits comes as near as any number that has no more of them
(`roundUnits_nearest`). Together they give what the stored values of diagrams rely on: rounding to
decimal places twice is rounding once (`normalize_normalize`), although each rounding also rounds to a
binary64 number, and it treats both signs alike (`normalize_neg`). The integers that have a number are those whose
magnitude lies below two to the power of 1024 less half a step (`isSome_ofInt?_iff`).
-/

namespace ProductLine

namespace Binary64

/-- How far `count` steps of `den` are from `num`. -/
def gap (num den count : Nat) : Int := |(count * den : Int) - num|

/-- The nearest integer is at most half a step away, and even at half a step. -/
lemma nearest_spec (num : Nat) {den : Nat} (hd : 0 < den) :
    2 * gap num den (nearest num den) < den ∨
      2 * gap num den (nearest num den) = den ∧ nearest num den % 2 = 0 := by
  have hnum : (num : Int) = den * (num / den : Nat) + (num % den : Nat) := by
    exact_mod_cast (Nat.div_add_mod num den).symm
  have hmod : num % den < den := Nat.mod_lt _ hd
  rw [nearest]
  split
  · rename_i h
    have hgap : gap num den (num / den + 1) = den - (num % den : Nat) := by
      have : ((num / den + 1 : Nat) * den : Int) - num = den - (num % den : Nat) := by
        rw [hnum]
        push_cast
        ring
      rw [gap, this, abs_of_nonneg (by omega)]
    rw [hgap]
    omega
  · rename_i h
    have hgap : gap num den (num / den) = (num % den : Nat) := by
      have : ((num / den : Nat) * den : Int) - num = -(num % den : Nat) := by
        rw [hnum]
        ring
      rw [gap, this, abs_neg, abs_of_nonneg (by omega)]
    rw [hgap]
    omega

/-- Two counts are as many steps apart as lie between them. -/
lemma le_gap_add_gap (num den a b : Nat) : |(a : Int) - b| * den ≤ gap num den a + gap num den b := by
  have hsub : ((a : Int) - b) * den = (a * den - num) - (b * den - num) := by ring
  calc |(a : Int) - b| * den = |((a : Int) - b) * den| := by rw [abs_mul, Nat.abs_cast]
    _ ≤ gap num den a + gap num den b := by
      rw [hsub]
      exact abs_sub _ _

/-- A count nearer than half a step, or an even one at half a step, is the nearest integer. -/
lemma nearest_eq {num den q : Nat} (hd : 0 < den)
    (h : 2 * gap num den q < den ∨ 2 * gap num den q = den ∧ q % 2 = 0) : nearest num den = q := by
  have hspec := nearest_spec num hd
  have happart := le_gap_add_gap num den (nearest num den) q
  by_contra hne
  have hone : 1 ≤ |(nearest num den : Int) - q| := Int.one_le_abs (by omega)
  have htwo : ¬ 2 ≤ |(nearest num den : Int) - q| := by
    intro h2
    have : 2 * (den : Int) ≤ |(nearest num den : Int) - q| * den := by nlinarith
    omega
  have hodd : nearest num den % 2 ≠ q % 2 := by
    rcases abs_cases ((nearest num den : Int) - q) with ⟨h, _⟩ | ⟨h, _⟩ <;> omega
  have hgap : (den : Int) ≤ gap num den (nearest num den) + gap num den q := by nlinarith
  omega

/-- No count comes nearer than the nearest integer. -/
lemma gap_nearest_le {num den : Nat} (hd : 0 < den) (q : Nat) :
    gap num den (nearest num den) ≤ gap num den q := by
  have hspec := nearest_spec num hd
  by_cases hq : q = nearest num den
  · rw [hq]
  · have happart := le_gap_add_gap num den (nearest num den) q
    have hone : 1 ≤ |(nearest num den : Int) - q| := Int.one_le_abs (by omega)
    have hgap : (den : Int) ≤ gap num den (nearest num den) + gap num den q := by nlinarith
    omega

/-- Steps may be taken several at a time. -/
lemma gap_mul (num den scale q : Nat) : gap num (den * scale) q = gap num den (q * scale) := by
  simp only [gap]
  push_cast
  ring_nf

/-- Of the counts that do not go beyond the quotient, larger ones come nearer. -/
lemma gap_le_gap {num den a b : Nat} (hab : a ≤ b) (hb : b ≤ num / den) : gap num den b ≤ gap num den a := by
  have hbn : b * den ≤ num := le_trans (Nat.mul_le_mul_right den hb) (Nat.div_mul_le_self num den)
  have habn : a * den ≤ b * den := Nat.mul_le_mul_right den hab
  zify at hbn habn
  rw [gap, gap, abs_of_nonpos (by omega), abs_of_nonpos (by omega)]
  omega

/-- A positive number has its leading binary digit. -/
lemma twoTo_le_of_bitLength {n : Nat} (h : 0 < bitLength n) : twoTo (bitLength n - 1) ≤ n := by
  rw [bitLength] at h ⊢
  split at h
  · omega
  · rename_i hn
    rw [if_neg hn]
    exact Nat.log2_self_le hn

/-- A number of units kept by rounding is a multiple of what its excess digits count. -/
lemma dvd_of_roundUnits_eq {m : Nat} (h : roundUnits m 1 = m) : twoTo (excess m) ∣ m := by
  refine ⟨nearest m (twoTo (excess m)), ?_⟩
  conv_lhs => rw [← h]
  rw [roundUnits, Nat.div_one, Nat.one_mul, Nat.mul_comm]

/-- No exact number of units comes nearer to a quotient than the rounded one. -/
lemma roundUnits_nearest (num : Nat) {den m : Nat} (hd : 0 < den) (hm : roundUnits m 1 = m) :
    gap num den (roundUnits num den) ≤ gap num den m := by
  have hpos : 0 < den * twoTo (excess (num / den)) := Nat.mul_pos hd (twoTo_pos _)
  have hbest (q : Nat) : gap num den (roundUnits num den) ≤ gap num den (q * twoTo (excess (num / den))) := by
    rw [roundUnits, ← gap_mul, ← gap_mul]
    exact gap_nearest_le hpos q
  by_cases he : excess (num / den) ≤ excess m
  · -- then `m` stands on the grid of the rounded number
    obtain ⟨q, hq⟩ := Nat.dvd_trans (twoTo_dvd_twoTo he) (dvd_of_roundUnits_eq hm)
    rw [hq, Nat.mul_comm]
    exact hbest q
  · -- otherwise the grid has a number between `m` and the quotient
    have hbits : bitLength (num / den) = 53 + excess (num / den) := by
      rw [excess] at he ⊢
      omega
    have hlow : twoTo (52 + excess (num / den)) ≤ num / den := by
      have := twoTo_le_of_bitLength (n := num / den) (by omega)
      rwa [hbits, show 53 + excess (num / den) - 1 = 52 + excess (num / den) by omega] at this
    have hhigh : m ≤ twoTo (52 + excess (num / den)) := by
      refine le_trans (lt_twoTo_bitLength m).le (twoTo_le_twoTo ?_)
      unfold excess at he ⊢
      omega
    rw [twoTo_add] at hlow hhigh
    exact le_trans (hbest (twoTo 52)) (gap_le_gap hhigh hlow)

/-- A count of one step is as far from a count of another as the other way round. -/
lemma gap_comm (a b s t : Nat) : gap (a * s) t b = gap (b * t) s a := by
  rw [gap, gap, abs_sub_comm]
  push_cast
  rfl

/-- A number rounded to a grid and to significant digits goes to the same place of the grid again: the
second rounding moved it by no more than the first. -/
lemma nearest_roundUnits_nearest {m step den : Nat} (hs : 0 < step) (hd : 0 < den) (hm : roundUnits m 1 = m) :
    nearest (roundUnits (nearest (m * den) step * step) den * den) step = nearest (m * den) step := by
  have hgrid := nearest_spec (m * den) hs
  have hback := roundUnits_nearest (nearest (m * den) step * step) hd hm
  rw [gap_comm _ m] at hback
  refine nearest_eq hs ?_
  rw [gap_comm _ (nearest (m * den) step)]
  omega

/-- Nothing is rounded to nothing. -/
@[simp] lemma roundUnits_zero (den : Nat) : roundUnits 0 den = 0 := by
  simp [roundUnits, nearest]

/-- The limit is positive. -/
lemma limit_pos : 0 < limit := twoTo_pos _

/-- No units are the magnitude of a number. -/
lemma isExact_zero : IsExact 0 := ⟨roundUnits_zero 1, limit_pos⟩

/-- Nothing is zero, whatever sign is asked for. -/
lemma ofQuotient_zero (negative : Bool) (den : Nat) : ofQuotient negative 0 den = finite 0 isExact_zero := by
  simp [ofQuotient, limit_pos]

/-- Zero is the number of no units. -/
lemma zero_eq : zero = finite 0 isExact_zero := ofQuotient_zero false 1

/-- The negation of a magnitude that rounding keeps is one, too. -/
lemma isExact_neg {u : Int} (h : IsExact u.natAbs) : IsExact (-u).natAbs := by
  rwa [Int.natAbs_neg]

/-- A finite number is negated by negating its units. -/
lemma neg_finite {u : Int} (h : IsExact u.natAbs) : -finite u h = finite (-u) (isExact_neg h) := rfl

/-- There is only one zero. -/
@[simp] lemma neg_zero : -zero = zero := by
  rw [zero_eq, neg_finite]
  rfl

/-- Negating twice gives the number back. -/
@[simp] lemma neg_neg (x : Binary64) : - -x = x := by
  cases x with
  | finite u h => simp [neg_finite]
  | infinite s => exact congrArg infinite (Bool.not_not s)
  | nan => rfl

/-- A negation is a number exactly if what is negated is. -/
@[simp] lemma isNaN_neg (x : Binary64) : (-x).isNaN = x.isNaN := by
  cases x <;> rfl

/-- Only zero has zero as its negative. -/
lemma neg_eq_zero {x : Binary64} : -x = zero ↔ x = zero := by
  constructor
  · intro h
    calc x = - -x := (neg_neg x).symm
      _ = -zero := congrArg _ h
      _ = zero := neg_zero
  · intro h
    rw [h, neg_zero]

/-- Turning the sign of a rounded quotient around is rounding with the other sign. -/
lemma ofQuotient_not (negative : Bool) (num den : Nat) :
    ofQuotient (!negative) num den = -ofQuotient negative num den := by
  unfold ofQuotient
  split
  · cases negative <;> simp [neg_finite]
  · rfl

/-- Zero stays zero at any number of places. -/
lemma roundPlaces_zero (places : Nat) : roundPlaces places zero = zero := by
  rw [zero_eq]
  simp only [roundPlaces]
  split
  · rfl
  · simp [nearest, ofQuotient_zero]

/-- Rounding to places treats both signs alike. -/
lemma roundPlaces_neg (places : Nat) (x : Binary64) : roundPlaces places (-x) = -roundPlaces places x := by
  by_cases hx : x = zero
  · rw [hx, neg_zero, roundPlaces_zero, neg_zero]
  cases x with
  | finite u h =>
    by_cases hp : 323 < places
    · simp [roundPlaces, neg_finite, hp]
    · have hu : u ≠ 0 := by
        rintro rfl
        exact hx zero_eq.symm
      have hsign : decide (-u < 0) = !decide (u < 0) := by
        rw [← decide_not, decide_eq_decide]
        omega
      simp only [neg_finite, roundPlaces, if_neg hp, hsign, Int.natAbs_neg, ofQuotient_not]
  | infinite s => rfl
  | nan => rfl

/-- A rounded quotient is rounded to places by its magnitude, whatever its sign. -/
lemma roundPlaces_ofQuotient {places num den : Nat} (hp : ¬ 323 < places) (negative : Bool)
    (hlimit : roundUnits num den < limit) : roundPlaces places (ofQuotient negative num den) =
      ofQuotient negative (nearest (roundUnits num den * tenTo places) scale * scale) (tenTo places) := by
  rcases Nat.eq_zero_or_pos (roundUnits num den) with hzero | hpos
  · have hnothing : ofQuotient negative num den = zero := by
      rw [zero_eq]
      simp [ofQuotient, hzero, limit_pos]
    have hnearest : nearest (0 * tenTo places) scale = 0 := by simp [nearest]
    rw [hnothing, roundPlaces_zero, hzero, hnearest, Nat.zero_mul, ofQuotient_zero, zero_eq]
  · have hsign :
        decide ((if negative then -(roundUnits num den : Int) else roundUnits num den) < 0) = negative := by
      cases negative with
      | false => simp
      | true => simpa using hpos
    have habs :
        (if negative then -(roundUnits num den : Int) else roundUnits num den).natAbs = roundUnits num den := by
      cases negative <;> simp
    conv_lhs => rw [ofQuotient, dif_pos hlimit, roundPlaces, if_neg hp, hsign, habs]

/-- Rounding a rounded quotient to places changes nothing if its magnitude goes back to the same quotient. -/
lemma roundPlaces_ofQuotient_self {places num : Nat} (hp : ¬ 323 < places) (negative : Bool)
    (h : nearest (roundUnits num (tenTo places) * tenTo places) scale * scale = num) :
    roundPlaces places (ofQuotient negative num (tenTo places)) = ofQuotient negative num (tenTo places) := by
  by_cases hlimit : roundUnits num (tenTo places) < limit
  · rw [roundPlaces_ofQuotient hp negative hlimit, h]
  · simp [ofQuotient, hlimit, roundPlaces]

/-- Rounding to places twice is rounding once. -/
lemma roundPlaces_roundPlaces (places : Nat) (x : Binary64) :
    roundPlaces places (roundPlaces places x) = roundPlaces places x := by
  cases x with
  | finite u h =>
    by_cases hp : 323 < places
    · simp [roundPlaces, hp]
    · have hten : 0 < tenTo places := Nat.pow_pos (by decide)
      have hgrid := nearest_roundUnits_nearest (twoTo_pos 1074) hten h.1
      have hround : roundPlaces places (finite u h) =
          ofQuotient (decide (u < 0)) (nearest (u.natAbs * tenTo places) scale * scale) (tenTo places) := by
        simp [roundPlaces, hp]
      rw [hround]
      exact roundPlaces_ofQuotient_self hp _ (congrArg (· * scale) hgrid)
  | infinite s => rfl
  | nan => rfl

/-- A whole number of steps is rounded like the steps alone. -/
lemma roundUnits_mul {m den : Nat} (hd : 0 < den) (hm : roundUnits m 1 = m) : roundUnits (m * den) den = m := by
  obtain ⟨q, hq⟩ := dvd_of_roundUnits_eq hm
  have hstep : den * twoTo (excess m) ∣ m * den := ⟨q, by
    conv_lhs => rw [hq]
    ring⟩
  have hpos : 0 < den * twoTo (excess m) := Nat.mul_pos hd (twoTo_pos _)
  rw [roundUnits, Nat.mul_div_cancel _ hd, nearest_of_dvd hpos hstep, Nat.mul_comm m, Nat.mul_div_mul_left _ _ hd]
  exact Nat.div_mul_cancel (dvd_of_roundUnits_eq hm)

/-- A quotient with the sign of a number that rounds to its magnitude is that number. -/
lemma ofQuotient_eq_finite {u : Int} (h : IsExact u.natAbs) {num den : Nat}
    (hround : roundUnits num den = u.natAbs) : ofQuotient (decide (u < 0)) num den = finite u h := by
  have hlimit : roundUnits num den < limit := by
    rw [hround]
    exact h.2
  have hunits : (if decide (u < 0) then -(roundUnits num den : Int) else roundUnits num den) = u := by
    rw [hround]
    split
    · rename_i hu
      have hneg : u < 0 := of_decide_eq_true hu
      omega
    · rename_i hu
      have hpos : ¬ u < 0 := fun hneg => hu (decide_eq_true hneg)
      omega
  rw [ofQuotient, dif_pos hlimit]
  simp only [hunits]

/-- The units in one are more than none. -/
lemma scale_pos : 0 < scale := twoTo_pos 1074

/-- The units in one are rounded to themselves. -/
lemma roundUnits_scale : roundUnits scale 1 = scale := by
  have h := roundUnits_of_significand (m := 1) (s := 1074) (twoTo_pos 53)
  rwa [Nat.one_mul] at h

/-- One is in the range of finite numbers. -/
lemma scale_lt_limit : scale < limit := twoTo_lt_twoTo (by decide)

/-- The units in one are the magnitude of a number. -/
lemma isExact_scale : IsExact (scale : Int).natAbs := by
  rw [Int.natAbs_natCast]
  exact ⟨roundUnits_scale, scale_lt_limit⟩

/-- One is the number of so many units. -/
lemma one_eq : one = finite scale isExact_scale := by
  have hsign : decide ((scale : Int) < 0) = false := decide_eq_false (Int.not_lt.2 (Int.natCast_nonneg scale))
  rw [one, ← hsign]
  exact ofQuotient_eq_finite isExact_scale (by rw [Int.natAbs_natCast, roundUnits_scale])

/-- One is not zero. -/
lemma one_ne_zero : one ≠ zero := by
  rw [one_eq, zero_eq]
  intro h
  injection h with h
  have := scale_pos
  omega

/-- Integers stay what they are at any number of places. -/
lemma roundPlaces_of_dvd (places : Nat) {u : Int} (h : IsExact u.natAbs) (hdvd : scale ∣ u.natAbs) :
    roundPlaces places (finite u h) = finite u h := by
  rw [roundPlaces]
  split
  · rfl
  · have hten : 0 < tenTo places := Nat.pow_pos (by decide)
    have hmul : scale ∣ u.natAbs * tenTo places := Dvd.dvd.mul_right hdvd _
    have hnearest : nearest (u.natAbs * tenTo places) scale * scale = u.natAbs * tenTo places := by
      rw [nearest_of_dvd scale_pos hmul, Nat.div_mul_cancel hmul]
    rw [hnearest]
    exact ofQuotient_eq_finite h (roundUnits_mul hten h.1)

/-- Whole numbers are kept however few places there are. -/
lemma normalize_of_dvd (places : Option Nat) {u : Int} (h : IsExact u.natAbs) (hdvd : scale ∣ u.natAbs) :
    normalize places (finite u h) = finite u h := by
  cases places with
  | none => rfl
  | some n => exact roundPlaces_of_dvd n h hdvd

/-- Rounding to places keeps zero. -/
@[simp] lemma normalize_zero (places : Option Nat) : normalize places zero = zero := by
  cases places with
  | none => rfl
  | some n => exact roundPlaces_zero n

/-- Rounding to places keeps one. -/
@[simp] lemma normalize_one (places : Option Nat) : normalize places one = one := by
  rw [one_eq]
  exact normalize_of_dvd places isExact_scale (by rw [Int.natAbs_natCast])

/-- Rounding to places commutes with negation. -/
theorem normalize_neg (places : Option Nat) (x : Binary64) : normalize places (-x) = -normalize places x := by
  cases places with
  | none => rfl
  | some n => exact roundPlaces_neg n x

/-- What is rounded to places is kept by rounding to these places. -/
theorem normalize_normalize (places : Option Nat) (x : Binary64) :
    normalize places (normalize places x) = normalize places x := by
  cases places with
  | none => rfl
  | some n => exact roundPlaces_roundPlaces n x

/-! Neutral numbers -/

/-- The product of finite numbers is the rounded product of their units. -/
lemma finite_mul_finite {u v : Int} (hu : IsExact u.natAbs) (hv : IsExact v.natAbs) :
    finite u hu * finite v hv = ofQuotient (decide (u * v < 0)) (u * v).natAbs scale := by
  show mul (finite u hu) (finite v hv) = _
  rw [mul]

/-- The sum of finite numbers is the rounded sum of their units. -/
lemma finite_add_finite {u v : Int} (hu : IsExact u.natAbs) (hv : IsExact v.natAbs) :
    finite u hu + finite v hv = ofQuotient (decide (u + v < 0)) (u + v).natAbs 1 := by
  show add (finite u hu) (finite v hv) = _
  rw [add, ofUnits]

/-- An infinity times a positive number stays what it is. -/
lemma infinite_mul_finite {negative : Bool} {v : Int} (hv : IsExact v.natAbs) (hpos : 0 < v) :
    infinite negative * finite v hv = infinite negative := by
  have hne : v ≠ 0 := by omega
  have hsign : decide (v < 0) = false := decide_eq_false (by omega)
  have hscale : infinite negative * finite v hv = scaleInfinity negative v := rfl
  rw [hscale, scaleInfinity, if_neg hne, hsign, Bool.bne_false]

/-- One is neutral on the right of a product. -/
protected theorem mul_one (x : Binary64) : x * one = x := by
  have hscale : (0 : Int) < scale := by
    have := scale_pos
    omega
  rw [one_eq]
  cases x with
  | finite u h =>
    have habs : (u * (scale : Int)).natAbs = u.natAbs * scale := by
      rw [Int.natAbs_mul, Int.natAbs_natCast]
    have hsign : decide (u * (scale : Int) < 0) = decide (u < 0) := by
      rw [decide_eq_decide]
      constructor
      · intro h
        by_contra hneg
        exact absurd (Int.mul_nonneg (Int.not_lt.1 hneg) hscale.le) (Int.not_le.2 h)
      · exact fun h => Int.mul_neg_of_neg_of_pos h hscale
    rw [finite_mul_finite, habs, hsign]
    exact ofQuotient_eq_finite h (roundUnits_mul scale_pos h.1)
  | infinite negative => exact infinite_mul_finite _ hscale
  | nan => rfl

/-- Zero is neutral on the left of a sum. -/
protected theorem zero_add (x : Binary64) : zero + x = x := by
  rw [zero_eq]
  cases x with
  | finite u h =>
    rw [finite_add_finite, Int.zero_add]
    exact ofQuotient_eq_finite h h.1
  | infinite s => rfl
  | nan => rfl

/-- Zero is neutral on the right of a sum. -/
protected theorem add_zero (x : Binary64) : x + zero = x := by
  rw [zero_eq]
  cases x with
  | finite u h =>
    rw [finite_add_finite, Int.add_zero]
    exact ofQuotient_eq_finite h h.1
  | infinite s => rfl
  | nan => rfl

/-! Integers in range -/

/-- Rounding stays below a power of two exactly if the number lies below the middle between it and the number of 53
digits before it. -/
lemma roundUnits_lt_iff (q k : Nat) : roundUnits q 1 < twoTo (54 + k) ↔ q + twoTo k < twoTo (54 + k) := by
  have hk := twoTo_pos k
  have hstep : twoTo (k + 1) = 2 * twoTo k := by rw [Nat.add_comm, twoTo_add]; rfl
  have hlimit : twoTo (54 + k) = twoTo 53 * twoTo (k + 1) := by
    rw [← twoTo_add]
    congr 1
    omega
  rw [roundUnits, Nat.div_one, Nat.one_mul]
  rcases Nat.lt_trichotomy (bitLength q) (54 + k) with hbits | hbits | hbits
  · -- a number with fewer digits lies below, and so does the power of two it may be rounded to
    have hexcess : twoTo (excess q) ≤ twoTo k := twoTo_le_twoTo (by unfold excess; omega)
    have hnearest : nearest q (twoTo (excess q)) ≤ twoTo 53 := by simpa using nearest_excess_le q 1
    have hround := Nat.mul_le_mul hnearest hexcess
    have hq : q < twoTo 53 * twoTo k := by
      rw [← twoTo_add]
      exact Nat.lt_of_lt_of_le (lt_twoTo_bitLength q) (twoTo_le_twoTo (by omega))
    have hone : twoTo k ≤ twoTo 53 * twoTo k := Nat.le_mul_of_pos_left _ (twoTo_pos 53)
    rw [hlimit, hstep, Nat.mul_left_comm]
    generalize twoTo 53 * twoTo k = bound at *
    omega
  · -- with just as many digits, it is rounded up from the middle on
    have hexcess : excess q = k + 1 := by unfold excess; omega
    rw [hexcess, hlimit, Nat.mul_lt_mul_right (twoTo_pos _)]
    have hdigits : q < twoTo 53 * twoTo (k + 1) := by
      rw [← hlimit, ← hbits]
      exact lt_twoTo_bitLength q
    have hmod := Nat.mod_lt q (twoTo_pos (k + 1))
    have hdiv := Nat.div_add_mod q (twoTo (k + 1))
    have hquot : q / twoTo (k + 1) < twoTo 53 := Nat.div_lt_of_lt_mul (by rwa [Nat.mul_comm])
    have heven : twoTo 53 % 2 = 0 := by decide
    unfold nearest
    rw [hstep] at *
    generalize q / (2 * twoTo k) = a at *
    generalize q % (2 * twoTo k) = b at *
    by_cases ha : a + 1 = twoTo 53
    · rw [← ha] at heven ⊢
      have hmul : 2 * twoTo k * a + 2 * twoTo k = (a + 1) * (2 * twoTo k) := by ring
      rw [← hdiv, ← hmul]
      split <;> omega
    · have hmul := Nat.mul_le_mul_right (2 * twoTo k) (show a + 2 ≤ twoTo 53 by omega)
      have hsplit : (a + 2) * (2 * twoTo k) = 2 * twoTo k * a + 4 * twoTo k := by ring
      split <;> omega
  · -- a number with more digits is not rounded below its leading one
    have hlead := twoTo_le_of_bitLength (n := q) (by omega)
    have hpow : twoTo (bitLength q - 1) = twoTo 52 * twoTo (excess q) := by
      rw [← twoTo_add]
      congr 1
      unfold excess
      omega
    have hmore : twoTo (54 + k) ≤ twoTo (bitLength q - 1) := twoTo_le_twoTo (by omega)
    have hquot : twoTo 52 ≤ q / twoTo (excess q) := by
      rw [Nat.le_div_iff_mul_le (twoTo_pos _), ← hpow]
      exact hlead
    have hround := Nat.mul_le_mul_right (twoTo (excess q)) (Nat.le_trans hquot (le_nearest q (twoTo (excess q))))
    omega

/-- A quotient is a finite number exactly if it is rounded to one below the limit. -/
lemma isFinite_ofQuotient (negative : Bool) (num den : Nat) :
    (ofQuotient negative num den).isFinite = true ↔ roundUnits num den < limit := by
  rw [ofQuotient]
  split
  · rename_i h
    exact ⟨fun _ => h, fun _ => rfl⟩
  · rename_i h
    exact ⟨nofun, fun h' => absurd h' h⟩

/-- A number is kept as a finite one exactly if it is finite. -/
lemma isSome_finite? (x : Binary64) : x.finite?.isSome = x.isFinite := by
  cases x with
  | finite => rfl
  | infinite => rfl
  | nan => rfl

/-- An integer has a number exactly if it lies below the middle between the largest number and the power of two that
follows. -/
theorem isSome_ofInt?_iff (n : Int) : (ofInt? n).isSome = true ↔ n.natAbs + twoTo 970 < twoTo 1024 := by
  have hshift (k : Nat) : twoTo (k + 1074) = twoTo k * scale := twoTo_add k 1074
  have hlimit : limit = twoTo (54 + 2044) := congrArg twoTo (by decide)
  rw [ofInt?, isSome_finite?, isFinite_ofQuotient, hlimit, roundUnits_lt_iff,
    show 54 + 2044 = 1024 + 1074 by decide, show 2044 = 970 + 1074 by decide, hshift, hshift, ← Nat.add_mul]
  exact Nat.mul_lt_mul_right scale_pos

end Binary64

end ProductLine
