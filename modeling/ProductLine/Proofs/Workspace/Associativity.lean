import ProductLine.Proofs.Binary64.Precision
import ProductLine.Proofs.Workspace.Arithmetic

/-!
# Factors that are grouped

Every product of diagrams is rounded, so it matters how three factors are grouped: a small product may be
rounded to zero and then cannot be enlarged again (`Workspace.exists_regrouped_apart`). That is all that
regrouping changes. The two ways agree at every product where the inner products are exact, and at products
where all values lie between minus one and one, as reliabilities do, they differ by two units of the last
place at most (`Workspace.regroups_of_finite`).
-/

namespace ProductLine

namespace Owner

variable {owner : Owner} {x y z : Binary64}

/-- Whether rounding leaves the product of two numbers as it is. -/
structure KeepsProduct (owner : Owner) (x y : Binary64) : Prop where
  finite : (owner.product x y).isFinite = true
  exact : (owner.product x y).value = x.value * y.value

/-- Products of finite numbers need no exception for zero. -/
lemma product_of_isFinite (hx : x.isFinite = true) (hy : y.isFinite = true) :
    owner.product x y = owner.normalize (x * y) :=
  (owner.product_eq_iff (Binary64.isNaN_of_isFinite hx) (Binary64.isNaN_of_isFinite hy)).2
    ⟨fun _ => hy, fun _ => hx⟩

/-- If the inner products are exact, both ways to group have the same product left to round. -/
lemma KeepsProduct.product_product (hx : x.isFinite = true) (hz : z.isFinite = true)
    (hxy : owner.KeepsProduct x y) (hyz : owner.KeepsProduct y z) :
    owner.product (owner.product x y) z = owner.product x (owner.product y z) := by
  rw [product_of_isFinite hxy.finite hz, product_of_isFinite hx hyz.finite]
  congr 1
  apply Binary64.mul_eq_of_value hxy.finite hz hx hyz.finite
  rw [hxy.exact, hyz.exact, mul_assoc]

/-- A product of numbers up to one is finite. -/
lemma isFinite_product {places : Nat} (hplaces : owner.places = some places) (hle : places ≤ 15)
    (hx : x.isFinite = true) (hy : y.isFinite = true) (hxone : |x.value| ≤ 1) (hyone : |y.value| ≤ 1) :
    (owner.product x y).isFinite = true := by
  obtain ⟨digits, hdigits, heq, -⟩ := Binary64.exists_decimal hle hx hy hxone hyone
  rw [product_of_isFinite hx hy, normalize, hplaces, heq]
  exact (Binary64.value_decimal hle hdigits).1

/-- Two ways to group three factors up to one are decimals at most two units of the last place apart. -/
lemma exists_decimals {places : Nat} (hplaces : owner.places = some places) (hle : places ≤ 15)
    (hx : x.isFinite = true) (hy : y.isFinite = true) (hz : z.isFinite = true) (hxone : |x.value| ≤ 1)
    (hyone : |y.value| ≤ 1) (hzone : |z.value| ≤ 1) :
    ∃ m n : Int, owner.product (owner.product x y) z = .decimal places m ∧
      owner.product x (owner.product y z) = .decimal places n ∧ |m - n| ≤ 2 := by
  have hxy := isFinite_product hplaces hle hx hy hxone hyone
  have hyz := isFinite_product hplaces hle hy hz hyone hzone
  rw [product_of_isFinite hxy hz, product_of_isFinite hx hyz, product_of_isFinite hx hy, product_of_isFinite hy hz]
  simp only [normalize, hplaces]
  exact Binary64.exists_decimals hle hx hy hz hxone hyone hzone

end Owner

namespace Workspace

variable {settings : Settings} {serial : Nat} {w : Workspace} {a b c : Diagram}

/-- Whatever is done in a workspace, its owner stays the same. -/
lemma owner_of_run (h : (fresh settings serial).Run w) : w.space.owner = ⟨serial, settings.places⟩ :=
  ((Canonical.fresh settings serial).run h).space.owner

/-- The two ways to multiply three diagrams have the two ways to multiply their values at each product. -/
lemma computes_mul_mul (hw : w.Canonical) (ha : a ∈ w.diagrams) (hb : b ∈ w.diagrams) (hc : c ∈ w.diagrams) :
    Computes w.space (Operation.mul.on (Operation.mul.on (.ok a) (.ok b)) (.ok c)) (fun x =>
        w.space.owner.product (w.space.owner.product (a.evaluate w.space x) (b.evaluate w.space x))
          (c.evaluate w.space x)) ∧
      Computes w.space (Operation.mul.on (.ok a) (Operation.mul.on (.ok b) (.ok c))) fun x =>
        w.space.owner.product (a.evaluate w.space x)
          (w.space.owner.product (b.evaluate w.space x) (c.evaluate w.space x)) :=
  ⟨(computes_mul hw ha hb).on hw.nodup (computes_ok (hw.diagrams c hc)) fun _ => rfl,
    (computes_ok (hw.diagrams a ha)).on hw.nodup (computes_mul hw hb hc) fun _ => rfl⟩

/-- Three diagrams made in a feature space whose values are finite can be multiplied in two ways, and each has
at every product the rounded product of a rounded product. They are one diagram exactly if these agree at
every product. They do agree where both inner products are exact. With up to fifteen places they are, where
the three values lie between minus one and one, decimals that differ by two units of the last place at most. -/
theorem regroups_of_finite (h : (fresh settings serial).Run w) (ha : a ∈ w.diagrams) (hb : b ∈ w.diagrams)
    (hc : c ∈ w.diagrams) (hfinitea : ∀ v ∈ a.terminals, v.isFinite = true)
    (hfiniteb : ∀ v ∈ b.terminals, v.isFinite = true) (hfinitec : ∀ v ∈ c.terminals, v.isFinite = true) :
    ∃ l r, Operation.mul.on (Operation.mul.on (.ok a) (.ok b)) (.ok c) = .ok l ∧
      Operation.mul.on (.ok a) (Operation.mul.on (.ok b) (.ok c)) = .ok r ∧
      (∀ x, l.evaluate w.space x = w.space.owner.product
          (w.space.owner.product (a.evaluate w.space x) (b.evaluate w.space x)) (c.evaluate w.space x) ∧
        r.evaluate w.space x = w.space.owner.product (a.evaluate w.space x)
          (w.space.owner.product (b.evaluate w.space x) (c.evaluate w.space x))) ∧
      (SameDiagram (.ok l) (.ok r) ↔ ∀ x, l.evaluate w.space x = r.evaluate w.space x) ∧
      (∀ x, w.space.owner.KeepsProduct (a.evaluate w.space x) (b.evaluate w.space x) →
        w.space.owner.KeepsProduct (b.evaluate w.space x) (c.evaluate w.space x) →
        l.evaluate w.space x = r.evaluate w.space x) ∧
      ∀ places, settings.places = some places → places ≤ 15 → ∀ x, |(a.evaluate w.space x).value| ≤ 1 →
        |(b.evaluate w.space x).value| ≤ 1 → |(c.evaluate w.space x).value| ≤ 1 →
        ∃ m n : Int, l.evaluate w.space x = .decimal places m ∧ r.evaluate w.space x = .decimal places n ∧
          |m - n| ≤ 2 := by
  have hw := canonical_of_run h
  have howner := owner_of_run h
  have ha' (x : String → Bool) := isFinite_valueAt (hw.diagrams a ha).wellFormed hfinitea (w.space.product x)
  have hb' (x : String → Bool) := isFinite_valueAt (hw.diagrams b hb).wellFormed hfiniteb (w.space.product x)
  have hc' (x : String → Bool) := isFinite_valueAt (hw.diagrams c hc).wellFormed hfinitec (w.space.product x)
  obtain ⟨⟨l, hl, hcanonicall, hvaluel⟩, r, hr, hcanonicalr, hvaluer⟩ := computes_mul_mul hw ha hb hc
  refine ⟨l, r, hl, hr, fun x => ⟨hvaluel x, hvaluer x⟩, ?_, ?_, ?_⟩
  · have hsame := (computes_ok hcanonicall).same_iff hw.nodup (computes_ok hcanonicalr)
    -- products of finite values are no NaN, which alone is unequal to itself
    have hnumber (x : String → Bool) : (l.evaluate w.space x).isNaN = false := by
      rw [hvaluel]
      apply Owner.isNaN_product
      · exact Owner.isNaN_product _ (Binary64.isNaN_of_isFinite (ha' x)) (Binary64.isNaN_of_isFinite (hb' x))
      · exact Binary64.isNaN_of_isFinite (hc' x)
    exact hsame.trans (forall_congr' fun x => and_iff_left (hnumber x))
  · intro x hab hbc
    rw [hvaluel, hvaluer]
    exact hab.product_product (ha' x) (hc' x) hbc
  · intro places hplaces hle x hx hy hz
    have hkept : w.space.owner.places = some places := by rw [howner, hplaces]
    rw [hvaluel, hvaluer]
    exact Owner.exists_decimals hkept hle (ha' x) (hb' x) (hc' x) hx hy hz

/-- For example, diagrams may be made of two numbers. -/
lemma exists_run_constants (u v : Binary64) : ∃ w, (fresh .standard 0).Run w ∧
    Diagram.constant w.space.owner u ∈ w.diagrams ∧ Diagram.constant w.space.owner v ∈ w.diagrams :=
  ⟨_, .tail (.single (.made (.constant u))) (.made (.constant v)), List.mem_cons_of_mem _ List.mem_cons_self,
    List.mem_cons_self⟩

/-- A constant diagram has its number, rounded to twelve places, at every product. -/
lemma evaluate_constant (h : (fresh .standard serial).Run w) (v : Binary64) (x : String → Bool) :
    (Diagram.constant w.space.owner v).evaluate w.space x = v.normalize (some 12) := by
  rw [Diagram.evaluate, Diagram.valueAt_constant, owner_of_run h]
  rfl

/-- The theorem applies, for example, to a tenth, itself and seven tenths. -/
theorem regroups_of_finite_tenths : ∃ w a c l r, (fresh .standard 0).Run w ∧ a ∈ w.diagrams ∧ c ∈ w.diagrams ∧
    (∀ v ∈ a.terminals, v.isFinite = true) ∧ (∀ v ∈ c.terminals, v.isFinite = true) ∧
    Operation.mul.on (Operation.mul.on (.ok a) (.ok a)) (.ok c) = .ok l ∧
    Operation.mul.on (.ok a) (Operation.mul.on (.ok a) (.ok c)) = .ok r ∧
    ∀ x, ∃ m n : Int,
      l.evaluate w.space x = .decimal 12 m ∧ r.evaluate w.space x = .decimal 12 n ∧ |m - n| ≤ 2 := by
  obtain ⟨w, hrun, htenth, hseven⟩ := exists_run_constants (.ofDecimal false 1 (-1)) (.ofDecimal false 7 (-1))
  have hw := canonical_of_run hrun
  have hfinitea := isFinite_of_mem_terminals hw htenth fun x => by
    rw [evaluate_constant hrun]
    decide +kernel
  have hfinitec := isFinite_of_mem_terminals hw hseven fun x => by
    rw [evaluate_constant hrun]
    decide +kernel
  obtain ⟨l, r, hl, hr, _, _, _, hnear⟩ := regroups_of_finite hrun htenth htenth hseven hfinitea hfinitea hfinitec
  refine ⟨w, _, _, l, r, hrun, htenth, hseven, hfinitea, hfinitec, hl, hr, fun x => ?_⟩
  have hsmall : |(Binary64.normalize (some 12) (.ofDecimal false 1 (-1))).value| ≤ 1 := by decide +kernel
  have hlarge : |(Binary64.normalize (some 12) (.ofDecimal false 7 (-1))).value| ≤ 1 := by decide +kernel
  rw [← evaluate_constant hrun _ x] at hsmall hlarge
  exact hnear 12 rfl (by decide) x hsmall hsmall hlarge

/-- A ten-millionth times itself is rounded to zero, and times ten million zero it stays. Times ten million
first it is one, and times that the ten-millionth remains. -/
theorem exists_regrouped_apart : ∃ w a c, (fresh .standard 0).Run w ∧ a ∈ w.diagrams ∧ c ∈ w.diagrams ∧
    a = .constant w.space.owner (.ofDecimal false 1 (-7)) ∧ c = .constant w.space.owner (.ofDecimal false 1 7) ∧
    (∀ v ∈ a.terminals, v.isFinite = true) ∧ (∀ v ∈ c.terminals, v.isFinite = true) ∧
    ¬ SameDiagram (Operation.mul.on (Operation.mul.on (.ok a) (.ok a)) (.ok c))
      (Operation.mul.on (.ok a) (Operation.mul.on (.ok a) (.ok c))) := by
  obtain ⟨w, hrun, hsmall, hlarge⟩ := exists_run_constants (.ofDecimal false 1 (-7)) (.ofDecimal false 1 7)
  have hw := canonical_of_run hrun
  refine ⟨w, _, _, hrun, hsmall, hlarge, rfl, rfl, ?_, ?_, ?_⟩
  · refine isFinite_of_mem_terminals hw hsmall fun x => ?_
    rw [evaluate_constant hrun]
    decide +kernel
  · refine isFinite_of_mem_terminals hw hlarge fun x => ?_
    rw [evaluate_constant hrun]
    decide +kernel
  · obtain ⟨hl, hr⟩ := computes_mul_mul hw hsmall hsmall hlarge
    intro hsame
    have hvalues := ((hl.same_iff hw.nodup hr).1 hsame fun _ => false).1
    simp only [evaluate_constant hrun] at hvalues
    rw [owner_of_run hrun] at hvalues
    revert hvalues
    decide +kernel

end Workspace

end ProductLine
