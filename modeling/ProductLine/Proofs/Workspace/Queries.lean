import ProductLine.Proofs.Diagram.Queries
import ProductLine.Proofs.Workspace

/-!
# Asking diagrams made in a feature space

However a diagram was made, what it answers when asked for its values, its features and its kind is true of
the function that it is (`Workspace.queries_of_run`).
-/

namespace ProductLine

namespace Workspace

variable {settings : Settings} {serial : Nat} {w : Workspace} {d : Diagram}

/-- A diagram made in a feature space that takes no value that is no number lists its values in strictly
ascending order, and these are the values that it has at products, zero among them exactly if it is one of
these. It is constant exactly if it has one value at all products, and boolean exactly if it has none but zero
and one. Its support has the features that change the value of some product when they alone are given or
taken, and products with the same features of the support have the same value. -/
theorem queries_of_run (h : (fresh settings serial).Run w) (hd : d ∈ w.diagrams) (hnan : d.hasNaN = false) :
    (d.terminals.Pairwise (fun u v => Binary64.lt u v = true) ∧
      ∀ v, v ∈ d.terminals ↔ ∃ x, d.evaluate w.space x = v) ∧
    (d.isConstant = true ↔ ∃ v, ∀ x, d.evaluate w.space x = v) ∧
    (d.isBoolean = true ↔ ∀ x, d.evaluate w.space x = .zero ∨ d.evaluate w.space x = .one) ∧
    (∀ name, name ∈ d.support w.space ↔
      ∃ x y, (∀ other, other ≠ name → x other = y other) ∧ d.evaluate w.space x ≠ d.evaluate w.space y) ∧
    ∀ x y, (∀ name ∈ d.support w.space, x name = y name) → d.evaluate w.space x = d.evaluate w.space y := by
  have hw := canonical_of_run h
  have hcanonical := hw.diagrams d hd
  refine ⟨⟨hcanonical.pairwise_terminals hnan, fun v => hcanonical.mem_terminals hw.nodup⟩, ?_, ?_, ?_, ?_⟩
  · exact hcanonical.isConstant_iff hw.nodup hnan
  · exact hcanonical.isBoolean_iff hw.nodup
  · exact fun name => hcanonical.mem_support hw.nodup hnan
  · exact fun x y hxy => hcanonical.evaluate_congr hxy

/-- The theorem applies, for example, to the diagram of a feature: it takes zero, which it does not store, and
one, and depends on this feature only. -/
theorem queries_of_run_feature : ∃ w d, (fresh .standard 0).Run w ∧ d ∈ w.diagrams ∧ d.hasNaN = false ∧
    .zero ∈ d.terminals ∧ .one ∈ d.terminals ∧ d.isConstant = false ∧ d.isBoolean = true ∧
    ∀ name, name ∈ d.support w.space ↔ name = "a" := by
  obtain ⟨w, hrun, hmem, hmade⟩ := exists_run_feature
  have hnan := hasNaN_ofRegion w.space.owner (.feature (w.space.level "a"))
  have hvalue (x : String → Bool) : (Diagram.ofFeature w.space "a").evaluate w.space x =
      if x "a" then .one else .zero := by
    rw [Diagram.evaluate, Diagram.ofFeature, Diagram.valueAt_ofRegion, Region.holds_feature,
      FeatureSpace.product_level hmem]
  have hwith {x : String → Bool} (hx : x "a" = true) :
      (Diagram.ofFeature w.space "a").evaluate w.space x = .one := by
    rw [hvalue, if_pos hx]
  have hwithout {x : String → Bool} (hx : x "a" = false) :
      (Diagram.ofFeature w.space "a").evaluate w.space x = .zero := by
    rw [hvalue, if_neg (by simp [hx])]
  obtain ⟨⟨_, hterminals⟩, hconstant, hboolean, hsupport, _⟩ := queries_of_run hrun hmade hnan
  refine ⟨w, _, hrun, hmade, hnan, ?_, ?_, ?_, ?_, fun name => ?_⟩
  · exact (hterminals _).2 ⟨fun _ => false, hwithout rfl⟩
  · exact (hterminals _).2 ⟨fun _ => true, hwith rfl⟩
  · rw [← Bool.not_eq_true, hconstant]
    rintro ⟨v, hv⟩
    have hone : Binary64.one = v := (hwith (x := fun _ => true) rfl).symm.trans (hv _)
    have hzero : Binary64.zero = v := (hwithout (x := fun _ => false) rfl).symm.trans (hv _)
    exact Binary64.one_ne_zero (hone.trans hzero.symm)
  · apply hboolean.2
    intro x
    cases hx : x "a" with
    | false => exact .inl (hwithout hx)
    | true => exact .inr (hwith hx)
  · rw [hsupport]
    constructor
    · rintro ⟨x, y, hxy, hne⟩
      by_contra hname
      apply hne
      rw [hvalue, hvalue, hxy "a" (Ne.symm hname)]
    · rintro rfl
      refine ⟨fun _ => false, fun name => name == "a", fun other hother => ?_, ?_⟩
      · exact (beq_eq_false_iff_ne.2 hother).symm
      · rw [hwithout rfl, hwith rfl]
        exact Binary64.one_ne_zero.symm

end Workspace

end ProductLine
