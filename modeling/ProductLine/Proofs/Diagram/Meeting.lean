import Mathlib.Tactic.Common
import ProductLine.Proofs.Diagram.Pointwise
import ProductLine.Proofs.Error

/-!
# Values that meet

A combination of two diagrams applies its operation to the values that meet on a region, and these are the
values at every product of the region (`exists_of_mem_overlaps`). So nothing but the values at products
matters: operations that agree on them are combined alike (`apply_congr`), and a combination fails exactly if
the operation fails on the values at some product (`apply_eq_ok`, `apply_eq_error`, `exists_apply_iff`).
-/

namespace ProductLine

namespace Diagram

variable {op op' : Binary64 → Binary64 → Except Error Binary64} {a b : Diagram} {err : Error}

/-- Values that meet are those at some product. -/
lemma exists_of_mem_overlaps (ha : a.WellFormed) (hb : b.WellFormed) {p : Binary64 × Binary64 × Region}
    (hp : p ∈ overlaps a.cover b.cover) : ∃ x, a.valueAt x = p.1 ∧ b.valueAt x = p.2.1 := by
  obtain ⟨v, w, r⟩ := p
  obtain ⟨_, _, _, _, _, hr⟩ := mem_overlaps.1 hp
  obtain ⟨x, hx⟩ := Region.exists_holds hr
  obtain ⟨hv, hw⟩ := takes_overlaps.1 ⟨r, hp, hx⟩
  exact ⟨x, (takes_cover ha).1 hv, (takes_cover hb).1 hw⟩

/-- If a combination fails, the operation fails with the same error on the values at some product. -/
theorem apply_eq_error (ha : a.WellFormed) (hb : b.WellFormed) (h : apply op a b = .error err) :
    ∃ x, op (a.valueAt x) (b.valueAt x) = .error err := by
  rw [apply, applyTo] at h
  generalize hes : (overlaps a.cover b.cover).mapM
    (fun pair => (op pair.1 pair.2.1).map fun u => (a.owner.normalize u, pair.2.2)) = results at h
  cases results with
  | ok es => cases h
  | error e =>
    obtain rfl : e = err := Except.error.inj h
    obtain ⟨p, hp, hfail⟩ := exists_of_mapM_error hes
    obtain ⟨x, hv, hw⟩ := exists_of_mem_overlaps ha hb hp
    refine ⟨x, ?_⟩
    rw [hv, hw]
    cases hresult : op p.1 p.2.1 with
    | ok u =>
      rw [hresult] at hfail
      cases hfail
    | error e' =>
      rw [hresult] at hfail
      exact congrArg _ (Except.error.inj hfail)

/-- If a combination succeeds, the operation does on the values at every product, and its rounded result is
the value there. -/
theorem apply_eq_ok (ha : a.WellFormed) (hb : b.WellFormed) {d : Diagram} (h : apply op a b = .ok d)
    (x : Nat → Bool) : ∃ u, op (a.valueAt x) (b.valueAt x) = .ok u ∧ d.valueAt x = a.owner.normalize u := by
  have hvalue := valueAt_apply ha hb h x
  cases hresult : op (a.valueAt x) (b.valueAt x) with
  | ok u =>
    rw [hresult] at hvalue
    exact ⟨u, rfl, (Except.ok.inj hvalue).symm⟩
  | error e =>
    rw [hresult] at hvalue
    cases hvalue

/-- Operations that agree on the values at every product are combined alike, however they differ elsewhere. -/
theorem apply_congr (ha : a.WellFormed) (hb : b.WellFormed)
    (h : ∀ x, op (a.valueAt x) (b.valueAt x) = op' (a.valueAt x) (b.valueAt x)) : apply op a b = apply op' a b := by
  have hresults : ∀ p ∈ overlaps a.cover b.cover,
      ((op p.1 p.2.1).map fun u => (a.owner.normalize u, p.2.2)) =
        (op' p.1 p.2.1).map fun u => (a.owner.normalize u, p.2.2) := by
    intro p hp
    obtain ⟨x, hv, hw⟩ := exists_of_mem_overlaps ha hb hp
    rw [← hv, ← hw, h]
  rw [apply, apply, applyTo, applyTo, mapM_congr hresults]

/-- A combination succeeds exactly if the operation does on the values at every product. -/
theorem exists_apply_iff (ha : a.WellFormed) (hb : b.WellFormed) :
    (∃ d, apply op a b = .ok d) ↔ ∀ x, ∃ u, op (a.valueAt x) (b.valueAt x) = .ok u := by
  constructor
  · rintro ⟨d, hd⟩ x
    obtain ⟨u, hu, _⟩ := apply_eq_ok ha hb hd x
    exact ⟨u, hu⟩
  · intro h
    cases hd : apply op a b with
    | ok d => exact ⟨d, rfl⟩
    | error e =>
      obtain ⟨x, hx⟩ := apply_eq_error ha hb hd
      obtain ⟨u, hu⟩ := h x
      rw [hx] at hu
      cases hu

end Diagram

end ProductLine
