import Mathlib.Data.List.Find
import Mathlib.Tactic.Common
import ProductLine.Proofs.Expression.Pointwise
import ProductLine.Proofs.Region

/-!
# Levels that decide diagrams

The operations on diagrams make their regions from those of their operands by union, intersection and
complement, and regions of one value are merged. So the levels that decide all regions of the operands
(`Diagram.DecidedBy`) decide those of the result, whatever its values are (`Diagram.DecidedBy.operate`), and
the levels that decide all diagrams bound to names decide an expression that is solved with them
(`Expression.decidedBy_solve`). Levels that decide a diagram decide its value
(`Diagram.DecidedBy.valueAt_congr`).
-/

namespace ProductLine

namespace Diagram

/-- Whether all regions of a diagram are decided by the features at some levels. -/
def DecidedBy (levels : Nat → Prop) (d : Diagram) : Prop := ∀ e ∈ d.regions, e.2.DecidedBy levels

variable {levels : Nat → Prop} {owner : Owner} {a b d : Diagram} {es fs : List Entry}

/-- A constant diagram is decided by any levels. -/
lemma decidedBy_constant (levels : Nat → Prop) (owner : Owner) (v : Binary64) :
    (constant owner v).DecidedBy levels := by
  intro e he
  simp only [constant] at he
  split at he
  · cases he
  · obtain rfl := List.mem_singleton.1 he
    exact Region.decidedBy_const levels true

/-- What decides a region decides its diagram. -/
lemma decidedBy_ofRegion {r : Region} (h : r.DecidedBy levels) : (ofRegion owner r).DecidedBy levels := by
  intro e he
  simp only [ofRegion] at he
  split at he
  · cases he
  · obtain rfl := List.mem_singleton.1 he
    exact h

/-- Merging the regions of one value needs no further levels. -/
lemma decidedBy_ofEntries (hes : ∀ e ∈ es, e.2.DecidedBy levels) : (ofEntries owner es).DecidedBy levels := by
  intro e he
  have hkept : ∀ e ∈ es.foldl addEntry [], e.2.DecidedBy levels :=
    forall_foldl_addEntry (fun _ _ he hf => he.union hf) (by simp) fun e he _ => hes e he
  exact hkept e ((arrange_perm _).mem_iff.1 he)

/-- What decides the entries of two lists decides the regions on which they meet. -/
lemma decidedBy_overlaps (hes : ∀ e ∈ es, e.2.DecidedBy levels) (hfs : ∀ e ∈ fs, e.2.DecidedBy levels) :
    ∀ p ∈ overlaps es fs, p.2.2.DecidedBy levels := by
  rintro ⟨v, w, r⟩ hp
  obtain ⟨r₁, r₂, h₁, h₂, rfl, _⟩ := mem_overlaps.1 hp
  exact (hes _ h₁).inter (hfs _ h₂)

namespace DecidedBy

/-- What decides a diagram decides where it is not zero. -/
lemma nonzero (h : d.DecidedBy levels) : d.nonzero.DecidedBy levels := by
  -- the regions may be added to any region that the levels decide
  suffices hfold : ∀ (es : List Entry) (r : Region), r.DecidedBy levels → (∀ e ∈ es, e.2.DecidedBy levels) →
      (es.foldl (fun r e => r.union e.2) r).DecidedBy levels from
    hfold d.regions .empty (Region.decidedBy_const levels false) h
  intro es
  induction es with
  | nil => exact fun _ hr _ => hr
  | cons e es ih =>
    intro r hr hes
    exact ih _ (hr.union (hes e List.mem_cons_self)) fun f hf => hes f (List.mem_cons_of_mem e hf)

/-- What decides a diagram decides its regions, that of the zeros included. -/
lemma cover (h : d.DecidedBy levels) : ∀ e ∈ d.cover, e.2.DecidedBy levels := by
  intro e he
  rcases List.mem_append.1 he with he | he
  · exact h e he
  · split at he
    · cases he
    · obtain rfl := List.mem_singleton.1 he
      exact h.nonzero.compl

/-- What decides a diagram decides its negation. -/
lemma neg (h : d.DecidedBy levels) : d.neg.DecidedBy levels := by
  intro e he
  obtain ⟨f, hf, rfl⟩ := List.mem_map.1 ((arrange_perm _).mem_iff.1 he)
  exact h f hf

/-- What decides two diagrams decides their product. -/
lemma mul (ha : a.DecidedBy levels) (hb : b.DecidedBy levels) : (a.mul b).DecidedBy levels := by
  apply decidedBy_ofEntries
  intro e he
  obtain ⟨p, hp, rfl⟩ := List.mem_map.1 he
  exact decidedBy_overlaps ha hb p hp

/-- What decides two diagrams decides every combination of them. -/
lemma apply {op : Binary64 → Binary64 → Except Error Binary64} (ha : a.DecidedBy levels) (hb : b.DecidedBy levels)
    (h : Diagram.apply op a b = .ok d) : d.DecidedBy levels := by
  obtain ⟨es, hes, rfl⟩ := applyTo_eq_ok h
  apply decidedBy_ofEntries
  intro e he
  obtain ⟨p, hp, u, _, rfl⟩ := exists_of_forall₂ hes e he
  exact decidedBy_overlaps ha.cover hb.cover p hp

/-- A binary operation needs no levels but those that decide the operands. -/
theorem operate {op : Operation} (ha : a.DecidedBy levels) (hb : b.DecidedBy levels)
    (h : Diagram.operate op a b = .ok d) : d.DecidedBy levels := by
  rcases operate_eq_ok h with ⟨_, rfl⟩ | ⟨_, h⟩
  · exact ha.mul hb
  · exact ha.apply hb h

/-- The value at a product is decided by the levels that decide the regions. -/
lemma valueAt_congr (h : d.DecidedBy levels) {x y : Nat → Bool} (hxy : ∀ level, levels level → x level = y level) :
    d.valueAt x = d.valueAt y := by
  rw [valueAt, valueAt, List.find?_congr fun e he => h e he x y hxy]

end DecidedBy

end Diagram

namespace Expression

variable {levels : Nat → Prop} {owner : Owner} {bindings : Bindings}

/-- Solving an expression needs no levels but those that decide the diagrams bound to names. -/
theorem decidedBy_solve {e : Expression} {d : Diagram}
    (hb : ∀ text b, bindings.get? text = some (.diagram b) → b.DecidedBy levels)
    (h : e.solve owner bindings = .ok d) : d.DecidedBy levels := by
  induction e generalizing d with
  | int n =>
    obtain ⟨v, _, rfl⟩ := toDiagram_datum h
    exact Diagram.decidedBy_constant levels owner v
  | float v =>
    obtain rfl := Except.ok.inj h
    exact Diagram.decidedBy_constant levels owner v
  | name text =>
    rw [solve] at h
    split at h
    · rename_i operand hget
      cases operand with
      | diagram b =>
        obtain ⟨_, rfl⟩ := toDiagram_diagram h
        exact hb text d hget
      | datum value =>
        obtain ⟨v, _, rfl⟩ := toDiagram_datum h
        exact Diagram.decidedBy_constant levels owner v
    · cases h
  | neg e ih =>
    obtain ⟨a, ha, rfl⟩ := solve_neg h
    exact (ih ha).neg
  | pos e ih => exact ih h
  | binary op left right ihl ihr =>
    obtain ⟨a, b, ha, hb', hop⟩ := solve_binary h
    exact (ihl ha).operate (ihr hb') hop

end Expression

end ProductLine
