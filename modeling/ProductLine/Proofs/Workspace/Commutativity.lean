import ProductLine.Proofs.Workspace.Logic

/-!
# Operands that may change places

Sums and products of diagrams go over the pairs of regions in the order of the left operand, so with the
operands in the other places the same values are met in another order and merged in another sequence. A
canonical diagram is determined by its values at products, so all that matters is that sums and products of
numbers do not depend on the order of the numbers (`Operation.scalar_comm`): the result is the same diagram
(`Workspace.commutes_of_finite`).
-/

namespace ProductLine

namespace Binary64

/-- The order of two summands does not matter. -/
protected theorem add_comm (x y : Binary64) : x + y = y + x := by
  cases x with
  | nan => cases y <;> rfl
  | finite u hu =>
    cases y with
    | finite v hv => rw [finite_add_finite, finite_add_finite, Int.add_comm]
    | infinite => rfl
    | nan => rfl
  | infinite s =>
    cases y with
    | finite => rfl
    | infinite t => cases s <;> cases t <;> rfl
    | nan => rfl

/-- Only infinities have a sum that is no number. -/
lemma isNaN_add_of_isFinite {x y : Binary64} (hx : x.isFinite = true) (hy : y.isNaN = false) :
    (x + y).isNaN = false := by
  cases x with
  | nan => cases hx
  | infinite => cases hx
  | finite u hu =>
    cases y with
    | finite v hv =>
      rw [finite_add_finite]
      exact isNaN_ofQuotient _ _ _
    | infinite => rfl
    | nan => cases hy

end Binary64

/-- The order of two factors does not matter for any owner. -/
lemma Owner.product_comm (owner : Owner) (x y : Binary64) : owner.product x y = owner.product y x := by
  simp only [product, or_comm, Binary64.mul_comm x y]

/-- A finite number and a number have a sum and a product, in either order the same. -/
lemma Operation.scalar_comm {op : Operation} (hop : op = .mul ∨ op = .add) (owner : Owner) {x y : Binary64}
    (hx : x.isFinite = true) (hy : y.isNaN = false) :
    ∃ v, op.scalar owner x y = .ok v ∧ op.scalar owner y x = .ok v ∧ v.isNaN = false := by
  rcases hop with rfl | rfl
  · refine ⟨owner.product x y, scalar_mul owner x y, ?_, owner.isNaN_product (Binary64.isNaN_of_isFinite hx) hy⟩
    rw [scalar_mul, owner.product_comm]
  · refine ⟨owner.normalize (x + y), scalar_add owner x y, ?_, ?_⟩
    · rw [scalar_add, Binary64.add_comm]
    · rw [Owner.normalize, Binary64.isNaN_normalize, Binary64.isNaN_add_of_isFinite hx hy]

section Operands

/-- Being the same diagram does not depend on the order of the results. -/
lemma SameDiagram.symm {p q : Except Error Diagram} (h : SameDiagram p q) : SameDiagram q p := by
  obtain ⟨d, hp, hq, hnan⟩ := sameDiagram_iff.1 h
  exact sameDiagram_iff.2 ⟨d, hq, hp, hnan⟩

variable {space : FeatureSpace} {op : Operation} {a b : Diagram}

/-- A diagram with finite values and one with numbers have the same sum and the same product in either order. -/
lemma Diagram.Canonical.operate_comm (hspace : space.features.Nodup) (hop : op = .mul ∨ op = .add)
    (ha : a.Canonical space) (hb : b.Canonical space) (hfinite : ∀ x, (a.evaluate space x).isFinite = true)
    (hnumber : ∀ x, (b.evaluate space x).isNaN = false) :
    SameDiagram (Diagram.operate op a b) (Diagram.operate op b a) := by
  choose value hleft hright hnan using fun x => Operation.scalar_comm hop space.owner (hfinite x) (hnumber x)
  have hab : Computes space (Operand.operate op (.diagram a) (.diagram b)) value :=
    (computes_ok ha).on hspace (computes_ok hb) hleft
  have hba : Computes space (Operand.operate op (.diagram b) (.diagram a)) value :=
    (computes_ok hb).on hspace (computes_ok ha) hright
  rw [← hb.operate_eq ha.toDiagram, ← ha.operate_eq hb.toDiagram]
  exact (hab.same_iff hspace hba).2 fun x => ⟨rfl, hnan x⟩

/-- A diagram and a datum are combined as what they are in the space of the diagram. -/
lemma Diagram.Canonical.operate_datum {datum : Datum} {c : Diagram} (ha : a.Canonical space)
    (hdatum : (Operand.datum datum).toDiagram space.owner = .ok c) (op : Operation) :
    Operand.operate op (.diagram a) (.datum datum) = Diagram.operate op a c := by
  have howner : ((Operand.diagram a).owner?.or (Operand.datum datum).owner?).getD default = space.owner := ha.owner
  simp only [Operand.operate, howner, ha.toDiagram, hdatum]

end Operands

/-- A datum that is a number is rounded by the owner. -/
lemma Owner.number_of_numberOf? {owner : Owner} {datum : Datum} {number : Binary64}
    (h : Diagram.numberOf? false datum = some (.ok number)) :
    owner.number datum = .ok (owner.normalize number) := by
  simp only [Owner.number, h, Except.map]

namespace Workspace

variable {settings : Settings} {serial : Nat} {w : Workspace} {a b : Diagram}

/-- Diagrams made in a feature space whose values are finite have the same sum and the same product in either
order, and so have such a diagram and any datum that is a finite number. -/
theorem commutes_of_finite (h : (fresh settings serial).Run w) (ha : a ∈ w.diagrams) (hb : b ∈ w.diagrams)
    (hfinitea : ∀ v ∈ a.terminals, v.isFinite = true) (hfiniteb : ∀ v ∈ b.terminals, v.isFinite = true)
    {op : Operation} (hop : op = .mul ∨ op = .add) :
    SameDiagram (Operand.operate op (.diagram a) (.diagram b)) (Operand.operate op (.diagram b) (.diagram a)) ∧
    ∀ datum number, Diagram.numberOf? false datum = some (.ok number) → number.isFinite = true →
      SameDiagram (Operand.operate op (.datum datum) (.diagram a))
        (Operand.operate op (.diagram a) (.datum datum)) := by
  have hw := canonical_of_run h
  have hcanonicala := hw.diagrams a ha
  have hcanonicalb := hw.diagrams b hb
  have hvaluea (x : String → Bool) : (a.evaluate w.space x).isFinite = true :=
    isFinite_valueAt hcanonicala.wellFormed hfinitea _
  have hvalueb (x : String → Bool) : (b.evaluate w.space x).isNaN = false :=
    Binary64.isNaN_of_isFinite (isFinite_valueAt hcanonicalb.wellFormed hfiniteb _)
  constructor
  · rw [hcanonicalb.operate_eq hcanonicala.toDiagram, hcanonicala.operate_eq hcanonicalb.toDiagram]
    exact hcanonicala.operate_comm hw.nodup hop hcanonicalb hvaluea hvalueb
  · intro datum number hdatum hnumber
    -- the datum is the diagram that has its rounded number everywhere
    have hkept : w.space.owner.number datum = .ok _ := Owner.number_of_numberOf? hdatum
    obtain ⟨c, hc, hcanonicalc, hvalue⟩ := computes_datum hkept
    have hvaluec (x : String → Bool) : (c.evaluate w.space x).isNaN = false := by
      rw [hvalue, Owner.normalize, Binary64.isNaN_normalize, Binary64.isNaN_of_isFinite hnumber]
    rw [hcanonicala.operate_eq hc, hcanonicala.operate_datum hc]
    exact (hcanonicala.operate_comm hw.nodup hop hcanonicalc hvaluea hvaluec).symm

/-- The theorem applies, for example, to a feature and the number one, and to twice the feature. -/
theorem commutes_of_finite_feature : ∃ w a b, (fresh .standard 0).Run w ∧ a ∈ w.diagrams ∧ b ∈ w.diagrams ∧
    (∀ v ∈ a.terminals, v.isFinite = true) ∧ (∀ v ∈ b.terminals, v.isFinite = true) ∧
    SameDiagram (Operand.operate .add (.diagram a) (.diagram b)) (Operand.operate .add (.diagram b) (.diagram a)) ∧
    SameDiagram (Operand.operate .mul (.datum (.int 2)) (.diagram a))
      (Operand.operate .mul (.diagram a) (.datum (.int 2))) := by
  obtain ⟨w, a, b, hrun, ha, hb, hvaluea, hvalueb⟩ := exists_run_constant .one
  have hw := canonical_of_run hrun
  have hone : Binary64.one.isFinite = true := by
    rw [Binary64.one_eq]
    rfl
  have hfinitea := isFinite_of_mem_terminals hw ha fun x => by
    rw [hvaluea]
    split
    · exact hone
    · exact Binary64.isFinite_zero
  have hfiniteb := isFinite_of_mem_terminals hw hb fun x => by rw [hvalueb, Owner.normalize_one, hone]
  have hsum : Operation.add = .mul ∨ Operation.add = .add := .inr rfl
  have hproduct : Operation.mul = .mul ∨ Operation.mul = .add := .inl rfl
  obtain ⟨hadd, _⟩ := commutes_of_finite hrun ha hb hfinitea hfiniteb hsum
  obtain ⟨_, hmul⟩ := commutes_of_finite hrun ha hb hfinitea hfiniteb hproduct
  exact ⟨w, a, b, hrun, ha, hb, hfinitea, hfiniteb, hadd,
    hmul (.int 2) (.one + .one) (by decide +kernel) (by decide +kernel)⟩

end Workspace

end ProductLine
