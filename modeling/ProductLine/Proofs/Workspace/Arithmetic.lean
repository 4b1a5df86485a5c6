import ProductLine.Proofs.Binary64.Product
import ProductLine.Proofs.Workspace

/-!
# Operators on diagrams made in a feature space

Sums, differences, quotients and powers of diagrams are those of the values at each product, and they fail
exactly if the operation on numbers fails at some product (`Workspace.operate_iff_fails`). Products leave the
zero regions out: they are what multiplying the values at each product gives, unless a zero meets an infinity
(`Workspace.mul_iff_meets`). Whether two computations come to the same diagram is seen from the values at
products (`Computes.same_iff`).
-/

namespace ProductLine

/-- Whether an operation on two numbers has no result: a number other than zero divided by zero, zero raised to a
negative power, a negative number raised to a power that is no integer, or a power of finite numbers that is not
finite. -/
def Operation.Fails : Operation → Binary64 → Binary64 → Prop
  | div, a, b => a ≠ .zero ∧ b = .zero
  | pow, a, b =>
    (a = .zero ∧ Binary64.lt b .zero = true) ∨ (Binary64.lt a .zero = true ∧ b.isInteger = false) ∨
      (a.isFinite = true ∧ b.isFinite = true ∧ (Binary64.machinePower a b).isFinite = false)
  | _, _, _ => False

namespace Binary64

/-- A power has no value exactly if it is a power of finite numbers that is not finite. -/
lemma power?_eq_none_iff {a b : Binary64} :
    power? a b = none ↔ a.isFinite = true ∧ b.isFinite = true ∧ (machinePower a b).isFinite = false := by
  have hif {c : Prop} [Decidable c] {x y : Option Binary64} (hx : x ≠ none) (hy : y ≠ none) :
      (if c then x else y) ≠ none := by
    split
    · exact hx
    · exact hy
  unfold power?
  split
  · exact iff_of_false (Option.some_ne_none _) fun h => Bool.false_ne_true h.1
  · exact iff_of_false (Option.some_ne_none _) fun h => Bool.false_ne_true h.2.1
  · refine iff_of_false ?_ fun h => Bool.false_ne_true h.1
    exact hif (Option.some_ne_none _) (hif (Option.some_ne_none _) (Option.some_ne_none _))
  · refine iff_of_false ?_ fun h => Bool.false_ne_true h.2.1
    exact hif (Option.some_ne_none _) (Option.some_ne_none _)
  · rename_i ha hsa hb hsb
    have hfinite {x : Binary64} (hnan : x = nan → False) (hinfinite : ∀ s, x = infinite s → False) :
        x.isFinite = true := by
      cases x with
      | finite => rfl
      | infinite s => exact (hinfinite s rfl).elim
      | nan => exact (hnan rfl).elim
    have hfinitea := hfinite ha hsa
    have hfiniteb := hfinite hb hsb
    cases machinePower a b with
    | finite => exact iff_of_false (Option.some_ne_none _) fun h => Bool.false_ne_true h.2.2.symm
    | infinite => exact iff_of_true rfl ⟨hfinitea, hfiniteb, rfl⟩
    | nan => exact iff_of_true rfl ⟨hfinitea, hfiniteb, rfl⟩

end Binary64

/-- An operation fails exactly on numbers that it has no result for. -/
lemma Operation.fails_iff {op : Operation} {a b : Binary64} :
    op.Fails a b ↔ ∃ err, op.compute a b = .error err := by
  have hok {x : Binary64} : ¬ ∃ err : Error, Except.ok x = .error err := by
    rintro ⟨err, h⟩
    cases h
  cases op with
  | div =>
    simp only [Fails, compute, Binary64.quotient]
    split
    · rename_i hb
      split
      · rename_i ha
        exact iff_of_false (fun h => h.1 ha) hok
      · rename_i ha
        exact iff_of_true ⟨ha, hb⟩ ⟨_, rfl⟩
    · rename_i hb
      exact iff_of_false (fun h => hb h.2) hok
  | pow =>
    simp only [Fails, compute, Binary64.power, ← Binary64.power?_eq_none_iff, Bool.not_eq_true']
    split
    · exact iff_of_true (.inl ‹_›) ⟨_, rfl⟩
    · rename_i hzero
      split
      · rename_i hnegative
        exact iff_of_true (.inr (.inl hnegative)) ⟨_, rfl⟩
      · rename_i hnegative
        cases hpower : Binary64.power? a b with
        | some c =>
          refine iff_of_false ?_ hok
          rintro (h | h | h)
          · exact hzero h
          · exact hnegative h
          · cases h
        | none => exact iff_of_true (.inr (.inr rfl)) ⟨_, rfl⟩
  | _ => exact iff_of_false id hok

/-- An operation on two diagrams that are computed, the left one first. -/
def Operation.on (op : Operation) (p q : Except Error Diagram) : Except Error Diagram :=
  p.bind fun a => q.bind fun b => Operand.operate op (.diagram a) (.diagram b)

/-- Whether two computations of diagrams succeed and their diagrams are equal, whichever objects these are. -/
def SameDiagram (p q : Except Error Diagram) : Prop :=
  ∃ d e, p = .ok d ∧ q = .ok e ∧ ∀ s t, (Handle.mk s d).equal ⟨t, e⟩ = true

/-- Whether a computation succeeds with a canonical diagram that has the given values at products. -/
def Computes (space : FeatureSpace) (p : Except Error Diagram) (value : (String → Bool) → Binary64) : Prop :=
  ∃ d, p = .ok d ∧ d.Canonical space ∧ ∀ x, d.evaluate space x = value x

section Computes

variable {space : FeatureSpace} {p q : Except Error Diagram} {u v : (String → Bool) → Binary64}

/-- Results are the same diagram if both succeed with one diagram that takes numbers only. -/
lemma sameDiagram_iff : SameDiagram p q ↔ ∃ d, p = .ok d ∧ q = .ok d ∧ d.hasNaN = false := by
  constructor
  · rintro ⟨d, e, hp, hq, hequal⟩
    -- different objects are equal only as what they store
    obtain ⟨hnan, rfl⟩ := (Handle.equal_iff.1 (hequal 0 1)).resolve_left Nat.zero_ne_one
    exact ⟨d, hp, hq, hnan⟩
  · rintro ⟨d, hp, hq, hnan⟩
    exact ⟨d, d, hp, hq, fun s t => Handle.equal_iff.2 (.inr ⟨hnan, rfl⟩)⟩

/-- A canonical diagram computes its own values. -/
lemma computes_ok {d : Diagram} (h : d.Canonical space) : Computes space (.ok d) (d.evaluate space) :=
  ⟨d, rfl, h, fun _ => rfl⟩

/-- Canonical diagrams have no other values together than at the products of the declared features. -/
lemma Diagram.Canonical.exists_evaluate {a b : Diagram} (ha : a.Canonical space) (hb : b.Canonical space)
    (hspace : space.features.Nodup) (y : Nat → Bool) :
    ∃ x, a.evaluate space x = a.valueAt y ∧ b.evaluate space x = b.valueAt y := by
  obtain ⟨x, hx⟩ := FeatureSpace.exists_product hspace y
  exact ⟨x, ha.valueAt_congr hx, hb.valueAt_congr hx⟩

/-- A canonical diagram whose value at every product is a number stores numbers only. -/
lemma Diagram.Canonical.hasNaN_of_evaluate {d : Diagram} (h : d.Canonical space) (hspace : space.features.Nodup)
    (hvalue : ∀ x, (d.evaluate space x).isNaN = false) : d.hasNaN = false := by
  refine h.hasNaN_eq_false fun y => ?_
  obtain ⟨x, hx, _⟩ := h.exists_evaluate h hspace y
  rw [← hx, hvalue]

/-- An operand and a diagram are combined as what they are in their space. -/
lemma Diagram.Canonical.operate_eq {operand : Operand} {a b : Diagram} (hb : b.Canonical space)
    (ha : operand.toDiagram space.owner = .ok a) (op : Operation) :
    Operand.operate op operand (.diagram b) = Diagram.operate op a b := Operand.operate_of_toDiagram op ha hb.owner

/-- A canonical diagram is an operand of its space. -/
lemma Diagram.Canonical.toDiagram {a : Diagram} (ha : a.Canonical space) :
    (Operand.diagram a).toDiagram space.owner = .ok a := if_pos ha.owner

/-- An operation on an operand and a diagram has the values of the operation at each product. -/
lemma Computes.operate {op : Operation} {operand : Operand} {b : Diagram} {value : (String → Bool) → Binary64}
    (hspace : space.features.Nodup) (hp : Computes space (operand.toDiagram space.owner) u)
    (hq : Computes space (.ok b) v) (h : ∀ x, op.scalar space.owner (u x) (v x) = .ok (value x)) :
    Computes space (Operand.operate op operand (.diagram b)) value := by
  obtain ⟨a, hoperand, ha, hu⟩ := hp
  obtain ⟨_, hright, hb, hv⟩ := hq
  obtain rfl := Except.ok.inj hright
  have hscalar : ∀ y, ∃ w, op.scalar space.owner (a.valueAt y) (b.valueAt y) = .ok w := by
    intro y
    obtain ⟨x, hxa, hxb⟩ := ha.exists_evaluate hb hspace y
    exact ⟨value x, by rw [← hxa, ← hxb, hu, hv, h]⟩
  obtain ⟨d, hd, hcanonical, hvalue⟩ := ha.exists_operate hb hscalar
  refine ⟨d, (hb.operate_eq hoperand op).trans hd, hcanonical, fun x => ?_⟩
  have hx : op.scalar space.owner (a.evaluate space x) (b.evaluate space x) = .ok (d.evaluate space x) := hvalue _
  rw [hu, hv, h] at hx
  exact (Except.ok.inj hx).symm

/-- An operation on what was computed has the values of the operation at each product. -/
lemma Computes.on {op : Operation} {value : (String → Bool) → Binary64} (hspace : space.features.Nodup)
    (hp : Computes space p u) (hq : Computes space q v)
    (h : ∀ x, op.scalar space.owner (u x) (v x) = .ok (value x)) : Computes space (op.on p q) value := by
  obtain ⟨a, rfl, ha, hu⟩ := hp
  obtain ⟨b, rfl, hb, hv⟩ := hq
  exact Computes.operate hspace ⟨a, ha.toDiagram, ha, hu⟩ ⟨b, rfl, hb, hv⟩ h

/-- Two computations make the same diagram exactly if they have the same values, all of them numbers. -/
theorem Computes.same_iff (hspace : space.features.Nodup) (hp : Computes space p u) (hq : Computes space q v) :
    SameDiagram p q ↔ ∀ x, u x = v x ∧ (u x).isNaN = false := by
  obtain ⟨a, rfl, ha, hu⟩ := hp
  obtain ⟨b, rfl, hb, hv⟩ := hq
  rw [sameDiagram_iff]
  constructor
  · rintro ⟨d, hd, hd', hnan⟩ x
    obtain rfl := Except.ok.inj hd
    obtain rfl := Except.ok.inj hd'
    rw [← hu, ← hv]
    exact ⟨rfl, Diagram.Canonical.isNaN_valueAt hnan _⟩
  · intro h
    have hnana : a.hasNaN = false := ha.hasNaN_of_evaluate hspace fun x => by rw [hu, (h x).2]
    have hnanb : b.hasNaN = false := hb.hasNaN_of_evaluate hspace fun x => by rw [hv, ← (h x).1, (h x).2]
    have hab : a = b := ha.ext hspace hb hnana hnanb fun x => by rw [hu, hv, (h x).1]
    exact ⟨a, rfl, congrArg _ hab.symm, hnana⟩

end Computes

/-- The product of numbers is a number. -/
lemma Owner.isNaN_product (owner : Owner) {x y : Binary64} (hx : x.isNaN = false) (hy : y.isNaN = false) :
    (owner.product x y).isNaN = false := by
  rw [product]
  split
  · exact Binary64.isNaN_zero
  · rename_i hne
    rw [not_or] at hne
    rw [normalize, Binary64.isNaN_normalize, ← Bool.not_eq_true, Binary64.isNaN_mul hx hy]
    rintro (h | h)
    · exact hne.1 h.1
    · exact hne.2 h.1

/-- To leave zeros out of a product makes no difference exactly if neither number is zero where the other one is an
infinity. -/
lemma Owner.product_eq_iff (owner : Owner) {x y : Binary64} (hx : x.isNaN = false) (hy : y.isNaN = false) :
    owner.product x y = owner.normalize (x * y) ↔
      (x = .zero → y.isFinite = true) ∧ (y = .zero → x.isFinite = true) := by
  constructor
  · intro h
    have hnan := owner.isNaN_product hx hy
    rw [h, normalize, Binary64.isNaN_normalize, ← Bool.not_eq_true, Binary64.isNaN_mul hx hy, not_or] at hnan
    refine ⟨fun hzero => ?_, fun hzero => ?_⟩
    · simpa [hzero] using hnan.1
    · simpa [hzero] using hnan.2
  · rintro ⟨hxy, hyx⟩
    rw [product]
    split
    · rename_i hzero
      rcases hzero with hzero | hzero
      · rw [hzero, Binary64.zero_mul_of_isFinite (hxy hzero), normalize_zero]
      · rw [hzero, Binary64.mul_zero_of_isFinite (hyx hzero), normalize_zero]
    · rfl

namespace Workspace

variable {settings : Settings} {serial : Nat} {w : Workspace} {a b : Diagram}

/-- A sum, difference, quotient or power of diagrams made in a feature space has at every product the rounded result
of the operation on the values there, zero over zero being zero. If there is none, the operation fails with the same
error on the values at some product; and there is none exactly if the operation has no result at some product. Only
the pairs of values that some product has matter: any other way to compute a result that agrees on these makes the
same diagram or fails with the same error. -/
theorem operate_iff_fails (h : (fresh settings serial).Run w) {op : Operation} (hop : op ≠ .mul)
    (ha : a ∈ w.diagrams) (hb : b ∈ w.diagrams) :
    (∀ d, Operand.operate op (.diagram a) (.diagram b) = .ok d → ∀ x, ∃ u,
      op.compute (a.evaluate w.space x) (b.evaluate w.space x) = .ok u ∧
        d.evaluate w.space x = w.space.owner.normalize u) ∧
    (∀ err, Operand.operate op (.diagram a) (.diagram b) = .error err →
      ∃ x, op.compute (a.evaluate w.space x) (b.evaluate w.space x) = .error err) ∧
    ((∃ err, Operand.operate op (.diagram a) (.diagram b) = .error err) ↔
      ∃ x, op.Fails (a.evaluate w.space x) (b.evaluate w.space x)) ∧
    ∀ other : Binary64 → Binary64 → Except Error Binary64,
      (∀ x, other (a.evaluate w.space x) (b.evaluate w.space x) =
        op.compute (a.evaluate w.space x) (b.evaluate w.space x)) →
      Diagram.apply other a b = Operand.operate op (.diagram a) (.diagram b) := by
  have hw := canonical_of_run h
  have hwfa := (hw.diagrams a ha).wellFormed
  have hwfb := (hw.diagrams b hb).wellFormed
  -- the operation looks at all levels, but what two diagrams have there they also have together at a product
  have hmeet := (hw.diagrams a ha).exists_evaluate (hw.diagrams b hb) hw.nodup
  have howner : a.owner = w.space.owner := (hw.diagrams a ha).owner
  have happly : Operand.operate op (.diagram a) (.diagram b) = Diagram.apply op.compute a b := by
    rw [(hw.diagrams b hb).operate_eq (hw.diagrams a ha).toDiagram,
      Diagram.operate_eq_apply hop (howner.trans (hw.diagrams b hb).owner.symm)]
  rw [happly]
  have hvalue : ∀ d, Diagram.apply op.compute a b = .ok d → ∀ x, ∃ u,
      op.compute (a.valueAt x) (b.valueAt x) = .ok u ∧ d.valueAt x = w.space.owner.normalize u := by
    intro d hd x
    rw [← howner]
    exact Diagram.apply_eq_ok hwfa hwfb hd x
  have herror : ∀ err, Diagram.apply op.compute a b = .error err →
      ∃ x, op.compute (a.evaluate w.space x) (b.evaluate w.space x) = .error err := by
    intro err herr
    obtain ⟨y, hy⟩ := Diagram.apply_eq_error hwfa hwfb herr
    obtain ⟨x, hxa, hxb⟩ := hmeet y
    exact ⟨x, by rw [hxa, hxb, hy]⟩
  refine ⟨fun d hd x => hvalue d hd (w.space.product x), herror, ?_, ?_⟩
  · constructor
    · rintro ⟨err, herr⟩
      obtain ⟨x, hx⟩ := herror err herr
      exact ⟨x, Operation.fails_iff.2 ⟨err, hx⟩⟩
    · rintro ⟨x, hx⟩
      obtain ⟨err, herr⟩ := Operation.fails_iff.1 hx
      cases hd : Diagram.apply op.compute a b with
      | ok d =>
        obtain ⟨u, hu, _⟩ := hvalue d hd (w.space.product x)
        exact absurd (hu.symm.trans herr) nofun
      | error e => exact ⟨e, rfl⟩
  · intro other hother
    apply Diagram.apply_congr hwfa hwfb
    intro y
    obtain ⟨x, hxa, hxb⟩ := hmeet y
    rw [← hxa, ← hxb, hother]

/-- For example, a feature may be declared and diagrams made of it and of a number. -/
lemma exists_run_constant (v : Binary64) : ∃ w a b, (fresh .standard 0).Run w ∧ a ∈ w.diagrams ∧ b ∈ w.diagrams ∧
    (∀ x, a.evaluate w.space x = if x "a" then .one else .zero) ∧
    ∀ x, b.evaluate w.space x = w.space.owner.normalize v := by
  obtain ⟨w, hrun, hmem, hmade⟩ := exists_run_feature
  refine ⟨_, _, _, hrun.tail (.made (.constant v)), List.mem_cons_of_mem _ hmade, List.mem_cons_self,
    fun x => ?_, fun x => ?_⟩
  · rw [Diagram.evaluate, Diagram.ofFeature, Diagram.valueAt_ofRegion, Region.holds_feature,
      FeatureSpace.product_level hmem]
  · rw [Diagram.evaluate, Diagram.valueAt_constant]

/-- The theorem applies, for example, to a feature divided by itself, and to one divided by a feature, which
fails for a product without it. -/
theorem operate_iff_fails_quotient : ∃ w a b, (fresh .standard 0).Run w ∧ a ∈ w.diagrams ∧ b ∈ w.diagrams ∧
    (¬ ∃ err, Operand.operate .div (.diagram a) (.diagram a) = .error err) ∧
    ∃ err, Operand.operate .div (.diagram b) (.diagram a) = .error err := by
  obtain ⟨w, a, b, hrun, ha, hb, hvaluea, hvalueb⟩ := exists_run_constant .one
  have hdiv : Operation.div ≠ .mul := nofun
  obtain ⟨_, _, hself, _⟩ := operate_iff_fails hrun hdiv ha ha
  obtain ⟨_, _, hfails, _⟩ := operate_iff_fails hrun hdiv hb ha
  refine ⟨w, a, b, hrun, ha, hb, ?_, hfails.2 ⟨fun _ => false, ?_, ?_⟩⟩
  · rintro herror
    obtain ⟨x, hne, hzero⟩ := hself.1 herror
    exact hne hzero
  · rw [hvalueb, Owner.normalize_one]
    exact Binary64.one_ne_zero
  · rw [hvaluea]
    exact if_neg Bool.false_ne_true

/-- A diagram that lists finite values only has a finite value at every product. -/
lemma isFinite_valueAt {d : Diagram} (h : d.WellFormed) (hfinite : ∀ v ∈ d.terminals, v.isFinite = true)
    (y : Nat → Bool) : (d.valueAt y).isFinite = true := hfinite _ ((Diagram.mem_terminals_iff h).2 ⟨y, rfl⟩)

/-- A diagram with a finite value at every product lists finite values only. -/
lemma isFinite_of_mem_terminals (hw : w.Canonical) (ha : a ∈ w.diagrams)
    (h : ∀ x, (a.evaluate w.space x).isFinite = true) : ∀ v ∈ a.terminals, v.isFinite = true := by
  intro v hv
  obtain ⟨x, rfl⟩ := ((hw.diagrams a ha).mem_terminals hw.nodup).1 hv
  exact h x

/-- Multiplication has the product of the values at each product, zero if a factor is. -/
lemma computes_mul (hw : w.Canonical) (ha : a ∈ w.diagrams) (hb : b ∈ w.diagrams) :
    Computes w.space (Operation.mul.on (.ok a) (.ok b))
      fun x => w.space.owner.product (a.evaluate w.space x) (b.evaluate w.space x) :=
  (computes_ok (hw.diagrams a ha)).on hw.nodup (computes_ok (hw.diagrams b hb)) fun _ => rfl

/-- Multiplying all values that meet has the rounded product of the values at each product. -/
lemma computes_apply_mul (hw : w.Canonical) (ha : a ∈ w.diagrams) (hb : b ∈ w.diagrams) :
    Computes w.space (Diagram.apply (fun u v => .ok (u * v)) a b)
      fun x => w.space.owner.normalize (a.evaluate w.space x * b.evaluate w.space x) := by
  have hcanonicala := hw.diagrams a ha
  have hcanonicalb := hw.diagrams b hb
  have happly : ∃ d, Diagram.apply (fun u v => .ok (u * v)) a b = .ok d :=
    (Diagram.exists_apply_iff hcanonicala.wellFormed hcanonicalb.wellFormed).2 fun y => ⟨_, rfl⟩
  obtain ⟨d, hd⟩ := happly
  refine ⟨d, hd, hcanonicala.apply hcanonicalb hd, fun x => ?_⟩
  rw [← hcanonicala.owner]
  exact (Except.ok.inj (Diagram.valueAt_apply hcanonicala.wellFormed hcanonicalb.wellFormed hd _)).symm

/-- Multiplication goes over the nonzero values only. If all values are finite it makes the same diagram as
multiplying all values that meet. If they are numbers, infinities among them, the product is zero where a
factor is and the rounded product of the values elsewhere, and it is the same diagram exactly if no product
has a zero in one factor and an infinity in the other. -/
theorem mul_iff_meets (h : (fresh settings serial).Run w) (ha : a ∈ w.diagrams) (hb : b ∈ w.diagrams) :
    ((∀ v ∈ a.terminals, v.isFinite = true) → (∀ v ∈ b.terminals, v.isFinite = true) →
      SameDiagram (Operand.operate .mul (.diagram a) (.diagram b)) (Diagram.apply (fun u v => .ok (u * v)) a b)) ∧
    (a.hasNaN = false → b.hasNaN = false →
      (∃ p, Operand.operate .mul (.diagram a) (.diagram b) = .ok p ∧ ∀ x, p.evaluate w.space x =
        if a.evaluate w.space x = .zero ∨ b.evaluate w.space x = .zero then .zero
        else w.space.owner.normalize (a.evaluate w.space x * b.evaluate w.space x)) ∧
      (SameDiagram (Operand.operate .mul (.diagram a) (.diagram b)) (Diagram.apply (fun u v => .ok (u * v)) a b) ↔
        ∀ x, (a.evaluate w.space x = .zero → (b.evaluate w.space x).isFinite = true) ∧
          (b.evaluate w.space x = .zero → (a.evaluate w.space x).isFinite = true))) := by
  have hw := canonical_of_run h
  have hproduct := computes_mul hw ha hb
  have hcombination := computes_apply_mul hw ha hb
  have hsame : a.hasNaN = false → b.hasNaN = false → (SameDiagram (Operand.operate .mul (.diagram a) (.diagram b))
      (Diagram.apply (fun u v => .ok (u * v)) a b) ↔
        ∀ x, (a.evaluate w.space x = .zero → (b.evaluate w.space x).isFinite = true) ∧
          (b.evaluate w.space x = .zero → (a.evaluate w.space x).isFinite = true)) := by
    intro hnana hnanb
    refine (hproduct.same_iff hw.nodup hcombination).trans (forall_congr' fun x => ?_)
    have hnumbera : (a.evaluate w.space x).isNaN = false := Diagram.Canonical.isNaN_valueAt hnana _
    have hnumberb : (b.evaluate w.space x).isNaN = false := Diagram.Canonical.isNaN_valueAt hnanb _
    rw [Owner.product_eq_iff _ hnumbera hnumberb, and_iff_left (Owner.isNaN_product _ hnumbera hnumberb)]
  refine ⟨fun hfinitea hfiniteb => ?_, fun hnana hnanb => ⟨?_, hsame hnana hnanb⟩⟩
  · have ha' := isFinite_valueAt (hw.diagrams a ha).wellFormed hfinitea
    have hb' := isFinite_valueAt (hw.diagrams b hb).wellFormed hfiniteb
    have hnana := (hw.diagrams a ha).hasNaN_eq_false fun y => Binary64.isNaN_of_isFinite (ha' y)
    have hnanb := (hw.diagrams b hb).hasNaN_eq_false fun y => Binary64.isNaN_of_isFinite (hb' y)
    exact (hsame hnana hnanb).2 fun x => ⟨fun _ => hb' _, fun _ => ha' _⟩
  · obtain ⟨p, hp, _, hvalue⟩ := hproduct
    exact ⟨p, hp, hvalue⟩

/-- The theorem applies, for example, to a feature times itself, and to a feature times infinity, where
leaving out the zero makes a difference. -/
theorem mul_iff_meets_infinite : ∃ w a b, (fresh .standard 0).Run w ∧ a ∈ w.diagrams ∧ b ∈ w.diagrams ∧
    SameDiagram (Operand.operate .mul (.diagram a) (.diagram a)) (Diagram.apply (fun u v => .ok (u * v)) a a) ∧
    ¬ SameDiagram (Operand.operate .mul (.diagram a) (.diagram b))
      (Diagram.apply (fun u v => .ok (u * v)) a b) := by
  obtain ⟨w, a, b, hrun, ha, hb, hvaluea, hvalueb⟩ := exists_run_constant (.infinite false)
  have hw := canonical_of_run hrun
  have hfinitea : ∀ x, (a.evaluate w.space x).isFinite = true := by
    intro x
    rw [hvaluea]
    split
    · rw [Binary64.one_eq]
      rfl
    · exact Binary64.isFinite_zero
  have hinfinite : w.space.owner.normalize (.infinite false) = .infinite false := by
    rw [Owner.normalize]
    cases w.space.owner.places with
    | none => rfl
    | some n => rfl
  have hnana := (hw.diagrams a ha).hasNaN_of_evaluate hw.nodup fun x => Binary64.isNaN_of_isFinite (hfinitea x)
  have hnanb := (hw.diagrams b hb).hasNaN_of_evaluate hw.nodup fun x => by rw [hvalueb, hinfinite]; rfl
  obtain ⟨hself, _⟩ := mul_iff_meets hrun ha ha
  obtain ⟨_, hmeets⟩ := mul_iff_meets hrun ha hb
  have hterminals : ∀ v ∈ a.terminals, v.isFinite = true := by
    intro v hv
    obtain ⟨y, rfl⟩ := (Diagram.mem_terminals_iff (hw.diagrams a ha).wellFormed).1 hv
    obtain ⟨x, hx, _⟩ := (hw.diagrams a ha).exists_evaluate (hw.diagrams a ha) hw.nodup y
    rw [← hx, hfinitea]
  refine ⟨w, a, b, hrun, ha, hb, hself hterminals hterminals, ?_⟩
  obtain ⟨_, hsame⟩ := hmeets hnana hnanb
  intro h
  have hfinite := (hsame.1 h fun _ => false).1 (by rw [hvaluea]; exact if_neg Bool.false_ne_true)
  rw [hvalueb, hinfinite] at hfinite
  cases hfinite

end Workspace

end ProductLine
