import ProductLine.Proofs.Formula.Compound
import ProductLine.Proofs.Workspace.Arithmetic

/-!
# Logic by arithmetic

The diagram of a formula is one where the formula holds and zero elsewhere (`FeatureSpace.Encoded.computes`). So
conjunction is multiplication, negation is subtraction from one, and disjunction is the sum less the product; and
masking, which is multiplication by the diagram of a formula, is an action of this logic on all diagrams
(`Workspace.logic_of_run`). So masking by a feature model twice is masking once.
-/

namespace ProductLine

/-- A truth value as a number. -/
def Binary64.ofTruth : Bool → Binary64
  | true => .one
  | false => .zero

section Truth

open Binary64

/-- The true value is one. -/
@[simp] lemma Binary64.ofTruth_true : ofTruth true = .one := rfl

/-- The false value is zero. -/
@[simp] lemma Binary64.ofTruth_false : ofTruth false = .zero := rfl

/-- Truth values are numbers. -/
lemma Binary64.isNaN_ofTruth (b : Bool) : (ofTruth b).isNaN = false := by
  cases b with
  | false => rw [ofTruth_false, isNaN_zero]
  | true =>
    rw [ofTruth_true, one_eq]
    rfl

/-- One less a truth value is its negation. -/
lemma Binary64.one_sub_ofTruth (b : Bool) : .one - ofTruth b = ofTruth (!b) := by
  cases b <;> decide +kernel

/-- The sum of two truth values less their conjunction is their disjunction. -/
lemma Binary64.sum_sub_ofTruth (b c : Bool) : ofTruth b + ofTruth c - ofTruth (b && c) = ofTruth (b || c) := by
  cases b <;> cases c <;> decide +kernel

variable (owner : Owner)

/-- Every owner keeps truth values. -/
lemma Owner.normalize_ofTruth (b : Bool) : owner.normalize (ofTruth b) = ofTruth b := by
  cases b with
  | false => rw [ofTruth_false, normalize_zero]
  | true => rw [ofTruth_true, normalize_one]

/-- The sum of truth values is a small integer, which stays what it is. -/
lemma Owner.normalize_ofTruth_add (b c : Bool) :
    owner.normalize (ofTruth b + ofTruth c) = ofTruth b + ofTruth c := by
  cases b with
  | false => rw [ofTruth_false, Binary64.zero_add, normalize_ofTruth]
  | true =>
    cases c with
    | false => rw [ofTruth_false, Binary64.add_zero, normalize_ofTruth]
    | true => rw [ofTruth_true, normalize, normalize_two]

/-- A truth value times a number is the number or zero. -/
lemma Owner.product_ofTruth (b : Bool) (v : Binary64) :
    owner.product (ofTruth b) v = if b then owner.normalize v else .zero := by
  cases b with
  | false => rw [ofTruth_false, zero_product, if_neg Bool.false_ne_true]
  | true =>
    rw [ofTruth_true, if_pos rfl]
    by_cases hv : v = .zero
    · rw [hv, product_zero, normalize_zero]
    · rw [product, if_neg (not_or.2 ⟨one_ne_zero, hv⟩), Binary64.one_mul]

/-- The product of two truth values is their conjunction. -/
lemma Owner.product_ofTruth_ofTruth (b c : Bool) : owner.product (ofTruth b) (ofTruth c) = ofTruth (b && c) := by
  rw [product_ofTruth, normalize_ofTruth]
  cases b with
  | false => rw [if_neg Bool.false_ne_true, Bool.false_and, ofTruth_false]
  | true => rw [if_pos rfl, Bool.true_and]

end Truth

/-! Diagrams of formulas -/

/-- Whether a diagram is what a text was encoded as, now or earlier. -/
def FeatureSpace.Encoded (space : FeatureSpace) (text : String) (d : Diagram) : Prop :=
  ∃ before after r, FeatureSpace.encode before text = (.ok r, after) ∧ after.Extends space ∧
    d = .ofRegion after.owner r

section Computes

open Binary64

variable {space : FeatureSpace} {p q : Except Error Diagram} {u v : (String → Bool) → Bool}
  {value : (String → Bool) → Binary64}

/-- What a text was encoded as is one where its formula holds and zero elsewhere. -/
lemma FeatureSpace.Encoded.computes {text : String} {d : Diagram} (h : space.Encoded text d) :
    ∃ f, Formula.ofText text = .ok f ∧ Computes space (.ok d) fun x => ofTruth (f.holds x) := by
  obtain ⟨before, after, r, hencode, hlater, rfl⟩ := h
  obtain ⟨f, hf, hholds⟩ := encode_holds hencode
  refine ⟨f, hf, _, rfl, (Diagram.Canonical.ofRegion (within_of_encode hencode)).mono hlater, fun x => ?_⟩
  rw [Diagram.evaluate, Diagram.valueAt_ofRegion, hholds space hlater]
  show _ = ofTruth (f.holds x)
  cases f.holds x with
  | false => rw [ofTruth_false, if_neg Bool.false_ne_true]
  | true => rw [ofTruth_true, if_pos rfl]

/-- A datum that is a number computes that number everywhere. -/
lemma computes_datum {datum : Datum} {number : Binary64} (h : space.owner.number datum = .ok number) :
    Computes space ((Operand.datum datum).toDiagram space.owner) fun _ => number := by
  have hvalue (x : Nat → Bool) : (Operand.datum datum).valueAt space.owner x = .ok number := h
  cases hd : (Operand.datum datum).toDiagram space.owner with
  | ok d =>
    have hcanonical : (Operand.datum datum).Canonical space := trivial
    refine ⟨d, rfl, Operand.canonical_toDiagram hcanonical hd, fun x => ?_⟩
    have hx := hvalue (space.product x)
    rw [Operand.valueAt_of_toDiagram hd] at hx
    exact Except.ok.inj hx
  | error e =>
    have hx := hvalue fun _ => false
    rw [Operand.valueAt_of_toDiagram_error hd] at hx
    cases hx

/-- Whether an owner keeps a number as it is. -/
structure Owner.Keeps (owner : Owner) (v : Binary64) : Prop where
  normalize : owner.normalize v = v
  number : v.isNaN = false

/-- A number that is kept is kept where it is masked. -/
lemma Owner.Keeps.mask {owner : Owner} {v : Binary64} (h : owner.Keeps v) (b : Bool) :
    owner.Keeps (if b then v else .zero) := by
  split
  · exact h
  · exact ⟨owner.normalize_zero, isNaN_zero⟩

/-- The values of a canonical diagram that takes numbers only are kept. -/
lemma Diagram.Canonical.keeps_evaluate {d : Diagram} (h : d.Canonical space) (hnan : d.hasNaN = false)
    (x : String → Bool) : space.owner.Keeps (d.evaluate space x) := by
  refine ⟨?_, isNaN_valueAt hnan _⟩
  rw [← h.owner]
  exact h.wellFormed.normalize_valueAt _

/-- Conjunction is multiplication. -/
lemma Computes.conjunction (hspace : space.features.Nodup) (hp : Computes space p fun x => ofTruth (u x))
    (hq : Computes space q fun x => ofTruth (v x)) :
    Computes space (Operation.mul.on p q) fun x => ofTruth (u x && v x) := by
  refine hp.on hspace hq fun x => ?_
  rw [Operation.scalar_mul, Owner.product_ofTruth_ofTruth]

/-- Negation is subtraction from one. -/
lemma Computes.negation {d : Diagram} (hspace : space.features.Nodup)
    (h : Computes space (.ok d) fun x => ofTruth (u x)) :
    Computes space (Operand.operate .sub (.datum (.int 1)) (.diagram d)) fun x => ofTruth (!u x) := by
  refine (computes_datum space.owner.number_one).operate hspace h fun x => ?_
  rw [Operation.scalar_sub, one_sub_ofTruth, Owner.normalize_ofTruth]

/-- Disjunction is the sum less the product. -/
lemma Computes.disjunction (hspace : space.features.Nodup) (hp : Computes space p fun x => ofTruth (u x))
    (hq : Computes space q fun x => ofTruth (v x)) :
    Computes space (Operation.sub.on (Operation.add.on p q) (Operation.mul.on p q))
      fun x => ofTruth (u x || v x) := by
  have hsum : Computes space (Operation.add.on p q) fun x => ofTruth (u x) + ofTruth (v x) := by
    refine hp.on hspace hq fun x => ?_
    rw [Operation.scalar_add, Owner.normalize_ofTruth_add]
  refine hsum.on hspace (hp.conjunction hspace hq) fun x => ?_
  rw [Operation.scalar_sub, sum_sub_ofTruth, Owner.normalize_ofTruth]

/-! Masking -/

variable {r : Except Error Diagram}

/-- Multiplication by truth values leaves the values where they hold, and zero elsewhere. -/
lemma Computes.mask (hspace : space.features.Nodup) (hp : Computes space p fun x => ofTruth (u x))
    (hr : Computes space r value) (hkeeps : ∀ x, space.owner.Keeps (value x)) :
    Computes space (Operation.mul.on p r) fun x => if u x then value x else .zero := by
  refine hp.on hspace hr fun x => ?_
  rw [Operation.scalar_mul, Owner.product_ofTruth, (hkeeps x).normalize]

/-- Masking twice is masking by a conjunction. -/
lemma Computes.mask_mask (hspace : space.features.Nodup) (hp : Computes space p fun x => ofTruth (u x))
    (hq : Computes space q fun x => ofTruth (v x)) (hr : Computes space r value)
    (hkeeps : ∀ x, space.owner.Keeps (value x)) :
    SameDiagram (Operation.mul.on p (Operation.mul.on q r)) (Operation.mul.on (Operation.mul.on p q) r) := by
  have hinner := hq.mask hspace hr hkeeps
  have htwice := hp.mask hspace hinner fun x => (hkeeps x).mask (v x)
  refine (htwice.same_iff hspace ((hp.conjunction hspace hq).mask hspace hr hkeeps)).2 fun x => ⟨?_, ?_⟩
  · simp only [Bool.and_eq_true, ite_and]
  · exact (((hkeeps x).mask (v x)).mask (u x)).number

/-- Masks may change places. -/
lemma Computes.mask_comm (hspace : space.features.Nodup) (hp : Computes space p fun x => ofTruth (u x))
    (hq : Computes space q fun x => ofTruth (v x)) (hr : Computes space r value)
    (hkeeps : ∀ x, space.owner.Keeps (value x)) :
    SameDiagram (Operation.mul.on (Operation.mul.on p q) r) (Operation.mul.on q (Operation.mul.on p r)) := by
  have hinner := hp.mask hspace hr hkeeps
  have htwice := hq.mask hspace hinner fun x => (hkeeps x).mask (u x)
  refine (((hp.conjunction hspace hq).mask hspace hr hkeeps).same_iff hspace htwice).2 fun x => ⟨?_, ?_⟩
  · simp only [Bool.and_comm (u x), Bool.and_eq_true, ite_and]
  · exact ((hkeeps x).mask (u x && v x)).number

/-- Masking twice by the same diagram is masking once. -/
lemma Computes.mask_self (hspace : space.features.Nodup) (hp : Computes space p fun x => ofTruth (u x))
    (hr : Computes space r value) (hkeeps : ∀ x, space.owner.Keeps (value x)) :
    SameDiagram (Operation.mul.on p (Operation.mul.on p r)) (Operation.mul.on p r) := by
  have honce := hp.mask hspace hr hkeeps
  have htwice := hp.mask hspace honce fun x => (hkeeps x).mask (u x)
  refine (htwice.same_iff hspace honce).2 fun x => ⟨?_, (((hkeeps x).mask (u x)).mask (u x)).number⟩
  simp only [← ite_and, and_self]

/-- What a mask and its negation leave are together what was there. -/
lemma Computes.mask_add {d : Diagram} (hspace : space.features.Nodup)
    (h : Computes space (.ok d) fun x => ofTruth (u x)) (hr : Computes space r value)
    (hkeeps : ∀ x, space.owner.Keeps (value x)) :
    SameDiagram (Operation.add.on (Operation.mul.on (.ok d) r)
      (Operation.mul.on (Operand.operate .sub (.datum (.int 1)) (.diagram d)) r)) r := by
  have hinside := h.mask hspace hr hkeeps
  have houtside := (h.negation hspace).mask hspace hr hkeeps
  have hsum : Computes space (Operation.add.on (Operation.mul.on (.ok d) r)
      (Operation.mul.on (Operand.operate .sub (.datum (.int 1)) (.diagram d)) r)) value := by
    refine hinside.on hspace houtside fun x => ?_
    rw [Operation.scalar_add]
    cases u x with
    | false => rw [if_neg Bool.false_ne_true, Bool.not_false, if_pos rfl, Binary64.zero_add, (hkeeps x).normalize]
    | true => rw [if_pos rfl, Bool.not_true, if_neg Bool.false_ne_true, Binary64.add_zero, (hkeeps x).normalize]
  exact (hsum.same_iff hspace hr).2 fun x => ⟨rfl, (hkeeps x).number⟩

/-- What a text of a formula was encoded as is any diagram with the truth values of that formula. -/
lemma FeatureSpace.Encoded.same (hspace : space.features.Nodup) {text : String} {d : Diagram} {f : Formula}
    (hd : space.Encoded text d) (hf : Formula.ofText text = .ok f)
    (hp : Computes space p fun x => ofTruth (f.holds x)) : SameDiagram (.ok d) p := by
  obtain ⟨g, hg, hcomputes⟩ := hd.computes
  obtain rfl := Except.ok.inj (hf.symm.trans hg)
  exact (hcomputes.same_iff hspace hp).2 fun x => ⟨rfl, isNaN_ofTruth _⟩

end Computes

namespace Workspace

variable {settings : Settings} {serial : Nat} {w : Workspace} {f g : String} {a b : Diagram}

/-- Whatever was done in a feature space, texts of formulas have compounds: in parentheses and joined by `&`,
joined by `|` or with `!` before them they are encoded in every space, and what they were encoded as is the
product of their diagrams, their sum less their product, or one less the diagram. Multiplication by such
diagrams is idempotent, acts on every diagram that takes numbers only, infinities among them, and splits it
into two parts whose sum it is. So masking by the same feature model again changes nothing. -/
theorem logic_of_run (h : (fresh settings serial).Run w) (hf : w.space.Encoded f a) (hg : w.space.Encoded g b) :
    ((∀ space, ∀ text ∈ ["(" ++ f ++ ") & (" ++ g ++ ")", "!(" ++ f ++ ")", "(" ++ f ++ ") | (" ++ g ++ ")"],
        ∃ r after, FeatureSpace.encode space text = (.ok r, after)) ∧
      (∀ d, w.space.Encoded ("(" ++ f ++ ") & (" ++ g ++ ")") d →
        SameDiagram (.ok d) (Operation.mul.on (.ok a) (.ok b))) ∧
      (∀ d, w.space.Encoded ("!(" ++ f ++ ")") d →
        SameDiagram (.ok d) (Operand.operate .sub (.datum (.int 1)) (.diagram a))) ∧
      (∀ d, w.space.Encoded ("(" ++ f ++ ") | (" ++ g ++ ")") d →
        SameDiagram (.ok d)
          (Operation.sub.on (Operation.add.on (.ok a) (.ok b)) (Operation.mul.on (.ok a) (.ok b)))) ∧
      SameDiagram (Operation.mul.on (.ok a) (.ok a)) (.ok a)) ∧
    ∀ d ∈ w.diagrams, d.hasNaN = false →
      SameDiagram (Operation.mul.on (.ok a) (Operation.mul.on (.ok b) (.ok d)))
        (Operation.mul.on (Operation.mul.on (.ok a) (.ok b)) (.ok d)) ∧
      SameDiagram (Operation.mul.on (Operation.mul.on (.ok a) (.ok b)) (.ok d))
        (Operation.mul.on (.ok b) (Operation.mul.on (.ok a) (.ok d))) ∧
      SameDiagram (Operation.add.on (Operation.mul.on (.ok a) (.ok d))
        (Operation.mul.on (Operand.operate .sub (.datum (.int 1)) (.diagram a)) (.ok d))) (.ok d) ∧
      ∀ before after source model, FeatureModel.build before source = (.ok model, after) → after.Extends w.space →
        SameDiagram (Operation.mul.on (.ok model.diagram) (Operation.mul.on (.ok model.diagram) (.ok d)))
          (Operation.mul.on (.ok model.diagram) (.ok d)) := by
  have hw := canonical_of_run h
  have hspace := hw.nodup
  obtain ⟨φ, hφ, ha⟩ := hf.computes
  obtain ⟨ψ, hψ, hb⟩ := hg.computes
  have hand := Formula.ofText_and hφ hψ
  have hnot := Formula.ofText_not hφ
  have hor := Formula.ofText_or hφ hψ
  refine ⟨⟨?_, ?_, ?_, ?_, ?_⟩, fun d hd hnan => ?_⟩
  · intro space text htext
    simp only [List.mem_cons, List.not_mem_nil, or_false] at htext
    rcases htext with rfl | rfl | rfl
    · exact FeatureSpace.exists_encode hand space
    · exact FeatureSpace.exists_encode hnot space
    · exact FeatureSpace.exists_encode hor space
  · exact fun d hd => hd.same hspace hand (ha.conjunction hspace hb)
  · exact fun d hd => hd.same hspace hnot (ha.negation hspace)
  · exact fun d hd => hd.same hspace hor (ha.disjunction hspace hb)
  · refine ((ha.conjunction hspace ha).same_iff hspace ha).2 fun x => ⟨?_, Binary64.isNaN_ofTruth _⟩
    rw [Bool.and_self]
  · have hcomputes := computes_ok (hw.diagrams d hd)
    have hkeeps := (hw.diagrams d hd).keeps_evaluate hnan
    refine ⟨ha.mask_mask hspace hb hcomputes hkeeps, ha.mask_comm hspace hb hcomputes hkeeps,
      ha.mask_add hspace hcomputes hkeeps, ?_⟩
    intro before after source model hbuild hlater
    -- the feature model is the diagram of a text that was encoded, so it masks like any other
    obtain ⟨r, hencode, hmodel⟩ := Session.encode_of_build hbuild
    have hencoded : w.space.Encoded source model.diagram := ⟨before, after, r, hencode, hlater, hmodel⟩
    obtain ⟨μ, _, hmask⟩ := hencoded.computes
    exact hmask.mask_self hspace hcomputes hkeeps

/-- The theorem applies, for example, to a feature and the negation of another one. -/
theorem logic_of_run_negation : ∃ w a b c, (fresh .standard 0).Run w ∧ w.space.Encoded "a" a ∧
    w.space.Encoded "!b" b ∧ w.space.Encoded "(a) & (!b)" c ∧
    SameDiagram (.ok c) (Operation.mul.on (.ok a) (.ok b)) ∧
    SameDiagram (Operation.mul.on (.ok a) (Operation.mul.on (.ok b) (.ok a)))
      (Operation.mul.on (Operation.mul.on (.ok a) (.ok b)) (.ok a)) := by
  have hf : Formula.ofText "a" = .ok (.feature "a") := by decide +kernel
  have hg : Formula.ofText "!b" = .ok (.not (.feature "b")) := by decide +kernel
  obtain ⟨r, s, hr⟩ := FeatureSpace.exists_encode hf (fresh .standard 0).space
  obtain ⟨r', s', hr'⟩ := FeatureSpace.exists_encode hg s
  obtain ⟨r'', s'', hr''⟩ := FeatureSpace.exists_encode (Formula.ofText_and hf hg) s'
  have hs' : s'.Extends s'' := by simpa only [hr''] using s'.encode_extends ("(" ++ "a" ++ ") & (" ++ "!b" ++ ")")
  have hs : s.Extends s'' := by
    have hextends := s.encode_extends "!b"
    rw [hr'] at hextends
    exact hextends.trans hs'
  have hrun : (fresh .standard 0).Run _ := .tail (.tail (.single (.encoded hr)) (.encoded hr')) (.encoded hr'')
  have ha : FeatureSpace.Encoded s'' "a" (.ofRegion s.owner r) := ⟨_, _, _, hr, hs, rfl⟩
  have hb : FeatureSpace.Encoded s'' "!b" (.ofRegion s'.owner r') := ⟨_, _, _, hr', hs', rfl⟩
  have hc : FeatureSpace.Encoded s'' "(a) & (!b)" (.ofRegion s''.owner r'') := ⟨_, _, _, hr'', .refl s'', rfl⟩
  obtain ⟨⟨_, hand, _⟩, haction⟩ := logic_of_run hrun ha hb
  have hmem := List.mem_cons_of_mem (Diagram.ofRegion s''.owner r'')
    (List.mem_cons_of_mem (Diagram.ofRegion s'.owner r') (List.mem_singleton_self (Diagram.ofRegion s.owner r)))
  obtain ⟨hassoc, _⟩ := haction _ hmem (hasNaN_ofRegion s.owner r)
  exact ⟨_, _, _, _, hrun, ha, hb, hc, hand _ hc, hassoc⟩

end Workspace

end ProductLine
