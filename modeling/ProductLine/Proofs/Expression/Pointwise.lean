import Mathlib.Tactic.Common
import ProductLine.Expression.Basic
import ProductLine.Proofs.Diagram.Pointwise

/-!
# Expressions at a product

An expression has a value at each product, found by doing its arithmetic on numbers (`Expression.scalar`).
The diagram that solves it is well formed (`wellFormed_solve`) and has that value everywhere
(`scalar_eq_valueAt`).
-/

namespace ProductLine

/-- The result of an operation on two numbers as it is kept by an owner. -/
def Operation.scalar (owner : Owner) (op : Operation) (a b : Binary64) : Except Error Binary64 :=
  match op with
  | .mul => .ok (owner.product a b)
  | op => (op.compute a b).map owner.normalize

/-- Numbers are multiplied as their owner does. -/
lemma Operation.scalar_mul (owner : Owner) (a b : Binary64) : mul.scalar owner a b = .ok (owner.product a b) := rfl

/-- Numbers are added and rounded. -/
lemma Operation.scalar_add (owner : Owner) (a b : Binary64) :
    add.scalar owner a b = .ok (owner.normalize (a + b)) := rfl

/-- Numbers are subtracted and rounded. -/
lemma Operation.scalar_sub (owner : Owner) (a b : Binary64) :
    sub.scalar owner a b = .ok (owner.normalize (a - b)) := rfl

/-- The number of a datum as it is kept by an owner. -/
def Owner.number (owner : Owner) (value : Datum) : Except Error Binary64 :=
  match Diagram.numberOf? false value with
  | some number => number.map owner.normalize
  | none => .error (.notOperand value.kind)

/-- The integer one is one for every owner. -/
lemma Owner.number_one (owner : Owner) : owner.number (.int 1) = .ok .one := by
  have hone : Diagram.numberOf? false (.int 1) = some (.ok .one) := by decide +kernel
  rw [number, hone]
  show Except.ok (owner.normalize .one) = .ok .one
  rw [normalize_one]

/-- The integer zero is read as zero. -/
lemma Diagram.numberOf?_zero : numberOf? false (.int 0) = some (.ok .zero) := by decide +kernel

/-- The integer zero is zero for every owner. -/
lemma Owner.number_zero (owner : Owner) : owner.number (.int 0) = .ok .zero := by
  rw [number, Diagram.numberOf?_zero]
  show Except.ok (owner.normalize .zero) = .ok .zero
  rw [normalize_zero]

/-- The value of an expression whose names have the given values. -/
def Expression.scalar (owner : Owner) (value : String → Except Error Binary64) : Expression → Except Error Binary64
  | int n => owner.number (.int n)
  | float v => .ok (owner.normalize v)
  | name text => value text
  | neg e => (e.scalar owner value).map fun v => owner.normalize (-v)
  | pos e => e.scalar owner value
  | binary op left right =>
    match left.scalar owner value with
    | .error e => .error e
    | .ok a =>
      match right.scalar owner value with
      | .error e => .error e
      | .ok b => op.scalar owner a b

namespace Diagram

/-- A combination belongs to the owner of the left diagram. -/
lemma owner_apply {op : Binary64 → Binary64 → Except Error Binary64} {a b d : Diagram}
    (h : apply op a b = .ok d) : d.owner = a.owner := by
  obtain ⟨es, _, rfl⟩ := applyTo_eq_ok h
  rfl

/-- What a binary operation on diagrams is that succeeds: a product, or a combination. -/
lemma operate_eq_ok {op : Operation} {a b d : Diagram} (h : operate op a b = .ok d) :
    (op = .mul ∧ d = a.mul b) ∨ (op ≠ .mul ∧ apply op.compute a b = .ok d) := by
  unfold operate at h
  split at h
  · cases op with
    | mul => exact .inl ⟨rfl, (Except.ok.inj h).symm⟩
    | _ => exact .inr ⟨nofun, h⟩
  · cases h

/-- The result of an operation belongs to the owner of the left diagram. -/
lemma owner_operate {op : Operation} {a b d : Diagram} (h : operate op a b = .ok d) : d.owner = a.owner := by
  rcases operate_eq_ok h with ⟨_, rfl⟩ | ⟨_, h⟩
  · rfl
  · exact owner_apply h

/-- The result of an operation on well-formed diagrams is well-formed. -/
lemma wellFormed_operate {op : Operation} {a b d : Diagram} (ha : a.WellFormed) (hb : b.WellFormed)
    (h : operate op a b = .ok d) : d.WellFormed := by
  rcases operate_eq_ok h with ⟨_, rfl⟩ | ⟨_, h⟩
  · exact wellFormed_mul ha hb
  · exact wellFormed_apply ha hb h

/-- A binary operation is carried out at every product. -/
lemma scalar_eq_valueAt_operate {op : Operation} {a b d : Diagram} (ha : a.WellFormed) (hb : b.WellFormed)
    (h : operate op a b = .ok d) (x : Nat → Bool) :
    op.scalar a.owner (a.valueAt x) (b.valueAt x) = .ok (d.valueAt x) := by
  rcases operate_eq_ok h with ⟨rfl, rfl⟩ | ⟨hop, h⟩
  · exact congrArg _ (valueAt_mul ha hb x).symm
  · rw [← valueAt_apply ha hb h x]
    cases op with
    | mul => exact absurd rfl hop
    | _ => rfl

end Diagram

namespace Expression

open Diagram

variable {owner : Owner} {bindings : Bindings}

/-- The diagram of a number has that number everywhere. -/
lemma toDiagram_datum {value : Datum} {d : Diagram} (h : (Operand.datum value).toDiagram owner = .ok d) :
    ∃ v, owner.number value = .ok (owner.normalize v) ∧ d = constant owner v := by
  simp only [Operand.toDiagram] at h
  simp only [Owner.number]
  cases hv : numberOf? false value with
  | none =>
    rw [hv] at h
    cases h
  | some number =>
    rw [hv] at h
    cases number with
    | error e => cases h
    | ok v => exact ⟨v, rfl, (Except.ok.inj h).symm⟩

/-- A diagram is an operand only for its own owner, and then it is itself. -/
lemma toDiagram_diagram {b d : Diagram} (h : (Operand.diagram b).toDiagram owner = .ok d) :
    b.owner = owner ∧ d = b := by
  simp only [Operand.toDiagram] at h
  split at h
  · exact ⟨‹_›, (Except.ok.inj h).symm⟩
  · cases h

/-- Whether every name that is bound is bound to a well-formed diagram. -/
def Bindings.WellFormed (bindings : Bindings) : Prop :=
  ∀ text operand, bindings.get? text = some operand → ∃ d : Diagram, operand = .diagram d ∧ d.WellFormed

/-- What a name stands for that is bound to a well-formed diagram. -/
lemma solve_name {text : String} {d : Diagram} (hb : bindings.WellFormed)
    (h : (name text).solve owner bindings = .ok d) :
    bindings.get? text = some (.diagram d) ∧ d.WellFormed ∧ d.owner = owner := by
  simp only [solve] at h
  cases ho : bindings.get? text with
  | none =>
    rw [ho] at h
    cases h
  | some operand =>
    rw [ho] at h
    obtain ⟨b, rfl, hwf⟩ := hb text operand ho
    obtain ⟨howner, rfl⟩ := toDiagram_diagram h
    exact ⟨rfl, hwf, howner⟩

/-- The solution of a negation is the negation of a solution. -/
lemma solve_neg {e : Expression} {d : Diagram} (h : (neg e).solve owner bindings = .ok d) :
    ∃ a, e.solve owner bindings = .ok a ∧ d = a.neg := by
  simp only [solve] at h
  cases ha : e.solve owner bindings with
  | error err =>
    rw [ha] at h
    cases h
  | ok a =>
    rw [ha] at h
    exact ⟨a, rfl, (Except.ok.inj h).symm⟩

/-- The solution of an operation is the result of the operation on two solutions. -/
lemma solve_binary {op : Operation} {left right : Expression} {d : Diagram}
    (h : (binary op left right).solve owner bindings = .ok d) :
    ∃ a b, left.solve owner bindings = .ok a ∧ right.solve owner bindings = .ok b ∧ operate op a b = .ok d := by
  simp only [solve] at h
  cases ha : left.solve owner bindings with
  | error err =>
    rw [ha] at h
    cases h
  | ok a =>
    rw [ha] at h
    cases hb : right.solve owner bindings with
    | error err =>
      rw [hb] at h
      cases h
    | ok b =>
      rw [hb] at h
      exact ⟨a, b, rfl, rfl, h⟩

/-- An expression is solved by a well-formed diagram of the owner. -/
theorem wellFormed_solve {e : Expression} {d : Diagram} (hb : bindings.WellFormed)
    (h : e.solve owner bindings = .ok d) : d.WellFormed ∧ d.owner = owner := by
  induction e generalizing d with
  | int n =>
    rw [solve] at h
    obtain ⟨v, _, rfl⟩ := toDiagram_datum h
    exact ⟨wellFormed_constant owner v, rfl⟩
  | float v =>
    obtain rfl := Except.ok.inj h
    exact ⟨wellFormed_constant owner v, rfl⟩
  | name text => exact (solve_name hb h).2
  | neg e ih =>
    obtain ⟨a, ha, rfl⟩ := solve_neg h
    exact ⟨wellFormed_neg (ih ha).1, (ih ha).2⟩
  | pos e ih => exact ih h
  | binary op left right ihl ihr =>
    obtain ⟨a, b, ha, hb, hop⟩ := solve_binary h
    exact ⟨wellFormed_operate (ihl ha).1 (ihr hb).1 hop, (owner_operate hop).trans (ihl ha).2⟩

/-- The solution has at every product the value of the expression there. -/
theorem scalar_eq_valueAt {e : Expression} {d : Diagram} (hb : bindings.WellFormed)
    (h : e.solve owner bindings = .ok d) {x : Nat → Bool} {value : String → Except Error Binary64}
    (hvalue : ∀ text ∈ e.names, ∀ b, bindings.get? text = some (.diagram b) → value text = .ok (b.valueAt x)) :
    e.scalar owner value = .ok (d.valueAt x) := by
  induction e generalizing d with
  | int n =>
    rw [solve] at h
    obtain ⟨v, hv, rfl⟩ := toDiagram_datum h
    rw [scalar, hv, valueAt_constant]
  | float v =>
    obtain rfl := Except.ok.inj h
    simp only [scalar, valueAt_constant]
  | name text => exact hvalue text (by simp [names]) d (solve_name hb h).1
  | neg e ih =>
    obtain ⟨a, ha, rfl⟩ := solve_neg h
    obtain ⟨hwf, rfl⟩ := wellFormed_solve hb ha
    rw [scalar, ih ha hvalue, valueAt_neg hwf]
    rfl
  | pos e ih => exact ih h hvalue
  | binary op left right ihl ihr =>
    obtain ⟨a, b, ha, hb', hop⟩ := solve_binary h
    obtain ⟨hwfa, rfl⟩ := wellFormed_solve hb ha
    have hwfb := (wellFormed_solve hb hb').1
    simp only [scalar, ihl ha fun t ht => hvalue t (List.mem_append_left _ ht),
      ihr hb' fun t ht => hvalue t (List.mem_append_right _ ht)]
    exact scalar_eq_valueAt_operate hwfa hwfb hop x

end Expression

end ProductLine
