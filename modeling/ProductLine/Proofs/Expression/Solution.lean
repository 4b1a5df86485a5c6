import Mathlib.Tactic.Common
import ProductLine.Proofs.Binary64.Rounding
import ProductLine.Proofs.Diagram.Canonical
import ProductLine.Proofs.Diagram.Meeting

/-!
# Solutions at products

To solve an expression symbolically is to find its value at every product, errors included. Where the solution
exists it is canonical and has these values (`solve_ok`), and where it does not there is a product at which the
arithmetic on numbers fails with the same error (`solve_error`), although the solution treats products together that
share their values. Names may be bound to anything; what cannot be used has no value at any product.
-/

namespace ProductLine

open Diagram

namespace Operand

/-- Whether an operand is canonical if it is a diagram of a feature space. -/
def Canonical (space : FeatureSpace) : Operand → Prop
  | diagram d => d.owner = space.owner → d.Canonical space
  | datum _ => True

/-- The value of an operand at a product, as it is kept by an owner. -/
def valueAt (owner : Owner) (x : Nat → Bool) : Operand → Except Error Binary64
  | diagram d => if d.owner = owner then .ok (d.valueAt x) else .error .foreignDiagram
  | datum value => owner.number value

/-- Whether an operand is a diagram of an owner, an integer that rounds to a finite number, or a float. -/
def Usable (owner : Owner) : Operand → Prop
  | diagram d => d.owner = owner
  | datum (.int n) => n.natAbs + Binary64.twoTo 970 < Binary64.twoTo 1024
  | datum (.float _) => True
  | datum _ => False

variable {space : FeatureSpace} {owner : Owner} {operand : Operand} {d : Diagram} {err : Error}

/-- The diagram of an operand belongs to the owner asked for. -/
lemma owner_toDiagram (h : operand.toDiagram owner = .ok d) : d.owner = owner := by
  cases operand with
  | diagram b =>
    obtain ⟨howner, rfl⟩ := Expression.toDiagram_diagram h
    exact howner
  | datum value =>
    obtain ⟨v, _, rfl⟩ := Expression.toDiagram_datum h
    rfl

/-- The diagram of a canonical operand is canonical. -/
lemma canonical_toDiagram (hcanonical : operand.Canonical space) (h : operand.toDiagram space.owner = .ok d) :
    d.Canonical space := by
  cases operand with
  | diagram b =>
    obtain ⟨howner, rfl⟩ := Expression.toDiagram_diagram h
    exact hcanonical howner
  | datum value =>
    obtain ⟨v, _, rfl⟩ := Expression.toDiagram_datum h
    exact .constant space v

/-- An operand has the values of its diagram. -/
lemma valueAt_of_toDiagram (h : operand.toDiagram owner = .ok d) (x : Nat → Bool) :
    operand.valueAt owner x = .ok (d.valueAt x) := by
  cases operand with
  | diagram b =>
    obtain ⟨howner, rfl⟩ := Expression.toDiagram_diagram h
    exact if_pos howner
  | datum value =>
    obtain ⟨v, hv, rfl⟩ := Expression.toDiagram_datum h
    rw [valueAt, hv, valueAt_constant]

/-- What is no diagram has no value at any product, for the same reason. -/
lemma valueAt_of_toDiagram_error (h : operand.toDiagram owner = .error err) (x : Nat → Bool) :
    operand.valueAt owner x = .error err := by
  cases operand with
  | diagram b =>
    simp only [toDiagram] at h
    split at h
    · cases h
    · rename_i howner
      cases h
      exact if_neg howner
  | datum value =>
    simp only [toDiagram] at h
    simp only [valueAt, Owner.number]
    cases hnumber : numberOf? false value with
    | none =>
      rw [hnumber] at h
      cases h
      rfl
    | some number =>
      rw [hnumber] at h
      cases number with
      | ok v => cases h
      | error e =>
        cases h
        rfl

/-- The value at a product is decided by the declared features. -/
lemma valueAt_congr (hcanonical : operand.Canonical space) {x y : Nat → Bool}
    (hxy : ∀ level < space.features.length, x level = y level) :
    operand.valueAt space.owner x = operand.valueAt space.owner y := by
  cases operand with
  | diagram b =>
    by_cases howner : b.owner = space.owner
    · rw [valueAt, valueAt, if_pos howner, if_pos howner, (hcanonical howner).valueAt_congr hxy]
    · rw [valueAt, valueAt, if_neg howner, if_neg howner]
  | datum value => rfl

/-- A datum is a number for an owner exactly if it can be used as an operand. -/
lemma exists_number_iff (value : Datum) :
    (∃ v, owner.number value = .ok v) ↔ (Operand.datum value).Usable owner := by
  cases value with
  | int n =>
    refine Iff.trans ?_ (Binary64.isSome_ofInt?_iff n)
    simp only [Owner.number, numberOf?]
    generalize Binary64.ofInt? n = number
    cases number with
    | none =>
      constructor
      · rintro ⟨v, hv⟩
        cases hv
      · intro h
        cases h
    | some v => exact iff_of_true ⟨owner.normalize v, rfl⟩ rfl
  | float v => exact iff_of_true ⟨owner.normalize v, rfl⟩ trivial
  | _ =>
    refine iff_of_false ?_ id
    rintro ⟨v, hv⟩
    cases hv

/-- An operand has a value exactly if it can be used, whatever the product. -/
lemma exists_valueAt_iff (x : Nat → Bool) : (∃ v, operand.valueAt owner x = .ok v) ↔ operand.Usable owner := by
  cases operand with
  | diagram b =>
    rw [valueAt]
    split
    · exact iff_of_true ⟨_, rfl⟩ ‹_›
    · refine iff_of_false ?_ ‹_›
      rintro ⟨v, hv⟩
      cases hv
  | datum value => exact exists_number_iff value

/-- An operand and a diagram of an owner are combined as diagrams of that owner. -/
lemma operate_of_toDiagram {p q : Diagram} (op : Operation) (hoperand : operand.toDiagram owner = .ok p)
    (hq : q.owner = owner) : operate op operand (.diagram q) = Diagram.operate op p q := by
  have hright : (diagram q).toDiagram owner = .ok q := if_pos hq
  have howner : (operand.owner?.or (diagram q).owner?).getD default = owner := by
    cases operand with
    | diagram d => exact (Expression.toDiagram_diagram hoperand).1
    | datum value => exact hq
  simp only [operate, howner, hoperand, hright]

end Operand

/-- Whether an error says that an operand cannot be used or that numbers have no result. -/
def Error.OfArithmetic : Error → Prop
  | .unbound _ _ => True
  | .foreignDiagram => True
  | .notOperand _ => True
  | .integerTooLarge => True
  | .divisionByZero _ => True
  | .zeroToNegative _ => True
  | .negativeToFraction _ _ => True
  | .beyondRange => True
  | _ => False

/-- Errors with numbers are errors of arithmetic. -/
lemma Error.OfNumbers.ofArithmetic {e : Error} (h : e.OfNumbers) : e.OfArithmetic := by
  cases e with
  | divisionByZero | zeroToNegative | negativeToFraction | beyondRange | integerTooLarge => trivial
  | _ => exact h.elim

/-- A text that is not empty begins a longer one with its first character. -/
lemma head?_append {s t : String} {c : Char} (h : s.toList.head? = some c) : (s ++ t).toList.head? = some c := by
  rw [String.toList_append, List.head?_append, h]
  rfl

/-- No error of arithmetic has the message of an expression that is none. -/
lemma Error.OfArithmetic.message_ne {e : Error} (h : e.OfArithmetic) (kind : String) :
    e.message ≠ "Unexpected expression node " ++ kind := by
  obtain ⟨c, hhead, hc⟩ : ∃ c, e.message.toList.head? = some c ∧ c ≠ 'U' := by
    cases e with
    | unbound => exact ⟨'V', head?_append (head?_append (head?_append (head?_append rfl))), by decide⟩
    | foreignDiagram => exact ⟨'C', rfl, by decide⟩
    | notOperand => exact ⟨'C', head?_append (head?_append rfl), by decide⟩
    | integerTooLarge => exact ⟨'i', rfl, by decide⟩
    | divisionByZero => exact ⟨'D', head?_append (head?_append rfl), by decide⟩
    | zeroToNegative => exact ⟨'Z', head?_append (head?_append rfl), by decide⟩
    | negativeToFraction => exact ⟨'N', head?_append (head?_append (head?_append (head?_append rfl))), by decide⟩
    | beyondRange => exact ⟨'m', rfl, by decide⟩
    | _ => exact h.elim
  intro hmessage
  rw [hmessage, head?_append (c := 'U') rfl] at hhead
  exact hc (Option.some.inj hhead).symm

namespace Operation

variable {owner : Owner} {op : Operation} {a b : Binary64} {err : Error}

/-- An operation on numbers fails as it does before rounding. -/
lemma scalar_eq_error : op.scalar owner a b = .error err ↔ op ≠ .mul ∧ op.compute a b = .error err := by
  have hmap : (op.compute a b).map owner.normalize = .error err ↔ op.compute a b = .error err := by
    cases op.compute a b with
    | ok u => exact iff_of_false nofun nofun
    | error e => exact ⟨fun h => congrArg _ (Except.error.inj h), fun h => congrArg _ (Except.error.inj h)⟩
  cases op with
  | mul => exact iff_of_false nofun fun h => h.1 rfl
  | _ => exact hmap.trans (iff_and_self.2 fun _ => nofun)

end Operation

namespace Diagram

/-- Every operation but the product combines diagrams of one owner by what it does to numbers. -/
lemma operate_eq_apply {op : Operation} {a b : Diagram} (hop : op ≠ .mul) (howner : a.owner = b.owner) :
    operate op a b = apply op.compute a b := by
  unfold operate
  rw [if_pos howner]
  cases op with
  | mul => exact absurd rfl hop
  | _ => rfl

/-- If an operation on diagrams of one owner fails, it fails on their values at some product. -/
lemma exists_of_operate_error {op : Operation} {a b : Diagram} {err : Error} (ha : a.WellFormed) (hb : b.WellFormed)
    (howner : a.owner = b.owner) (h : operate op a b = .error err) :
    ∃ x, op.scalar a.owner (a.valueAt x) (b.valueAt x) = .error err := by
  have hop : op ≠ .mul := by
    rintro rfl
    rw [operate, if_pos howner] at h
    cases h
  rw [operate_eq_apply hop howner] at h
  obtain ⟨x, hx⟩ := apply_eq_error ha hb h
  exact ⟨x, Operation.scalar_eq_error.2 ⟨hop, hx⟩⟩

/-- An operation that has a result on the values at every product makes a canonical diagram with these results. -/
lemma Canonical.exists_operate {space : FeatureSpace} {op : Operation} {a b : Diagram} (ha : a.Canonical space)
    (hb : b.Canonical space) (h : ∀ x, ∃ v, op.scalar space.owner (a.valueAt x) (b.valueAt x) = .ok v) :
    ∃ d, Diagram.operate op a b = .ok d ∧ d.Canonical space ∧
      ∀ x, op.scalar space.owner (a.valueAt x) (b.valueAt x) = .ok (d.valueAt x) := by
  cases hd : Diagram.operate op a b with
  | ok d =>
    refine ⟨d, rfl, ha.operate hb hd, fun x => ?_⟩
    rw [← ha.owner]
    exact scalar_eq_valueAt_operate ha.wellFormed hb.wellFormed hd x
  | error err =>
    obtain ⟨x, hx⟩ := exists_of_operate_error ha.wellFormed hb.wellFormed (ha.owner.trans hb.owner.symm) hd
    obtain ⟨v, hv⟩ := h x
    rw [ha.owner, hv] at hx
    cases hx

end Diagram

namespace Expression

/-- The value of a name at a product. -/
def Bindings.valueAt (bindings : Bindings) (owner : Owner) (x : Nat → Bool) (text : String) :
    Except Error Binary64 :=
  match bindings.get? text with
  | some operand => operand.valueAt owner x
  | none => .error (.unbound text bindings.names)

/-- Whether all diagrams of a feature space that names are bound to are canonical. -/
def Bindings.Canonical (bindings : Bindings) (space : FeatureSpace) : Prop :=
  ∀ text operand, bindings.get? text = some operand → operand.Canonical space

variable {space : FeatureSpace} {owner : Owner} {bindings : Bindings} {e : Expression} {d : Diagram} {err : Error}

/-- What is bound has the same values where declared features are answered alike. -/
lemma Bindings.valueAt_congr (hb : bindings.Canonical space) {x y : Nat → Bool}
    (hxy : ∀ level < space.features.length, x level = y level) :
    bindings.valueAt space.owner x = bindings.valueAt space.owner y := by
  funext text
  unfold valueAt
  cases hget : bindings.get? text with
  | none => rfl
  | some operand => exact Operand.valueAt_congr (hb text operand hget) hxy

/-- A solution is canonical and has at every product the value of the expression there. -/
theorem solve_ok (hb : bindings.Canonical space) (h : e.solve space.owner bindings = .ok d) :
    d.Canonical space ∧ ∀ x, e.scalar space.owner (bindings.valueAt space.owner x) = .ok (d.valueAt x) := by
  induction e generalizing d with
  | int n =>
    rw [solve] at h
    have hcanonical : (Operand.datum (.int n)).Canonical space := trivial
    refine ⟨Operand.canonical_toDiagram hcanonical h, fun x => ?_⟩
    simp only [scalar]
    exact Operand.valueAt_of_toDiagram h x
  | float v =>
    obtain rfl := Except.ok.inj h
    refine ⟨.constant space v, fun x => ?_⟩
    simp only [scalar, valueAt_constant]
  | name text =>
    simp only [solve] at h
    simp only [scalar, Bindings.valueAt]
    cases hget : bindings.get? text with
    | none =>
      rw [hget] at h
      cases h
    | some operand =>
      rw [hget] at h
      exact ⟨Operand.canonical_toDiagram (hb text operand hget) h, Operand.valueAt_of_toDiagram h⟩
  | neg e ih =>
    obtain ⟨a, ha, rfl⟩ := solve_neg h
    obtain ⟨hcanonical, hvalue⟩ := ih ha
    refine ⟨hcanonical.neg, fun x => ?_⟩
    rw [scalar, hvalue x, valueAt_neg hcanonical.wellFormed, hcanonical.owner]
    rfl
  | pos e ih => exact ih h
  | binary op left right ihl ihr =>
    obtain ⟨a, b, ha, hb', hop⟩ := solve_binary h
    obtain ⟨hcanonicala, hvaluea⟩ := ihl ha
    obtain ⟨hcanonicalb, hvalueb⟩ := ihr hb'
    refine ⟨hcanonicala.operate hcanonicalb hop, fun x => ?_⟩
    have hvalue := scalar_eq_valueAt_operate hcanonicala.wellFormed hcanonicalb.wellFormed hop x
    rw [hcanonicala.owner] at hvalue
    simp only [scalar, hvaluea x, hvalueb x]
    exact hvalue

/-- An expression without a solution has no value at some product, for the same reason. -/
theorem solve_error (hb : bindings.Canonical space) (h : e.solve space.owner bindings = .error err) :
    ∃ x, e.scalar space.owner (bindings.valueAt space.owner x) = .error err := by
  induction e with
  | int n =>
    rw [solve] at h
    exact ⟨fun _ => false, Operand.valueAt_of_toDiagram_error h fun _ => false⟩
  | float v => cases h
  | name text =>
    refine ⟨fun _ => false, ?_⟩
    simp only [solve] at h
    simp only [scalar, Bindings.valueAt]
    cases hget : bindings.get? text with
    | none =>
      rw [hget] at h
      exact congrArg _ (Except.error.inj h)
    | some operand =>
      rw [hget] at h
      exact Operand.valueAt_of_toDiagram_error h _
  | neg e ih =>
    simp only [solve] at h
    cases hsolve : e.solve space.owner bindings with
    | ok a =>
      rw [hsolve] at h
      cases h
    | error e' =>
      rw [hsolve] at h
      cases h
      obtain ⟨x, hx⟩ := ih hsolve
      refine ⟨x, ?_⟩
      rw [scalar, hx]
      rfl
  | pos e ih => exact ih h
  | binary op left right ihl ihr =>
    simp only [solve] at h
    cases ha : left.solve space.owner bindings with
    | error e' =>
      rw [ha] at h
      cases h
      obtain ⟨x, hx⟩ := ihl ha
      refine ⟨x, ?_⟩
      simp only [scalar, hx]
    | ok a =>
      rw [ha] at h
      obtain ⟨hcanonicala, hvaluea⟩ := solve_ok hb ha
      cases hb' : right.solve space.owner bindings with
      | error e' =>
        rw [hb'] at h
        cases h
        obtain ⟨x, hx⟩ := ihr hb'
        refine ⟨x, ?_⟩
        simp only [scalar, hvaluea x, hx]
      | ok b =>
        -- both operands have values everywhere, so the operation itself fails somewhere
        rw [hb'] at h
        obtain ⟨hcanonicalb, hvalueb⟩ := solve_ok hb hb'
        obtain ⟨x, hx⟩ := exists_of_operate_error hcanonicala.wellFormed hcanonicalb.wellFormed
          (hcanonicala.owner.trans hcanonicalb.owner.symm) h
        rw [hcanonicala.owner] at hx
        refine ⟨x, ?_⟩
        simp only [scalar, hvaluea x, hvalueb x]
        exact hx

/-- A solution belongs to the owner asked for. -/
lemma owner_solve (h : e.solve owner bindings = .ok d) : d.owner = owner := by
  induction e generalizing d with
  | int n => exact Operand.owner_toDiagram h
  | float v =>
    obtain rfl := Except.ok.inj h
    rfl
  | name text =>
    simp only [solve] at h
    split at h
    · exact Operand.owner_toDiagram h
    · cases h
  | neg e ih =>
    obtain ⟨a, ha, rfl⟩ := solve_neg h
    have howner : a.owner = owner := ih ha
    exact howner
  | pos e ih => exact ih h
  | binary op left right ihl ihr =>
    obtain ⟨a, b, ha, _, hop⟩ := solve_binary h
    exact (owner_operate hop).trans (ihl ha)

/-- An expression whose names are all bound to diagrams of the owner has a solution unless the arithmetic on numbers
fails, whatever the diagrams are. -/
theorem ofNumbers_solve (hbound : ∀ text ∈ e.names, ∃ d, bindings.get? text = some (.diagram d) ∧ d.owner = owner)
    (h : e.solve owner bindings = .error err) : err.OfNumbers := by
  obtain ⟨operand, hoperand, hfrom⟩ | ⟨text, ht, hnone, _⟩ | ⟨op, _, _, a, b, ha, hb, hop⟩ := solve_eq_error h
  · rcases hfrom with ⟨n, rfl⟩ | ⟨text, ht, hget⟩
    · obtain ⟨_, hne, _⟩ | ⟨_, hvalue, hnumber, _⟩ | ⟨_, _, rfl⟩ := Operand.toDiagram_eq_error hoperand
      · cases hne
      · cases hvalue
        cases hnumber
      · trivial
    · obtain ⟨d, hd, howner⟩ := hbound text ht
      obtain rfl := Option.some.inj (hget.symm.trans hd)
      rw [Operand.toDiagram, if_pos howner] at hoperand
      cases hoperand
  · obtain ⟨d, hd, _⟩ := hbound text ht
    rw [hnone] at hd
    cases hd
  · rcases operate_eq_error hop with ⟨hne, _⟩ | hnumbers
    · exact absurd ((owner_solve ha).trans (owner_solve hb).symm) hne
    · exact hnumbers

/-- If an expression has a value, so have all its names. -/
lemma exists_value_of_scalar {value : String → Except Error Binary64} {v : Binary64}
    (h : e.scalar owner value = .ok v) : ∀ text ∈ e.names, ∃ u, value text = .ok u := by
  induction e generalizing v with
  | int | float => simp [names]
  | name text =>
    intro text' ht
    obtain rfl := List.mem_singleton.1 ht
    exact ⟨v, h⟩
  | neg e ih =>
    rw [scalar] at h
    cases hvalue : e.scalar owner value with
    | error e' =>
      rw [hvalue] at h
      cases h
    | ok u => exact ih hvalue
  | pos e ih => exact ih h
  | binary op left right ihl ihr =>
    simp only [scalar] at h
    cases hleft : left.scalar owner value with
    | error e' =>
      rw [hleft] at h
      cases h
    | ok a =>
      rw [hleft] at h
      cases hright : right.scalar owner value with
      | error e' =>
        rw [hright] at h
        cases h
      | ok b =>
        intro text ht
        rcases List.mem_append.1 ht with ht | ht
        · exact ihl hleft text ht
        · exact ihr hright text ht

/-- The value of an expression is decided by what its names stand for. -/
lemma scalar_congr {value value' : String → Except Error Binary64}
    (h : ∀ text ∈ e.names, value text = value' text) : e.scalar owner value = e.scalar owner value' := by
  induction e with
  | int | float => rfl
  | name text => exact h text (List.mem_singleton_self text)
  | neg e ih => rw [scalar, scalar, ih h]
  | pos e ih => exact ih h
  | binary op left right ihl ihr =>
    rw [scalar, scalar, ihl fun text ht => h text (List.mem_append_left _ ht),
      ihr fun text ht => h text (List.mem_append_right _ ht)]

/-- Without features declared twice, what has no solution has no value at a product of these features. -/
lemma exists_product_of_error (hspace : space.features.Nodup) (hb : bindings.Canonical space)
    (h : e.solve space.owner bindings = .error err) :
    ∃ x, e.scalar space.owner (bindings.valueAt space.owner (space.product x)) = .error err := by
  obtain ⟨y, hy⟩ := solve_error hb h
  obtain ⟨x, hx⟩ := FeatureSpace.exists_product hspace y
  exact ⟨x, by rw [Bindings.valueAt_congr hb hx, hy]⟩

/-- A name has a value exactly if it is bound to an operand that can be used. -/
lemma Bindings.exists_valueAt_iff {x : Nat → Bool} {text : String} :
    (∃ v, bindings.valueAt owner x text = .ok v) ↔
      ∃ operand, bindings.get? text = some operand ∧ operand.Usable owner := by
  unfold valueAt
  cases hget : bindings.get? text with
  | none =>
    constructor
    · rintro ⟨v, hv⟩
      cases hv
    · rintro ⟨operand, hoperand, _⟩
      cases hoperand
  | some operand =>
    refine (Operand.exists_valueAt_iff x).trans ?_
    exact ⟨fun h => ⟨operand, rfl, h⟩, fun ⟨_, heq, h⟩ => Option.some.inj heq ▸ h⟩

/-- What a datum fails with as a number is an error of arithmetic. -/
lemma ofArithmetic_number {value : Datum} (h : owner.number value = .error err) : err.OfArithmetic := by
  rw [Owner.number] at h
  split at h
  · rename_i number hnumber
    cases number with
    | ok v => cases h
    | error e' =>
      cases h
      rw [Diagram.numberOf?_error hnumber]
      trivial
  · cases h
    trivial

/-- An error at a product is one of arithmetic. -/
lemma ofArithmetic_scalar {x : Nat → Bool} (h : e.scalar owner (bindings.valueAt owner x) = .error err) :
    err.OfArithmetic := by
  induction e with
  | int n => exact ofArithmetic_number h
  | float v => cases h
  | name text =>
    simp only [scalar, Bindings.valueAt] at h
    split at h
    · rename_i operand _
      cases operand with
      | diagram b =>
        simp only [Operand.valueAt] at h
        split at h
        · cases h
        · cases h
          trivial
      | datum value => exact ofArithmetic_number h
    · cases h
      trivial
  | neg e ih =>
    rw [scalar] at h
    cases hvalue : e.scalar owner (bindings.valueAt owner x) with
    | ok u =>
      rw [hvalue] at h
      cases h
    | error e' =>
      rw [hvalue] at h
      exact ih (hvalue.trans (congrArg _ (Except.error.inj h)))
  | pos e ih => exact ih h
  | binary op left right ihl ihr =>
    simp only [scalar] at h
    split at h
    · rename_i hleft
      exact ihl (hleft.trans h)
    · split at h
      · rename_i hright
        exact ihr (hright.trans h)
      · exact (Operation.ofNumbers_compute (Operation.scalar_eq_error.1 h).2).ofArithmetic

end Expression

end ProductLine
