import Mathlib.Tactic.Common
import ProductLine.Expression.Parser

/-!
# Where errors come from

An evaluation has errors of its own: a cycle, and the guards against computing a node twice, too early or not
at all. Reading a formula or an expression and doing its arithmetic never fail with one of these
(`Expression.not_ofEvaluation_solve`). Diagrams of one owner are combined unless the arithmetic on their
numbers fails (`Diagram.operate_eq_error`).
-/

namespace ProductLine

/-- Whether an error says that a node was computed twice or too early, or not at all. -/
def Error.IsGuard : Error → Prop
  | .alreadyCached _ => True
  | .outOfOrder _ _ => True
  | .missingResult _ => True
  | _ => False

/-- Whether an error is one of an evaluation and not of a model, a presence condition or an expression. -/
def Error.OfEvaluation : Error → Prop
  | .cycle _ => True
  | e => e.IsGuard

/-- Whether an error says that an operation on numbers has no result, or that an integer has no number. -/
def Error.OfNumbers : Error → Prop
  | .divisionByZero _ => True
  | .zeroToNegative _ => True
  | .negativeToFraction _ _ => True
  | .beyondRange => True
  | .integerTooLarge => True
  | _ => False

/-- The guards against computing a node wrongly are errors of an evaluation. -/
lemma Error.IsGuard.ofEvaluation {e : Error} (h : e.IsGuard) : e.OfEvaluation := by
  cases e with
  | cycle => trivial
  | _ => exact h

/-- Errors of arithmetic are none of an evaluation. -/
lemma Error.OfNumbers.not_ofEvaluation {e : Error} (h : e.OfNumbers) : ¬ e.OfEvaluation := by
  cases e with
  | cycle | alreadyCached | outOfOrder | missingResult => exact h.elim
  | _ => exact id

/-- Texts are refused with no error of an evaluation when they are normalized. -/
lemma Formula.not_ofEvaluation_normalize {text : String} {e : Error} (h : normalize text = .error e) :
    ¬ e.OfEvaluation := by
  unfold normalize at h
  simp only at h
  split at h
  · cases h
    exact id
  · split at h
    · cases h
      exact id
    · split at h
      · cases h
      · cases h
        exact id

/-- Texts are refused with no error of an evaluation when they are encoded. -/
lemma FeatureSpace.not_ofEvaluation_encode {space : FeatureSpace} {text : String} {e : Error}
    (h : (space.encode text).1 = .error e) : ¬ e.OfEvaluation := by
  rw [encode] at h
  split at h
  · rename_i hnormal
    cases h
    exact Formula.not_ofEvaluation_normalize hnormal
  · split at h
    · cases h
      exact id
    · cases h

/-- Expressions are refused with no error of an evaluation when they are read. -/
lemma Expression.not_ofEvaluation_parse {text : String} {e : Error} (h : parse text = .error e) :
    ¬ e.OfEvaluation := by
  unfold parse at h
  simp only at h
  split_ifs at h
  · cases h
    exact id
  · cases h
    exact id
  · split at h
    · cases h
      exact id
    · split at h
      · cases h
      · cases h
        exact id

/-- An operation on numbers fails only for the numbers. -/
lemma Operation.ofNumbers_compute {op : Operation} {a b : Binary64} {e : Error} (h : op.compute a b = .error e) :
    e.OfNumbers := by
  cases op with
  | div =>
    simp only [compute, Binary64.quotient] at h
    split_ifs at h
    cases h
    trivial
  | pow =>
    simp only [compute, Binary64.power] at h
    split_ifs at h
    · cases h
      trivial
    · cases h
      trivial
    · split at h
      · cases h
      · cases h
        trivial
  | _ => cases h

/-- Computing a list of results depends on the results for what is in the list. -/
lemma mapM_congr {α β : Type} {f g : α → Except Error β} {xs : List α} (h : ∀ x ∈ xs, f x = g x) :
    xs.mapM f = xs.mapM g := by
  induction xs with
  | nil => rfl
  | cons x xs ih =>
    obtain ⟨hx, hxs⟩ := List.forall_mem_cons.1 h
    rw [List.mapM_cons, List.mapM_cons, hx, ih hxs]

/-- A list of results fails with the error of one of them. -/
lemma exists_of_mapM_error {α β : Type} {f : α → Except Error β} {xs : List α} {e : Error}
    (h : xs.mapM f = .error e) : ∃ x ∈ xs, f x = .error e := by
  induction xs with
  | nil => cases h
  | cons x xs ih =>
    rw [List.mapM_cons] at h
    cases hx : f x with
    | error e' =>
      rw [hx] at h
      cases h
      exact ⟨x, List.mem_cons_self, hx⟩
    | ok y =>
      rw [hx] at h
      cases hxs : xs.mapM f with
      | error e' =>
        rw [hxs] at h
        cases h
        obtain ⟨z, hz, hfail⟩ := ih hxs
        exact ⟨z, List.mem_cons_of_mem x hz, hfail⟩
      | ok ys =>
        rw [hxs] at h
        cases h

/-- Diagrams are combined unless they are of different owners or a combination of their numbers fails. -/
lemma Diagram.operate_eq_error {op : Operation} {a b : Diagram} {e : Error} (h : operate op a b = .error e) :
    (a.owner ≠ b.owner ∧ e = .foreignDiagram) ∨ e.OfNumbers := by
  have hcompute {pairs : List (Binary64 × Binary64 × Region)} {owner : Owner}
      (h : applyTo owner op.compute pairs = .error e) : e.OfNumbers := by
    rw [applyTo] at h
    cases hes : pairs.mapM fun p => (op.compute p.1 p.2.1).map fun u => (owner.normalize u, p.2.2) with
    | ok es =>
      rw [hes] at h
      cases h
    | error e' =>
      rw [hes] at h
      cases h
      obtain ⟨p, _, hp⟩ := exists_of_mapM_error hes
      cases hu : op.compute p.1 p.2.1 with
      | ok u =>
        rw [hu] at hp
        cases hp
      | error e' =>
        rw [hu] at hp
        cases hp
        exact Operation.ofNumbers_compute hu
  unfold operate at h
  split at h
  · right
    cases op with
    | mul => cases h
    | _ => exact hcompute h
  · rename_i howner
    cases h
    exact .inl ⟨howner, rfl⟩

/-- Operations on diagrams fail with no error of an evaluation. -/
lemma Diagram.not_ofEvaluation_operate {op : Operation} {a b : Diagram} {e : Error}
    (h : operate op a b = .error e) : ¬ e.OfEvaluation := by
  rcases operate_eq_error h with ⟨_, rfl⟩ | hnumbers
  · exact id
  · exact hnumbers.not_ofEvaluation

/-- A datum that has no number although it should is an integer that is too large. -/
lemma Diagram.numberOf?_error {value : Datum} {e : Error} (h : numberOf? false value = some (.error e)) :
    e = .integerTooLarge := by
  cases value with
  | int n =>
    simp only [numberOf?] at h
    generalize Binary64.ofInt? n = number at h
    cases number with
    | none =>
      cases h
      rfl
    | some v => cases h
  | _ => cases h

/-- An operand is no diagram of an owner if it is one of another owner, if it has no number, or if it is an
integer that is too large. -/
lemma Operand.toDiagram_eq_error {owner : Owner} {operand : Operand} {e : Error}
    (h : operand.toDiagram owner = .error e) :
    (∃ d, operand = .diagram d ∧ d.owner ≠ owner ∧ e = .foreignDiagram) ∨
    (∃ value, operand = .datum value ∧ Diagram.numberOf? false value = none ∧ e = .notOperand value.kind) ∨
    ∃ value, operand = .datum value ∧ e = .integerTooLarge := by
  cases operand with
  | diagram d =>
    simp only [toDiagram] at h
    split at h
    · cases h
    · rename_i howner
      cases h
      exact .inl ⟨d, rfl, howner, rfl⟩
  | datum value =>
    simp only [toDiagram] at h
    cases hnumber : Diagram.numberOf? false value with
    | none =>
      rw [hnumber] at h
      cases h
      exact .inr (.inl ⟨value, rfl, hnumber, rfl⟩)
    | some number =>
      rw [hnumber] at h
      cases number with
      | ok v => cases h
      | error e' =>
        cases h
        exact .inr (.inr ⟨value, rfl, Diagram.numberOf?_error hnumber⟩)

/-- Operands are refused with no error of an evaluation. -/
lemma Operand.not_ofEvaluation_toDiagram {owner : Owner} {operand : Operand} {e : Error}
    (h : operand.toDiagram owner = .error e) : ¬ e.OfEvaluation := by
  obtain ⟨_, _, _, rfl⟩ | ⟨_, _, _, rfl⟩ | ⟨_, _, rfl⟩ := toDiagram_eq_error h
  all_goals exact id

/-- An expression has no solution if a number or what is bound to a name is no diagram, if a name is not
bound, or if an operation on two solutions fails. -/
lemma Expression.solve_eq_error {owner : Owner} {bindings : Bindings} {expression : Expression} {e : Error}
    (h : expression.solve owner bindings = .error e) :
    (∃ operand : Operand, operand.toDiagram owner = .error e ∧
      ((∃ n : Nat, operand = .datum (.int n)) ∨ ∃ text ∈ expression.names, bindings.get? text = some operand)) ∨
    (∃ text ∈ expression.names, bindings.get? text = none ∧ e = .unbound text bindings.names) ∨
    ∃ (op : Operation) (left right : Expression) (a b : Diagram), left.solve owner bindings = .ok a ∧
      right.solve owner bindings = .ok b ∧ Diagram.operate op a b = .error e := by
  induction expression with
  | int n => exact .inl ⟨.datum (.int n), h, .inl ⟨n, rfl⟩⟩
  | float v => cases h
  | name text =>
    simp only [solve] at h
    cases hget : bindings.get? text with
    | some operand =>
      rw [hget] at h
      exact .inl ⟨operand, h, .inr ⟨text, List.mem_singleton_self text, hget⟩⟩
    | none =>
      rw [hget] at h
      cases h
      exact .inr (.inl ⟨text, List.mem_singleton_self text, hget, rfl⟩)
  | neg expression ih =>
    simp only [solve] at h
    cases hsolve : expression.solve owner bindings with
    | error e' =>
      rw [hsolve] at h
      cases h
      exact ih hsolve
    | ok d =>
      rw [hsolve] at h
      cases h
  | pos expression ih => exact ih h
  | binary op left right ihl ihr =>
    simp only [solve] at h
    cases hleft : left.solve owner bindings with
    | error e' =>
      rw [hleft] at h
      cases h
      refine (ihl hleft).imp ?_ (Or.imp_left ?_)
      · exact fun ⟨o, ho, hfrom⟩ =>
          ⟨o, ho, hfrom.imp_right fun ⟨t, ht, hget⟩ => ⟨t, List.mem_append_left _ ht, hget⟩⟩
      · exact fun ⟨t, ht, hget⟩ => ⟨t, List.mem_append_left _ ht, hget⟩
    | ok a =>
      rw [hleft] at h
      cases hright : right.solve owner bindings with
      | error e' =>
        rw [hright] at h
        cases h
        refine (ihr hright).imp ?_ (Or.imp_left ?_)
        · exact fun ⟨o, ho, hfrom⟩ =>
            ⟨o, ho, hfrom.imp_right fun ⟨t, ht, hget⟩ => ⟨t, List.mem_append_right _ ht, hget⟩⟩
        · exact fun ⟨t, ht, hget⟩ => ⟨t, List.mem_append_right _ ht, hget⟩
      | ok b =>
        rw [hright] at h
        exact .inr (.inr ⟨op, left, right, a, b, hleft, hright, h⟩)

/-- Solving an expression fails with no error of an evaluation. -/
lemma Expression.not_ofEvaluation_solve {owner : Owner} {bindings : Bindings} {expression : Expression} {e : Error}
    (h : expression.solve owner bindings = .error e) : ¬ e.OfEvaluation := by
  obtain ⟨_, hoperand, _⟩ | ⟨_, _, _, rfl⟩ | ⟨_, _, _, _, _, _, _, hop⟩ := solve_eq_error h
  · exact Operand.not_ofEvaluation_toDiagram hoperand
  · exact id
  · exact Diagram.not_ofEvaluation_operate hop

end ProductLine
