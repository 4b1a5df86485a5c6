import Mathlib.Tactic.Common
import ProductLine.Expression.Parser
import ProductLine.Proofs.Error
import ProductLine.Proofs.Formula.Names

/-!
# The names an expression depends on

Solving an expression reads the bindings of its names and nothing else (`solve_congr`). An unbound name is
reported only if it is a name of the expression (`of_solve_unbound`). The steps of a solution have a fixed order
(`Expression.steps`), in which the names come as they stand in the text; the first name that is missing is the
one reported, unless a step before it fails for another reason (`solve_of_find?`).
-/

namespace ProductLine

/-- The error with other names as those that are bound. -/
def Error.withAvailable (available : List String) : Error → Error
  | .unbound name _ => .unbound name available
  | e => e

/-- An error that is about no unbound name does not mention the bound ones. -/
lemma Error.withAvailable_eq {e : Error} (h : ∀ name available, e ≠ .unbound name available)
    (available : List String) : e.withAvailable available = e := by
  cases e with
  | unbound name others => exact absurd rfl (h name others)
  | _ => rfl

/-- An error of arithmetic is no unbound name. -/
lemma Error.OfNumbers.ne_unbound {e : Error} (h : e.OfNumbers) (name : String) (available : List String) :
    e ≠ .unbound name available := by
  rintro rfl
  exact h

/-- No operation on diagrams fails for an unbound name. -/
lemma Diagram.operate_ne_unbound {op : Operation} {a b : Diagram} {e : Error} (h : operate op a b = .error e)
    (name : String) (available : List String) : e ≠ .unbound name available := by
  rcases operate_eq_error h with ⟨_, rfl⟩ | hnumbers
  · exact nofun
  · exact hnumbers.ne_unbound name available

/-- No operand is refused for an unbound name. -/
lemma Operand.toDiagram_ne_unbound {owner : Owner} {operand : Operand} {e : Error}
    (h : operand.toDiagram owner = .error e) (name : String) (available : List String) :
    e ≠ .unbound name available := by
  obtain ⟨_, _, _, rfl⟩ | ⟨_, _, _, rfl⟩ | ⟨_, _, rfl⟩ := toDiagram_eq_error h
  all_goals exact nofun

namespace Formula

/-- The first name with a property is not affected by leaving out repetitions. -/
lemma find?_distinct {p : String → Bool} {seen names : List String} (hseen : ∀ n ∈ seen, p n = false) :
    (distinct seen names).find? p = names.find? p := by
  induction names generalizing seen with
  | nil => rfl
  | cons n rest ih =>
    rw [distinct]
    split
    · rename_i hn
      have hp : ¬ p n = true := by simp [hseen n (List.contains_iff_mem.1 hn)]
      rw [ih hseen, List.find?_cons_of_neg hp]
    · cases hp : p n with
      | true => rw [List.find?_cons_of_pos hp, List.find?_cons_of_pos hp]
      | false =>
        have hrest : ∀ m ∈ n :: seen, p m = false := by
          intro m hm
          rcases List.mem_cons.1 hm with rfl | hm
          · exact hp
          · exact hseen m hm
        rw [List.find?_cons_of_neg (by simp [hp]), List.find?_cons_of_neg (by simp [hp]), ih hrest]

end Formula

namespace Expression

variable {owner : Owner} {bindings bindings' : Bindings} {e : Expression} {n : String} {available : List String}

/-- Bindings that agree on the names of an expression give it the same solution, or the same error but for the names
that it lists as bound. -/
theorem solve_congr (h : ∀ n ∈ e.names, bindings.get? n = bindings'.get? n) :
    e.solve owner bindings' = (e.solve owner bindings).mapError (Error.withAvailable bindings'.names) := by
  induction e with
  | int k =>
    simp only [solve]
    cases hk : (Operand.datum (.int k)).toDiagram owner with
    | ok d => rfl
    | error err => exact congrArg _ (Error.withAvailable_eq (Operand.toDiagram_ne_unbound hk) _).symm
  | float v => rfl
  | name text =>
    simp only [solve, ← h text (by simp [names])]
    cases bindings.get? text with
    | none => rfl
    | some operand =>
      show operand.toDiagram owner = (operand.toDiagram owner).mapError _
      cases hoperand : operand.toDiagram owner with
      | ok d => rfl
      | error err => exact congrArg _ (Error.withAvailable_eq (Operand.toDiagram_ne_unbound hoperand) _).symm
  | neg e ih =>
    simp only [solve, ih h]
    cases e.solve owner bindings <;> rfl
  | pos e ih => exact ih h
  | binary op left right ihl ihr =>
    simp only [solve, ihl fun n hn => h n (List.mem_append_left _ hn),
      ihr fun n hn => h n (List.mem_append_right _ hn)]
    cases left.solve owner bindings with
    | error err => rfl
    | ok a =>
      cases right.solve owner bindings with
      | error err => rfl
      | ok b =>
        show Diagram.operate op a b = (Diagram.operate op a b).mapError _
        cases hop : Diagram.operate op a b with
        | ok d => rfl
        | error err => exact congrArg _ (Error.withAvailable_eq (Diagram.operate_ne_unbound hop) _).symm

/-- What is reported as unbound is a name of the expression that is not bound. -/
theorem of_solve_unbound (h : e.solve owner bindings = .error (.unbound n available)) :
    n ∈ e.names ∧ bindings.get? n = none ∧ available = bindings.names := by
  obtain ⟨_, hoperand, _⟩ | ⟨text, ht, hnone, heq⟩ | ⟨_, _, _, _, _, _, _, hop⟩ := solve_eq_error h
  · exact absurd rfl (Operand.toDiagram_ne_unbound hoperand n available)
  · cases heq
    exact ⟨ht, hnone, rfl⟩
  · exact absurd rfl (Diagram.operate_ne_unbound hop n available)

/-- The parts of an expression in the order in which they are solved: the left operand, the right one, then the
operation on both. -/
def steps : Expression → List Expression
  | int k => [int k]
  | float v => [float v]
  | name text => [name text]
  | neg e => e.steps ++ [neg e]
  | pos e => e.steps ++ [pos e]
  | binary op left right => left.steps ++ right.steps ++ [binary op left right]

/-- The expression itself is solved in its last step. -/
lemma self_mem_steps (e : Expression) : e ∈ e.steps := by
  cases e <;> simp [steps]

/-- The steps that are names are the names. -/
lemma name_mem_steps : name n ∈ e.steps ↔ n ∈ e.names := by
  induction e with
  | int k => simp [steps, names]
  | float v => simp [steps, names]
  | name text => simp [steps, names]
  | neg e ih => simp [steps, names, ih]
  | pos e ih => simp [steps, names, ih]
  | binary op left right ihl ihr => simp [steps, names, ihl, ihr]

/-- The steps before the first use of a name. -/
def stepsBefore (e : Expression) (n : String) : List Expression := e.steps.takeWhile fun s => s ≠ name n

/-- In a list of steps that has the name, what comes later does not count. -/
lemma takeWhile_append_of_mem {as bs : List Expression} (h : name n ∈ as) :
    ((as ++ bs).takeWhile fun s => s ≠ name n) = as.takeWhile fun s => s ≠ name n := by
  induction as with
  | nil => cases h
  | cons a rest ih =>
    by_cases ha : a = name n
    · subst ha
      simp
    · have hrest : name n ∈ rest := (List.mem_cons.1 h).resolve_left (Ne.symm ha)
      simp only [List.cons_append, List.takeWhile_cons, ih hrest]

/-- A negation does nothing before a name that its operand does not do. -/
lemma stepsBefore_neg (h : n ∈ e.names) : (neg e).stepsBefore n = e.stepsBefore n :=
  takeWhile_append_of_mem (name_mem_steps.2 h)

/-- A sign that changes nothing does nothing before a name, either. -/
lemma stepsBefore_pos (h : n ∈ e.names) : (pos e).stepsBefore n = e.stepsBefore n :=
  takeWhile_append_of_mem (name_mem_steps.2 h)

/-- Before a name on the left happens what happens there before it. -/
lemma stepsBefore_left {op : Operation} {left right : Expression} (h : n ∈ left.names) :
    (binary op left right).stepsBefore n = left.stepsBefore n := by
  rw [stepsBefore, steps, List.append_assoc]
  exact takeWhile_append_of_mem (name_mem_steps.2 h)

/-- Before a name that is on the right only happens all on the left and what happens there before it. -/
lemma stepsBefore_right {op : Operation} {left right : Expression} (hleft : n ∉ left.names)
    (hright : n ∈ right.names) : (binary op left right).stepsBefore n = left.steps ++ right.stepsBefore n := by
  have hne : ∀ s ∈ left.steps, decide (s ≠ name n) = true := by
    rintro s hs
    refine decide_eq_true ?_
    rintro rfl
    exact hleft (name_mem_steps.1 hs)
  rw [stepsBefore, steps, List.append_assoc, List.takeWhile_append_of_pos hne,
    takeWhile_append_of_mem (name_mem_steps.2 hright)]
  rfl

/-- The first missing name is reported, if no step before it fails for a reason other than a missing name. -/
theorem solve_of_find? (hn : (e.names.find? fun m => (bindings.get? m).isNone) = some n)
    (hbefore : ∀ s ∈ e.stepsBefore n, ∀ err, s.solve owner bindings = .error err → ∃ m ms, err = .unbound m ms) :
    e.solve owner bindings = .error (.unbound n bindings.names) := by
  have hmem := List.mem_of_find?_eq_some hn
  induction e with
  | int k => cases hmem
  | float v => cases hmem
  | name text =>
    obtain rfl := List.mem_singleton.1 hmem
    have hmissing := List.find?_some hn
    rw [Option.isNone_iff_eq_none] at hmissing
    simp only [solve, hmissing]
  | neg e ih =>
    replace hmem : n ∈ e.names := hmem
    rw [stepsBefore_neg hmem] at hbefore
    simp only [solve, ih hn hbefore hmem]
    rfl
  | pos e ih =>
    replace hmem : n ∈ e.names := hmem
    rw [stepsBefore_pos hmem] at hbefore
    exact ih hn hbefore hmem
  | binary op left right ihl ihr =>
    rw [names, List.find?_append] at hn
    cases hleft : left.names.find? fun m => (bindings.get? m).isNone with
    | some m =>
      rw [hleft] at hn
      obtain rfl := Option.some.inj hn
      have hm := List.mem_of_find?_eq_some hleft
      rw [stepsBefore_left hm] at hbefore
      simp only [solve, ihl hleft hbefore hm]
    | none =>
      rw [hleft, Option.none_or] at hn
      have hbound : ∀ m ∈ left.names, bindings.get? m ≠ none := by
        intro m hm hnone
        exact List.find?_eq_none.1 hleft m hm (Option.isNone_iff_eq_none.2 hnone)
      have hmissing := List.find?_some hn
      rw [Option.isNone_iff_eq_none] at hmissing
      have hm := List.mem_of_find?_eq_some hn
      rw [stepsBefore_right (fun h => hbound n h hmissing) hm] at hbefore
      -- the left operand misses no name, so it fails for no reason at all
      obtain ⟨a, ha⟩ : ∃ a, left.solve owner bindings = .ok a := by
        cases ha : left.solve owner bindings with
        | ok a => exact ⟨a, rfl⟩
        | error err =>
          obtain ⟨m, ms, rfl⟩ := hbefore left (List.mem_append_left _ left.self_mem_steps) err ha
          obtain ⟨hm, hnone, _⟩ := of_solve_unbound ha
          exact absurd hnone (hbound m hm)
      simp only [solve, ha, ihr hn (fun s hs => hbefore s (List.mem_append_right _ hs)) hm]

/-- The variables of a text are the names in the expression that is read. -/
lemma freeVariables_of_parse {text : String} (h : parse text = .ok e) : freeVariables text = .ok e.freeNames :=
  congrArg (Except.map freeNames) h

/-- The solution of the expression of a text depends on its free names only. Bindings that agree on them give
equal diagrams, or equal errors but for the names listed as bound; only a free name that is missing is
reported as unbound; and the first missing one is reported, if no step before its first use fails for another
reason. -/
theorem solve_freeVariables {text : String} {names : List String} (hparse : parse text = .ok e)
    (hnames : freeVariables text = .ok names) (owner : Owner) (bindings : Bindings) :
    (∀ bindings' : Bindings, (∀ n ∈ names, bindings.get? n = bindings'.get? n) →
      e.solve owner bindings' = (e.solve owner bindings).mapError (Error.withAvailable bindings'.names)) ∧
    (∀ n available, e.solve owner bindings = .error (.unbound n available) →
      n ∈ names ∧ bindings.get? n = none ∧ available = bindings.names) ∧
    ∀ n, (names.find? fun m => (bindings.get? m).isNone) = some n →
      (∀ s ∈ e.stepsBefore n, ∀ err, s.solve owner bindings = .error err → ∃ m ms, err = .unbound m ms) →
      e.solve owner bindings = .error (.unbound n bindings.names) := by
  obtain rfl : e.freeNames = names := Except.ok.inj ((freeVariables_of_parse hparse).symm.trans hnames)
  have hmem : ∀ n, n ∈ e.freeNames ↔ n ∈ e.names := by
    intro n
    rw [freeNames, Formula.mem_distinct]
    exact and_iff_left (List.not_mem_nil)
  refine ⟨?_, ?_, ?_⟩
  · intro bindings' hagree
    exact solve_congr fun n hn => hagree n ((hmem n).2 hn)
  · intro n available hunbound
    rw [hmem]
    exact of_solve_unbound hunbound
  · intro n hn hbefore
    rw [freeNames, Formula.find?_distinct (fun m hm => absurd hm List.not_mem_nil)] at hn
    exact solve_of_find? hn hbefore

/-- The theorem applies, for example, to a sum whose second name is missing, after a quotient that exists. -/
theorem solve_freeVariables_missing :
    let e := binary .add (binary .div (name "x") (int 2)) (binary .mul (name "z") (name "y"))
    let bindings : Bindings := [("w", .datum (.text "unused")), ("x", .datum (.int 1))]
    parse "x / 2 + z * y" = .ok e ∧ freeVariables "x / 2 + z * y" = .ok ["x", "z", "y"] ∧
    e.solve ⟨0, none⟩ bindings = .error (.unbound "z" ["w", "x"]) ∧
    e.solve ⟨0, none⟩ [("x", .datum (.int 1))] = .error (.unbound "z" ["x"]) := by
  intro e bindings
  have hparse : parse "x / 2 + z * y" = .ok e := by decide +kernel
  have hnames : freeVariables "x / 2 + z * y" = .ok ["x", "z", "y"] := freeVariables_of_parse hparse
  obtain ⟨hcongr, _, hmissing⟩ := solve_freeVariables hparse hnames ⟨0, none⟩ bindings
  have hsolved : ∀ s ∈ e.stepsBefore "z", (s.solve ⟨0, none⟩ bindings).isOk = true := by decide +kernel
  have hbefore : ∀ s ∈ e.stepsBefore "z", ∀ err, s.solve ⟨0, none⟩ bindings = .error err →
      ∃ m ms, err = .unbound m ms := by
    intro s hs err herr
    have hok := hsolved s hs
    rw [herr] at hok
    cases hok
  have hz := hmissing "z" (by decide) hbefore
  have hsorted : bindings.names = ["w", "x"] := List.mergeSort_of_pairwise (by decide +kernel)
  rw [hsorted] at hz
  refine ⟨hparse, hnames, hz, ?_⟩
  have hsingle : Bindings.names [("x", .datum (.int 1))] = ["x"] := List.mergeSort_singleton "x"
  have hagree : ∀ n ∈ ["x", "z", "y"], bindings.get? n = Bindings.get? [("x", .datum (.int 1))] n := by
    intro n hn
    rcases List.mem_cons.1 hn with rfl | hn
    · rfl
    rcases List.mem_cons.1 hn with rfl | hn
    · rfl
    obtain rfl := List.mem_singleton.1 hn
    rfl
  rw [hcongr _ hagree, hz, hsingle]
  rfl

/-- A number too large for a diagram fails before the name behind it, although no operation and no binding does. -/
theorem solve_large_before_name :
    let text := String.ofList ('1' :: List.replicate 309 '0' ++ [' ', '+', ' ', 'x'])
    let e := binary .add (int (Binary64.tenTo 309)) (name "x")
    parse text = .ok e ∧ freeVariables text = .ok ["x"] ∧ Bindings.get? [] "x" = none ∧
    e.stepsBefore "x" = [int (Binary64.tenTo 309)] ∧
    e.solve ⟨0, none⟩ [] = .error .integerTooLarge := by
  intro text e
  have hparse : parse text = .ok e := by
    simp only [text, parse, String.toList_ofList]
    decide +kernel
  have hnames : freeVariables text = .ok ["x"] := freeVariables_of_parse hparse
  have hsolve : e.solve ⟨0, none⟩ [] = .error .integerTooLarge := by decide +kernel
  have hbefore : e.stepsBefore "x" = [int (Binary64.tenTo 309)] := by decide +kernel
  exact ⟨hparse, hnames, rfl, hbefore, hsolve⟩

end Expression

end ProductLine
