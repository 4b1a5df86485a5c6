import Mathlib.Tactic.Common
import ProductLine.Proofs.Graph.Reports
import ProductLine.Proofs.Session.Cycles
import ProductLine.Proofs.Session.Resumption

/-!
# Evaluating graphs that pass

The validator looks at the nodes that a root reaches, an evaluation goes along ids. If nothing is reported with the
checker of a session that has nothing cached, every node that an evaluation comes to was checked: its expression is
known, and its names are ids of children, which are bound by then. So the evaluation fails only for a presence
condition that cannot be used or in the arithmetic on numbers (`residual_of_validate`).
-/

namespace ProductLine

/-- Whether a presence condition cannot be used, with the error that this gives: its text is refused when it
is encoded, or its diagram is one of another owner. -/
def Presence.Refused (space : FeatureSpace) (e : Error) : Presence → Prop
  | .formula text => (space.encode text).1 = .error e
  | .diagram handle => handle.diagram.owner ≠ space.owner ∧ e = .foreignDiagram

namespace Presence.Refused

variable {space later : FeatureSpace} {p : Presence} {e : Error}

/-- A condition that is refused later is refused before. -/
lemma of_extends (hlater : space.Extends later) (h : p.Refused later e) : p.Refused space e := by
  cases p with
  | formula text => exact FeatureSpace.encode_eq_error.2 (FeatureSpace.encode_eq_error.1 h)
  | diagram handle =>
    obtain ⟨howner, rfl⟩ := h
    rw [hlater.owner] at howner
    exact ⟨howner, rfl⟩

/-- A text is refused as a formula, for a reason that expressions do not have. -/
lemma foreign_or_malformed (h : p.Refused space e) :
    e = .foreignDiagram ∨ ∃ text reason, e = .malformed text reason ∧ ¬ reason.OfExpression := by
  cases p with
  | formula text =>
    right
    rcases Formula.ofText_eq_error.1 (FeatureSpace.encode_eq_error.1 h) with hnormal | ⟨_, reason, _, hparse, rfl⟩
    · obtain ⟨refused, reason, rfl, hreason⟩ := Formula.isUpFront_of_normalize hnormal
      exact ⟨refused, reason, rfl, hreason.not_ofExpression⟩
    · exact ⟨text, reason, rfl, (Formula.isGrammatical_of_parse hparse).not_ofExpression⟩
  | diagram handle => exact .inl h.2

end Presence.Refused

namespace Session

variable {checker : Checker} {places : Option Nat} {f : Formula} {valid : Diagram} {g : Graph} {root i : Fin g.size}
  {base : FeatureSpace} {s after : Session} {e : Error}

/-- A presence condition that is not given cannot be used. -/
lemma refused_of_presence {α : Type} {node : Node α} (h : s.presence node = (.error e, after)) :
    node.presence.Refused s.space e := by
  rw [presence] at h
  split at h
  · rename_i given hgiven
    rw [hgiven]
    split at h
    · cases h
    · rename_i howner
      cases h
      exact ⟨howner, rfl⟩
  · rename_i text htext
    rw [htext]
    split at h
    · cases h
    · cases encoded_of_encodePresence h with
      | refused hencode => exact congrArg Prod.fst hencode

/-- Binding children that are all cached fails for the presence condition of one of them. -/
lemma refused_of_bindChildren {parent : String} {cs : List (Fin g.size)} {bindings : Expression.Bindings}
    (h : bindChildren g parent cs bindings s = (.error e, after)) (he : ¬ e.OfEvaluation) :
    ∃ c ∈ cs, (g.node c).presence.Refused s.space e := by
  induction cs generalizing bindings s with
  | nil => cases h
  | cons c rest ih =>
    rw [bindChildren] at h
    split at h
    · cases h
      exact absurd trivial he
    · have hspace := (kept_extends s.space).presence s (g.node c) (.refl _)
      split at h
      · rename_i hp
        cases h
        exact ⟨c, List.mem_cons_self, refused_of_presence hp⟩
      · rename_i hp
        rw [hp] at hspace
        obtain ⟨d, hd, hrefused⟩ := ih h
        exact ⟨d, List.mem_cons_of_mem c hd, hrefused.of_extends hspace⟩

/-- What an evaluation below a root may fail with although the validator reports nothing: the presence
condition of a child cannot be used, or the expression of a node has no solution for what its children are
bound to, which are diagrams of the space, as the arithmetic on their numbers fails. -/
inductive Residual (checker : Checker) (g : Graph) (root : Fin g.size) (base : FeatureSpace) : Error → Prop where
  | presence {i c : Fin g.size} {e : Error} (hi : g.Reaches root i) (hc : c ∈ g.children i)
      (hrefused : (g.node c).presence.Refused base e) : Residual checker g root base e
  | numbers {i : Fin g.size} {s after : Session} {text : String} {bindings : Expression.Bindings}
      {expression : Expression} {e : Error} (hi : g.Reaches root i)
      (hchecker : checker (g.node i).model = .ok text) (hparse : Expression.parse text = .ok expression)
      (hbind : bindChildren g (g.id i) (g.children i) [] s = (.ok bindings, after))
      (hbound : ∀ name ∈ expression.names, ∃ d, bindings.get? name = some (.diagram d) ∧ d.owner = base.owner)
      (hsolve : expression.solve base.owner bindings = .error e) (hnumbers : e.OfNumbers) :
    Residual checker g root base e

/-- There are three kinds of these errors. -/
lemma Residual.kind (h : Residual checker g root base e) :
    e = .foreignDiagram ∨ (∃ text reason, e = .malformed text reason ∧ ¬ reason.OfExpression) ∨ e.OfNumbers := by
  cases h with
  | presence _ _ hrefused =>
    rcases hrefused.foreign_or_malformed with hforeign | hmalformed
    · exact .inl hforeign
    · exact .inr (.inl hmalformed)
  | numbers _ _ _ _ _ _ hnumbers => exact .inr (.inr hnumbers)

/-- None of these is an error of an expression that cannot be read. -/
lemma Residual.parse_ne (h : Residual checker g root base e) (text : String) :
    Expression.parse text ≠ .error e := by
  intro hparse
  rcases Expression.null_or_malformed_of_parse hparse with ⟨rfl, _⟩ | ⟨reason, rfl, hreason⟩
  · rcases h.kind with hforeign | ⟨_, _, hmalformed, _⟩ | hnumbers
    · cases hforeign
    · cases hmalformed
    · exact hnumbers
  · rcases h.kind with hforeign | ⟨_, _, hmalformed, hnot⟩ | hnumbers
    · cases hforeign
    · cases hmalformed
      exact hnot hreason
    · exact hnumbers

/-- Completing a node whose expression is known and names children only fails with a residual error, unless it
is one of an evaluation. -/
lemma residual_of_complete (hs : Analyses checker places f valid s) (hspace : base.Extends s.space)
    (hi : g.Reaches root i) {text : String} (hchecker : checker (g.node i).model = .ok text)
    {expression : Expression} (hparse : Expression.parse text = .ok expression)
    (hnames : ∀ name ∈ expression.names, name ∈ (g.children i).map g.id)
    (h : complete g i s = (.error e, after)) (he : ¬ e.OfEvaluation) : Residual checker g root base e := by
  have hchecked : s.checker (g.node i).model = .ok text := by
    rw [hs.sound.checker]
    exact hchecker
  cases completed_of_complete h with
  | refused _ hput =>
    rw [Cache.put] at hput
    split at hput
    · cases hput
      exact absurd trivial he
    · cases hput
  | failed hcompute =>
    cases computed_of_compute hcompute with
    | unchecked hfail =>
      rw [hchecked] at hfail
      cases hfail
    | unbound _ hbind =>
      obtain ⟨c, hc, hrefused⟩ := refused_of_bindChildren hbind he
      exact .presence hi hc (hrefused.of_extends hspace)
    | unread hfound _ hfail =>
      obtain rfl := Except.ok.inj (hchecked.symm.trans hfound)
      rw [hparse] at hfail
      cases hfail
    | @unsolved _ bindings _ _ _ hfound hbind hread hsolve =>
      obtain rfl := Except.ok.inj (hchecked.symm.trans hfound)
      obtain rfl := Except.ok.inj (hparse.symm.trans hread)
      have hask := Analyses.kept.ask s (g.node i).model hs
      have hlater := (kept_extends s.space).bindChildren (g.id i) (g.children i) []
        ((kept_extends s.space).ask s (g.node i).model (.refl _))
      rw [hbind] at hlater
      rw [show after.space.owner = base.owner from (hspace.trans hlater).owner] at hsolve
      -- every name is the id of a child, and so it is bound to a diagram of the space
      have hbound : ∀ name ∈ expression.names,
          ∃ d, bindings.get? name = some (.diagram d) ∧ d.owner = base.owner := by
        intro name hname
        obtain ⟨c, hc, rfl⟩ := List.mem_map.1 (hnames name hname)
        obtain ⟨operand, hoperand⟩ := ((bound_of_bindChildren hask.sound hbind).1 c hc).operand
        obtain ⟨d, rfl, howner⟩ :=
          owner_of_bindChildren hask.canonical (by intro _ _ h; cases h) hbind _ operand hoperand
        exact ⟨d, hoperand, howner.trans hspace.owner⟩
      exact .numbers hi hchecker hparse hbind hbound hsolve (Expression.ofNumbers_solve hbound hsolve)

/-- If the validator reports nothing for a graph with the checker of a session, whether it is given features
or not, and the session has been used in any way and has nothing cached, then an evaluation does not fail with
a cycle, an unbound name, an error of the checker or an expression that cannot be read. It fails for a
presence condition that cannot be used, or in the arithmetic on numbers. -/
theorem residual_of_validate {settings : Settings} {serial : Nat} {source : String} {checker : Checker}
    {builder : Option Builder} {s : Session} (hstart : start settings serial source checker builder = .ok s)
    (calls : List Call) (hempty : (s.after calls).cache.entries = []) {g : Graph} {root : Fin g.size}
    {support : Diagram → List String} {features : Option (List String)}
    (hvalid : g.validate support root features (some checker) = .ok []) {e : Error} {after : Session}
    (hfail : evaluateNode g root (s.after calls) = (.error e, after)) :
    (∀ path, e ≠ .cycle path) ∧ (∀ name available, e ≠ .unbound name available) ∧
      (∀ kind, e ≠ .noExpression kind) ∧ (∀ message, e ≠ .toolCrashed message) ∧
      (∀ text, Expression.parse text ≠ .error e) ∧ Residual checker g root s.space e := by
  obtain ⟨f, _, hstarted⟩ := Analyses.of_start hstart
  have hs := hstarted.after calls
  obtain ⟨hstructure, _, hexpressions⟩ := Graph.validate_eq_nil.1 hvalid
  rw [Graph.structureIssues, List.append_eq_nil_iff, List.append_eq_nil_iff] at hstructure
  have hspace := extends_after s calls
  -- no cycle is found and no guard fails, as these errors could come from the checker only
  have he : ¬ e.OfEvaluation := by
    intro he
    obtain ⟨i, order, mid, hi, hprogress, hready, hcomplete⟩ := ready_of_cycleIssue hempty hstructure.2 hfail
    obtain ⟨text, _, hchecker, _⟩ := hexpressions i hi
    have hraised := checker_of_ready hprogress hready hcomplete he
    rw [hs.sound.checker, hchecker] at hraised
    cases hraised
  have hresidual : Residual checker g root s.space e := by
    rcases evaluateNode_error_keeps (Q := g.Reaches root)
      (I := fun t => Analyses checker settings.places f s.featureModel.diagram t ∧ s.space.Extends t.space)
      (fun ht => ⟨Analyses.kept.untraced _ ht.1, ht.2⟩)
      (fun t id ht => ⟨Analyses.kept.look t id ht.1, (kept_extends s.space).look t id ht.2⟩)
      (fun j t _ ht => ⟨Analyses.kept.complete j ht.1, (kept_extends s.space).complete j ht.2⟩)
      (fun _ hi _ hc => hi.tail hc) .refl ⟨hs, hspace⟩ hfail
      with ⟨p, rfl⟩ | rfl | ⟨i, mid, hi, ⟨hmid, hgrown⟩, hcomplete⟩
    · exact absurd trivial he
    · exact absurd trivial he
    · obtain ⟨text, expression, hchecker, hparse, hnames⟩ := hexpressions i hi
      exact residual_of_complete hmid hgrown hi hchecker hparse hnames hcomplete he
  refine ⟨?_, ?_, ?_, ?_, hresidual.parse_ne, hresidual⟩
  all_goals
    intros
    rintro rfl
    rcases hresidual.kind with hforeign | ⟨_, _, hmalformed, _⟩ | hnumbers
    · cases hforeign
    · cases hmalformed
    · exact hnumbers

/-- One over zero is read as a quotient. -/
lemma parse_quotient : Expression.parse "1 / 0" = .ok (.binary .div (.int 1) (.int 0)) := by decide +kernel

/-- One over zero has no value. -/
lemma scalar_quotient (owner : Owner) (value : String → Except Error Binary64) :
    (Expression.binary .div (.int 1) (.int 0)).scalar owner value = .error (.divisionByZero .one) := by
  have hone : (Expression.int 1).scalar owner value = .ok .one := owner.number_one
  have hzero : (Expression.int 0).scalar owner value = .ok .zero := owner.number_zero
  have hcompute : Operation.div.compute .one .zero = .error (.divisionByZero .one) := by decide +kernel
  rw [Expression.scalar, hone, hzero]
  exact Operation.scalar_eq_error.2 ⟨by decide, hcompute⟩

/-- A node that divides by zero fails in a fresh session, as there is no reliability that is right for it. -/
lemma exists_error_quotient : ∃ s e after, start .standard 0 "a" Checker.plain none = .ok s ∧ s.cache.entries = [] ∧
    evaluateNode (.single "r" (.formula "a") (.datum (.text "1 / 0"))) (0 : Fin 1) s = (.error e, after) := by
  obtain ⟨s, hstart⟩ := exists_start .standard 0 ofText_feature Checker.plain none
  obtain ⟨f, _, hs⟩ := Analyses.of_start hstart
  obtain ⟨_, _, hcache, _⟩ := started hstart
  have hempty : s.cache.entries = [] := by
    rw [hcache]
    rfl
  cases hout : evaluateNode (.single "r" (.formula "a") (.datum (.text "1 / 0"))) (0 : Fin 1) s with
  | mk result after =>
    cases result with
    | error e => exact ⟨s, e, after, hstart, hempty, hout⟩
    | ok handle =>
      have hevaluated : Evaluated Checker.plain s.featureModel.diagram
          (.single "r" (.formula "a") (.datum (.text "1 / 0"))) (0 : Fin 1) s :=
        (Settled.of_empty hs hempty).evaluated
      have hvalue :=
        (hevaluated.right hs.wellFormed (.single (by trivial) (0 : Fin 1)) hout).value after.space (.refl _)
        (fun _ => false) [] (by simp)
      rw [Graph.valueAt_eq (g := .single "r" (.formula "a") (.datum (.text "1 / 0"))) (i := (0 : Fin 1))
        List.not_mem_nil rfl parse_quotient] at hvalue
      rw [scalar_quotient] at hvalue
      cases hvalue

/-- The theorem applies, for example, to one node that divides by zero: it passes, and fails in the arithmetic. -/
theorem residual_of_validate_quotient : ∃ s e after,
    start .standard 0 "a" Checker.plain none = .ok s ∧ s.cache.entries = [] ∧
    (Graph.single "r" (.formula "a") (.datum (.text "1 / 0"))).validate (fun _ => []) (0 : Fin 1) none
      (some Checker.plain) = .ok [] ∧
    evaluateNode (.single "r" (.formula "a") (.datum (.text "1 / 0"))) (0 : Fin 1) s = (.error e, after) ∧
    e.OfNumbers := by
  obtain ⟨s, e, after, hstart, hempty, hfail⟩ := exists_error_quotient
  have hvalid : (Graph.single "r" (.formula "a") (.datum (.text "1 / 0"))).validate (fun _ => []) (0 : Fin 1) none
      (some Checker.plain) = .ok [] := by
    apply Graph.validate_eq_nil.2
    refine ⟨Graph.structureIssues_single (by decide +kernel) _, rfl, fun i _ => ?_⟩
    refine ⟨"1 / 0", _, ?_, parse_quotient, ?_⟩
    · rw [Graph.node_single]
      rfl
    · simp [Expression.names]
  refine ⟨s, e, after, hstart, hempty, hvalid, hfail, ?_⟩
  obtain ⟨_, _, _, _, _, hresidual⟩ := residual_of_validate hstart [] hempty hvalid hfail
  cases hresidual with
  | @presence i c _ _ hc =>
    rw [Graph.children, Graph.node_single] at hc
    cases hc
  | numbers _ _ _ _ _ _ hnumbers => exact hnumbers

end Session

end ProductLine
