import Mathlib.Data.List.Forall2
import Mathlib.Tactic.Common
import ProductLine.Proofs.Diagram.Pointwise
import ProductLine.Proofs.Error
import ProductLine.Proofs.Graph.Conditions

/-!
# Reports that are complete

Every node below a root is looked at and reported for itself: the report is the one on the structure, then one on
every presence condition and one on every expression, unless an error that is not about a model ends the validation
(`validate_spec`). With the plain checker this happens for a null character in an expression and for nothing else
(`validate_plain`), as far as texts consist of Unicode characters. A checker that breaks down at some models
ends the validation of the graphs that have one of them (`exists_error_breaking`). What a graph must be like to
pass is `validate_eq_nil`.
-/

namespace ProductLine

/-! Texts that are no expressions -/

/-- Whether a text is refused as an expression for this reason. -/
def Reason.OfExpression : Reason → Prop
  | .emptyExpression => True
  | .notExpression => True
  | .unsupportedConstruct _ => True
  | .unsupportedConstant _ => True
  | _ => False

/-- Formulas are never refused for such a reason. -/
lemma Reason.IsUpFront.not_ofExpression {reason : Reason} (h : reason.IsUpFront) : ¬ reason.OfExpression := by
  cases reason with
  | emptyExpression | notExpression | unsupportedConstruct | unsupportedConstant => exact h.elim
  | _ => exact id

/-- A formula that is refused for its grammar is not refused as an expression is. -/
lemma Reason.IsGrammatical.not_ofExpression {reason : Reason} (h : reason.IsGrammatical) :
    ¬ reason.OfExpression := by
  cases reason with
  | emptyExpression | notExpression | unsupportedConstruct | unsupportedConstant => exact h.elim
  | _ => exact id

/-- What is not to be taken away from the front of a list stays in it. -/
lemma mem_dropWhile_iff {α : Type} {p : α → Bool} {a : α} (h : p a = false) (as : List α) :
    a ∈ as.dropWhile p ↔ a ∈ as := by
  induction as with
  | nil => rfl
  | cons b as ih =>
    rw [List.dropWhile_cons]
    split
    · rename_i hb
      have hne : a ≠ b := by
        rintro rfl
        rw [h] at hb
        cases hb
      rw [ih, List.mem_cons, or_iff_right hne]
    · rfl

/-- Trimming takes away blanks only. -/
lemma Text.mem_trim_iff {c : Char} (h : isBlank c = false) (cs : List Char) : c ∈ trim cs ↔ c ∈ cs := by
  rw [trim, List.mem_reverse, mem_dropWhile_iff h, List.mem_reverse, mem_dropWhile_iff h]

namespace Expression

/-- Expanding carets neither adds nor takes away other characters. -/
lemma mem_expandCarets_iff {c : Char} (hcaret : c ≠ '^') (hstar : c ≠ '*') (cs : List Char) :
    c ∈ expandCarets cs ↔ c ∈ cs := by
  rw [expandCarets, List.mem_flatMap]
  constructor
  · rintro ⟨d, hd, hc⟩
    split at hc
    · simp [hstar] at hc
    · rwa [List.mem_singleton.1 hc]
  · intro hc
    exact ⟨c, hc, by simp [hcaret]⟩

/-- An expression has a null character exactly if its text has one before blanks and carets are dealt with. -/
lemma contains_null_iff (s : String) :
    (expandCarets (Text.trim s.toList)).contains '\x00' = true ↔ '\x00' ∈ s.toList := by
  rw [List.contains_iff_mem, mem_expandCarets_iff (by decide) (by decide), Text.mem_trim_iff (by decide)]

/-- A text with a null character is refused for it. -/
lemma parse_of_null {s : String} (h : '\x00' ∈ s.toList) : parse s = .error .nullCharacter := by
  have hcontains := (contains_null_iff s).2 h
  have hne : expandCarets (Text.trim s.toList) ≠ [] := by
    intro hnil
    rw [hnil] at hcontains
    cases hcontains
  unfold parse
  simp only
  rw [if_neg hne, if_pos hcontains]

/-- The faults of an outline are reasons to refuse an expression. -/
lemma ofExpression_of_firstFault {depth : Nat} {level : List Outline} {reason : Reason}
    (h : Outline.firstFault? depth level = some reason) : reason.OfExpression := by
  fun_induction Outline.firstFault? depth level with
  | case1 level => cases h
  | case2 depth => cases h
  | case3 depth level hlevel reason' hfault =>
    obtain rfl := Option.some.inj h
    obtain ⟨outline, _, hfault⟩ := List.exists_of_findSome?_eq_some hfault
    cases outline <;> cases hfault <;> trivial
  | case4 depth level hlevel hfault ih => exact ih h

/-- Tokens that are no expression are refused as one. -/
lemma ofExpression_diagnose (ts : List Token) : (diagnose ts).OfExpression := by
  rw [diagnose]
  split
  · trivial
  · cases hfault : Outline.firstFault? (ts.length + 2) [_] with
    | none => trivial
    | some reason => exact ofExpression_of_firstFault hfault

/-- A text that is refused contains a null character, or it is malformed for a reason that expressions have. -/
lemma null_or_malformed_of_parse {s : String} {e : Error} (h : parse s = .error e) :
    (e = .nullCharacter ∧ '\x00' ∈ s.toList) ∨ ∃ reason, e = .malformed s reason ∧ reason.OfExpression := by
  unfold parse at h
  simp only at h
  split_ifs at h with hempty hnull
  · cases h
    exact .inr ⟨_, rfl, trivial⟩
  · cases h
    exact .inl ⟨rfl, (contains_null_iff s).1 hnull⟩
  · split at h
    · cases h
      exact .inr ⟨_, rfl, trivial⟩
    · split at h
      · cases h
      · cases h
        exact .inr ⟨_, rfl, ofExpression_diagnose _⟩

/-- The variables of a text are missing exactly if it is no expression, with the same error. -/
lemma freeVariables_eq_error {s : String} {e : Error} : freeVariables s = .error e ↔ parse s = .error e := by
  rw [freeVariables]
  cases parse s with
  | error e' => simp [Except.map]
  | ok expression => simp [Except.map]

end Expression

/-- A checker that breaks down at some models, each with a message, and is another checker at the others. -/
def Checker.breaking (checker : Checker) (broken : Model → Option String) : Checker := fun model =>
  match broken model with
  | some message => .error (.toolCrashed message)
  | none => checker model

/-- The message with which a tool breaks down at a text. -/
def crashAt (fatal : String) : Model → Option String
  | .datum (.text text) => if text = fatal then some "tool crashed" else none
  | _ => none

/-- A tool breaks down at the model that is the text, and at no other. -/
lemma isSome_crashAt {fatal : String} {model : Model} :
    (crashAt fatal model).isSome = true ↔ model = .datum (.text fatal) := by
  cases model with
  | record expression => simp [crashAt]
  | datum value => cases value <;> simp [crashAt]

namespace Graph

variable {g : Graph} {root i : Fin g.size} {support : Diagram → List String} {features : Option (List String)}
  {checker : Checker} {e : Error} {issues : List Issue}

/-! Reports on expressions -/

/-- What the expression of a node is reported for, whatever its error. -/
def namesIssue (checker : Checker) (g : Graph) (i : Fin g.size) : List Issue :=
  match modelNames checker (g.node i).model with
  | .error e => [.atNode (g.id i) e]
  | .ok names =>
    let foreign := names.filter (!((g.children i).map g.id).contains ·)
    if foreign = [] then [] else [.unknownNames (g.id i) foreign]

/-- What the expressions of the nodes below a root are reported for. -/
def expressionIssues (g : Graph) (checker : Checker) (root : Fin g.size) : List Issue :=
  (g.reachable root).flatMap (g.namesIssue checker)

/-- Whether an error is about a model if the names of a node are not known for it. -/
def Reportable (checker : Checker) (g : Graph) (i : Fin g.size) : Prop :=
  ∀ e, modelNames checker (g.node i).model = .error e → e.isIssue = true

/-- A node is reported for its expression, or its error is not about a model and ends the validation. -/
lemma expressionIssue_spec (checker : Checker) (g : Graph) (i : Fin g.size) :
    (g.Reportable checker i ∧ g.expressionIssue checker i = .ok (g.namesIssue checker i)) ∨
      ∃ e, modelNames checker (g.node i).model = .error e ∧ e.isIssue = false ∧
        g.expressionIssue checker i = .error e := by
  simp only [Reportable, expressionIssue, namesIssue]
  cases modelNames checker (g.node i).model with
  | error e =>
    cases he : e.isIssue with
    | false => exact .inr ⟨e, rfl, he, by simp [he]⟩
    | true =>
      refine .inl ⟨?_, by simp [he]⟩
      rintro e' ⟨⟩
      exact he
  | ok names =>
    refine .inl ⟨?_, rfl⟩
    rintro e ⟨⟩

/-- With a checker, what is wrong with expressions is reported after everything else. -/
lemma validate_expressions : g.validate support root features (some checker) =
    ((g.reachable root).mapM (g.expressionIssue checker)).map fun issues =>
      g.structureIssues root ++ features.elim [] (g.presenceIssues support · root) ++ issues.flatten := by
  cases features <;> rfl

/-- Either every node below the root is reported for what is wrong with it, or the validation is ended by an
error of one of them that is not about a model. -/
theorem validate_spec (g : Graph) (support : Diagram → List String) (root : Fin g.size)
    (features : Option (List String)) (checker : Checker) :
    ((∀ i, g.Reaches root i → g.Reportable checker i) ∧ g.validate support root features (some checker) =
        .ok (g.structureIssues root ++ features.elim [] (g.presenceIssues support · root) ++
          g.expressionIssues checker root)) ∨
      ∃ i e, g.Reaches root i ∧ modelNames checker (g.node i).model = .error e ∧ e.isIssue = false ∧
        g.validate support root features (some checker) = .error e := by
  rw [validate_expressions]
  cases hresults : (g.reachable root).mapM (g.expressionIssue checker) with
  | error e =>
    obtain ⟨i, hi, hfail⟩ := exists_of_mapM_error hresults
    rcases expressionIssue_spec checker g i with ⟨_, hok⟩ | ⟨e', hnames, he', herror⟩
    · rw [hok] at hfail
      cases hfail
    · obtain rfl := Except.error.inj (herror.symm.trans hfail)
      exact .inr ⟨i, e', mem_reachable.1 hi, hnames, he', rfl⟩
  | ok results =>
    have heach : List.Forall₂ (fun i issues => g.Reportable checker i ∧ g.namesIssue checker i = issues)
        (g.reachable root) results := by
      refine (Diagram.mapM_eq_ok.1 hresults).imp fun i issues hok => ?_
      rcases expressionIssue_spec checker g i with ⟨hreportable, hok'⟩ | ⟨e, _, _, herror⟩
      · exact ⟨hreportable, Except.ok.inj (hok'.symm.trans hok)⟩
      · rw [herror] at hok
        cases hok
    obtain ⟨hreportable, hissues⟩ := (List.forall₂_and_left _ _).1 heach
    rw [← List.forall₂_map_left_iff, List.forall₂_eq_eq_eq] at hissues
    refine .inl ⟨fun i hi => hreportable i (mem_reachable.2 hi), ?_⟩
    rw [← hissues]
    rfl

/-- Nothing is reported for an expression exactly if it is known and names children only. -/
lemma namesIssue_eq_nil : g.namesIssue checker i = [] ↔
    ∃ text expression, checker (g.node i).model = .ok text ∧ Expression.parse text = .ok expression ∧
      ∀ name ∈ expression.names, name ∈ (g.children i).map g.id := by
  rw [namesIssue, modelNames]
  cases hchecker : checker (g.node i).model with
  | error e => simp
  | ok text =>
    simp only [Expression.freeVariables]
    cases hparse : Expression.parse text with
    | error e => simp [Except.map, hparse]
    | ok expression => simp [Except.map, hparse, Expression.freeNames, Formula.mem_distinct]

/-- A graph passes exactly if its structure and its presence conditions do, and the expression of every node
below the root is known and names children only. -/
theorem validate_eq_nil : g.validate support root features (some checker) = .ok [] ↔
    g.structureIssues root = [] ∧ features.elim [] (g.presenceIssues support · root) = [] ∧
      ∀ i, g.Reaches root i → ∃ text expression, checker (g.node i).model = .ok text ∧
        Expression.parse text = .ok expression ∧ ∀ name ∈ expression.names, name ∈ (g.children i).map g.id := by
  have hexpressions : g.expressionIssues checker root = [] ↔
      ∀ i, g.Reaches root i → g.namesIssue checker i = [] := by
    simp [expressionIssues, mem_reachable]
  simp only [← namesIssue_eq_nil, ← hexpressions]
  rcases validate_spec g support root features checker with ⟨_, hok⟩ | ⟨i, e, hi, hnames, _, herror⟩
  · rw [hok, Except.ok.injEq, List.append_eq_nil_iff, List.append_eq_nil_iff, and_assoc]
  · rw [herror]
    refine iff_of_false nofun ?_
    rintro ⟨_, _, hnil⟩
    have hissue := hexpressions.1 hnil i hi
    simp [namesIssue, hnames] at hissue

/-! The plain checker and checkers that break down -/

/-- An error of the plain checker is about the model. -/
lemma isIssue_of_plain {model : Model} (h : Checker.plain model = .error e) : e.isIssue = true := by
  unfold Checker.plain at h
  split at h
  · cases h
  · cases h
  · cases h
    rfl

/-- With the plain checker, the names of a node are known, or there is an error about its model, or its expression
contains a null character. -/
lemma null_of_modelNames_plain {model : Model} (h : modelNames Checker.plain model = .error e)
    (he : e.isIssue = false) :
    e = .nullCharacter ∧ ∃ text, Checker.plain model = .ok text ∧ '\x00' ∈ text.toList := by
  rw [modelNames] at h
  cases hplain : Checker.plain model with
  | error e' =>
    rw [hplain] at h
    cases h
    rw [isIssue_of_plain hplain] at he
    cases he
  | ok text =>
    rw [hplain] at h
    rcases Expression.null_or_malformed_of_parse (Expression.freeVariables_eq_error.1 h) with
      ⟨rfl, hnull⟩ | ⟨reason, rfl, _⟩
    · exact ⟨rfl, text, rfl, hnull⟩
    · cases he

/-- A model whose expression has a null character ends the validation. -/
lemma modelNames_of_null {model : Model} {text : String} (h : checker model = .ok text)
    (hnull : '\x00' ∈ text.toList) : modelNames checker model = .error .nullCharacter := by
  rw [modelNames, h]
  exact Expression.freeVariables_eq_error.2 (Expression.parse_of_null hnull)

/-- A node without known names is reported with its error. -/
lemma mem_expressionIssues (hi : g.Reaches root i) (h : modelNames checker (g.node i).model = .error e) :
    .atNode (g.id i) e ∈ g.expressionIssues checker root := by
  refine List.mem_flatMap.2 ⟨i, mem_reachable.2 hi, ?_⟩
  simp [namesIssue, h]

/-- A node whose condition is refused up front is reported with that error. -/
lemma mem_presenceIssues {features : List String} {text : String} (hi : g.Reaches root i)
    (hpresence : (g.node i).presence = .formula text) (h : Formula.normalize text = .error e) :
    .atNode (g.id i) e ∈ g.presenceIssues support features root := by
  refine List.mem_flatMap.2 ⟨i, mem_reachable.2 hi, ?_⟩
  rw [presenceIssue_of_error hpresence h]
  exact List.mem_singleton_self _

/-- With the plain checker a null character in an expression below the root ends the validation, and nothing
else does. -/
lemma validate_plain_eq_error : g.validate support root features (some Checker.plain) = .error e ↔
    e = .nullCharacter ∧ ∃ i text, g.Reaches root i ∧ Checker.plain (g.node i).model = .ok text ∧
      '\x00' ∈ text.toList := by
  rcases validate_spec g support root features Checker.plain with
    ⟨hreportable, hok⟩ | ⟨i, _, hi, hnames, he, herror⟩
  · -- every node is reported, so there is no null character
    rw [hok]
    refine iff_of_false nofun ?_
    rintro ⟨_, i, text, hi, htext, hnull⟩
    exact absurd (hreportable i hi _ (modelNames_of_null htext hnull)) (by decide)
  · obtain ⟨rfl, text, htext, hnull⟩ := null_of_modelNames_plain hnames he
    rw [herror]
    constructor
    · intro h
      exact ⟨(Except.error.inj h).symm, i, text, hi, htext, hnull⟩
    · rintro ⟨rfl, _⟩
      rfl

/-- A node at whose model a checker breaks down, or whose expression has a null character, cannot be reported. -/
lemma not_reportable_breaking {broken : Model → Option String}
    (h : (broken (g.node i).model).isSome = true ∨
      ∃ text, checker (g.node i).model = .ok text ∧ '\x00' ∈ text.toList) :
    ¬ g.Reportable (checker.breaking broken) i := by
  intro hreportable
  cases hbroken : broken (g.node i).model with
  | some message =>
    have hcrash : modelNames (checker.breaking broken) (g.node i).model = .error (.toolCrashed message) := by
      rw [modelNames, Checker.breaking, hbroken]
    exact absurd (hreportable _ hcrash) Bool.false_ne_true
  | none =>
    rw [hbroken] at h
    obtain ⟨text, htext, hnull⟩ := h.resolve_left Bool.false_ne_true
    have hwhole : checker.breaking broken (g.node i).model = .ok text := by
      rw [Checker.breaking, hbroken, htext]
    exact absurd (hreportable _ (modelNames_of_null hwhole hnull)) Bool.false_ne_true

/-- If a checker breaks down at the model of no node below the root, the validation is what it would be if it
never did. -/
lemma validate_breaking {broken : Model → Option String}
    (h : ∀ i, g.Reaches root i → broken (g.node i).model = none) :
    g.validate support root features (some (checker.breaking broken)) =
      g.validate support root features (some checker) := by
  have hissues : ∀ i ∈ g.reachable root,
      g.expressionIssue (checker.breaking broken) i = g.expressionIssue checker i := by
    intro i hi
    rw [expressionIssue, expressionIssue, modelNames, modelNames, Checker.breaking, h i (mem_reachable.1 hi)]
  rw [validate_expressions, validate_expressions, mapM_congr hissues]

/-- What ends the validation with the plain checker, if it breaks down at some models, are these models and null
characters. -/
lemma exists_error_breaking {broken : Model → Option String} :
    (∃ e, g.validate support root features (some (Checker.plain.breaking broken)) = .error e) ↔
      ∃ i, g.Reaches root i ∧ ((broken (g.node i).model).isSome = true ∨
        ∃ text, Checker.plain (g.node i).model = .ok text ∧ '\x00' ∈ text.toList) := by
  constructor
  · rintro ⟨e, herror⟩
    by_cases hbroken : ∃ i, g.Reaches root i ∧ (broken (g.node i).model).isSome = true
    · obtain ⟨i, hi, hmodel⟩ := hbroken
      exact ⟨i, hi, .inl hmodel⟩
    · have hwhole : ∀ i, g.Reaches root i → broken (g.node i).model = none := fun i hi =>
        Option.not_isSome_iff_eq_none.1 fun hmodel => hbroken ⟨i, hi, hmodel⟩
      rw [validate_breaking hwhole] at herror
      obtain ⟨_, i, text, hi, htext, hnull⟩ := validate_plain_eq_error.1 herror
      exact ⟨i, hi, .inr ⟨text, htext, hnull⟩⟩
  · rintro ⟨i, hi, hmodel⟩
    rcases validate_spec g support root features (Checker.plain.breaking broken) with
      ⟨hreportable, _⟩ | ⟨_, e, _, _, _, herror⟩
    · exact absurd (hreportable i hi) (not_reportable_breaking hmodel)
    · exact ⟨e, herror⟩

/-- The checker that breaks down at a text does so at the model that is this text, and is plain otherwise. -/
lemma breakingAt_eq_breaking (fatal : String) :
    Checker.breakingAt fatal = Checker.plain.breaking (crashAt fatal) := by
  funext model
  cases model with
  | record expression => rfl
  | datum value =>
    cases value with
    | text text =>
      simp only [Checker.breakingAt, Checker.breaking, crashAt]
      split <;> rfl
    | _ => rfl

/-- With the checker that breaks down at a text, this text as the model of a node below the root and a null
character in an expression there are what ends the validation. -/
theorem validate_breakingAt (fatal : String) :
    (∃ e, g.validate support root features (some (Checker.breakingAt fatal)) = .error e) ↔
      ∃ i, g.Reaches root i ∧ ((g.node i).model = .datum (.text fatal) ∨
        ∃ text, Checker.plain (g.node i).model = .ok text ∧ '\x00' ∈ text.toList) := by
  rw [breakingAt_eq_breaking, exists_error_breaking]
  simp only [isSome_crashAt]

/-- Whatever keeps the expression of a node below the root from being known is reported for this node. -/
lemma mem_expressionIssues_plain (hi : g.Reaches root i) :
    (∀ e, Checker.plain (g.node i).model = .error e →
      .atNode (g.id i) e ∈ g.expressionIssues Checker.plain root) ∧
    ∀ text e, Checker.plain (g.node i).model = .ok text → Expression.parse text = .error e →
      .atNode (g.id i) e ∈ g.expressionIssues Checker.plain root := by
  refine ⟨fun e he => mem_expressionIssues hi ?_, fun text e htext hparse => mem_expressionIssues hi ?_⟩
  · rw [modelNames, he]
  · rw [modelNames, htext]
    exact Expression.freeVariables_eq_error.2 hparse

/-- With the plain checker, on models that are data or records whose expression is at hand, the validation is
ended by a null character in an expression below the root and by nothing else. Otherwise everything that keeps
an expression from being known or a condition from being a formula text is reported for its node, whatever is
reported for the other nodes.

Texts consist of Unicode characters. A code point that is none, as a surrogate without its other half, stands
in no `String`, and reading a text with one breaks down as it does at a null character. Whichever models stand
for such texts, they and null characters are what ends the validation, and if no node below the root has one of
them the validation is that of the plain checker. -/
theorem validate_plain (g : Graph) (support : Diagram → List String) (root : Fin g.size) (features : List String) :
    (∀ e, g.validate support root (some features) (some Checker.plain) = .error e ↔
      e = .nullCharacter ∧ ∃ i text, g.Reaches root i ∧ Checker.plain (g.node i).model = .ok text ∧
        '\x00' ∈ text.toList) ∧
    (∀ issues, g.validate support root (some features) (some Checker.plain) = .ok issues →
      issues = g.structureIssues root ++ g.presenceIssues support features root ++
        g.expressionIssues Checker.plain root ∧
      ∀ i, g.Reaches root i →
        (∀ e, Checker.plain (g.node i).model = .error e →
          .atNode (g.id i) e ∈ g.expressionIssues Checker.plain root) ∧
        (∀ text e, Checker.plain (g.node i).model = .ok text → Expression.parse text = .error e →
          .atNode (g.id i) e ∈ g.expressionIssues Checker.plain root) ∧
        ∀ text e, (g.node i).presence = .formula text → Formula.normalize text = .error e →
          .atNode (g.id i) e ∈ g.presenceIssues support features root) ∧
    ∀ broken : Model → Option String,
      ((∃ e, g.validate support root (some features) (some (Checker.plain.breaking broken)) = .error e) ↔
        ∃ i, g.Reaches root i ∧ ((broken (g.node i).model).isSome = true ∨
          ∃ text, Checker.plain (g.node i).model = .ok text ∧ '\x00' ∈ text.toList)) ∧
      ((∀ i, g.Reaches root i → broken (g.node i).model = none) →
        g.validate support root (some features) (some (Checker.plain.breaking broken)) =
          g.validate support root (some features) (some Checker.plain)) := by
  refine ⟨fun e => validate_plain_eq_error, fun issues hissues => ?_,
    fun _ => ⟨exists_error_breaking, validate_breaking⟩⟩
  rcases validate_spec g support root (some features) Checker.plain with ⟨_, hok⟩ | ⟨_, _, _, _, _, herror⟩
  · refine ⟨Except.ok.inj (hissues.symm.trans hok), fun i hi => ?_⟩
    obtain ⟨hmodel, hexpression⟩ := mem_expressionIssues_plain hi
    exact ⟨hmodel, hexpression, fun text e hpresence hnormal => mem_presenceIssues hi hpresence hnormal⟩
  · rw [herror] at hissues
    cases hissues

/-- A null character in the expression of the only node ends the validation instead of being reported. -/
theorem validate_null :
    (single "r" (.formula "true") (.datum (.text "a\x00b"))).validate (fun _ => []) (0 : Fin 1) (some [])
      (some Checker.plain) = .error .nullCharacter := by
  rcases validate_spec (single "r" (.formula "true") (.datum (.text "a\x00b"))) (fun _ => []) (0 : Fin 1) (some [])
    Checker.plain with ⟨hreportable, _⟩ | ⟨i, e, _, hnames, he, herror⟩
  · exact absurd (hreportable (0 : Fin 1) .refl .nullCharacter (by decide +kernel)) (by decide)
  · rw [(null_of_modelNames_plain hnames he).1] at herror
    exact herror

end Graph

end ProductLine
