import Mathlib.Tactic.Common
import ProductLine.Proofs.Graph.Validation

/-!
# Presence conditions that pass

A presence condition is refused in two stages. Up front it may be empty, have an illegal character or unbalanced
parentheses; then it is read, and its words and signs may be no formula. The validator goes through the first stage
only and compares the names that stand in the text with the known features, so it reports exactly what the encoder
refuses up front and names that are unknown (`presenceIssues_exact`). A condition that passes may still be refused
when it is read (`presenceIssues_unread`).
-/

namespace ProductLine

/-! Reasons for which a formula is refused -/

/-- Whether a text is refused for this reason before it is read. -/
def Reason.IsUpFront : Reason → Prop
  | .emptyFormula => True
  | .illegalCharacter _ => True
  | .unbalanced => True
  | _ => False

/-- Whether a text is refused for this reason when it is read: its words and signs are no formula. -/
def Reason.IsGrammatical : Reason → Prop
  | .illegalToken _ => True
  | .unexpected _ _ => True
  | .unexpectedEnd => True
  | .unknownOperator _ => True
  | _ => False

/-- A text that is refused for its grammar is not refused up front. -/
lemma Reason.IsGrammatical.not_isUpFront {reason : Reason} (h : reason.IsGrammatical) : ¬ reason.IsUpFront := by
  cases reason with
  | emptyFormula | illegalCharacter | unbalanced => exact h.elim
  | _ => exact id

namespace Formula

variable {text normal : String} {reason : Reason} {e : Error}

/-- A token is refused for a grammatical reason. -/
lemma isGrammatical_refuse (bad : Option Char) (token : Token) (rest : List Token) :
    (refuse bad token rest).IsGrammatical := by
  cases bad <;> trivial

/-- An end that comes too early is refused for a grammatical reason. -/
lemma isGrammatical_refuseEnd (bad : Option Char) : (refuseEnd bad).IsGrammatical := by
  cases bad <;> trivial

/-- A formula that cannot be completed is refused for a grammatical reason. -/
lemma isGrammatical_of_complete {strength : Nat} {f : Formula} {stack : List Frame}
    (h : complete strength f stack = .error reason) : reason.IsGrammatical := by
  fun_induction complete strength f stack with
  | case1 f stack ih => exact ih h
  | case2 f c left stack hle ih => exact ih h
  | case3 f c left stack hle => cases h
  | case4 f left stack =>
    cases h
    trivial
  | case5 f stack => cases h

/-- Reading fails for grammatical reasons only: a token is refused, tokens end too early, or an equation is
completed. -/
lemma isGrammatical_of_read (bad : Option Char) (expect : Expect) (stack : List Frame) (tokens : List Token) :
    ∀ reason, read bad expect stack tokens = .error reason → reason.IsGrammatical := by
  fun_induction read bad expect stack tokens
  -- the reading goes on, or it ends with a formula
  all_goals first
    | assumption
    | rintro reason ⟨⟩
  -- it ends with an error
  all_goals first
    | trivial
    | exact isGrammatical_refuse _ _ _
    | exact isGrammatical_refuseEnd _
    | exact isGrammatical_of_complete ‹_›

/-- A normal text that is no formula is refused for a grammatical reason. -/
lemma isGrammatical_of_parse (h : parse normal = .error reason) : reason.IsGrammatical :=
  isGrammatical_of_read _ _ _ _ reason h

/-- Up front, a text is refused for one of three reasons. -/
lemma isUpFront_of_normalize (h : normalize text = .error e) :
    ∃ refused reason, e = .malformed refused reason ∧ reason.IsUpFront := by
  unfold normalize at h
  simp only at h
  split at h
  · cases h
    exact ⟨_, _, rfl, trivial⟩
  · split at h
    · cases h
      exact ⟨_, _, rfl, trivial⟩
    · split at h
      · cases h
      · cases h
        exact ⟨_, _, rfl, trivial⟩

/-- A text that is no formula is refused up front or when it is read. -/
lemma ofText_eq_error : ofText text = .error e ↔ normalize text = .error e ∨
    ∃ normal reason, normalize text = .ok normal ∧ parse normal = .error reason ∧ e = .malformed text reason := by
  rw [ofText]
  cases hnormal : normalize text with
  | error e' => simp
  | ok normal =>
    cases hparse : parse normal with
    | error reason => simp [hparse, eq_comm]
    | ok f => simp [hparse]

/-- Whether the name of a feature stands in a text that is not refused up front. -/
def Mentions (text name : String) : Prop := ∃ normal, normalize text = .ok normal ∧ name ∈ features normal

/-- What a formula depends on is mentioned by its text. -/
lemma mentions_of_ofText {f : Formula} (h : ofText text = .ok f) : ∀ n ∈ f.names, Mentions text n := by
  rw [ofText] at h
  split at h
  · cases h
  · rename_i normal hnormal
    split at h
    · cases h
    · rename_i hparse
      cases h
      exact fun n hn => ⟨normal, hnormal, mem_features_of_parse hparse n hn⟩

end Formula

/-- Whether a text is refused up front with an error when it is encoded. -/
def FeatureSpace.RefusesUpFront (space : FeatureSpace) (text : String) (e : Error) : Prop :=
  (space.encode text).1 = .error e ∧ ∃ refused reason, e = .malformed refused reason ∧ reason.IsUpFront

/-- A text is refused up front exactly if it has no normal form. -/
lemma FeatureSpace.refusesUpFront_iff {space : FeatureSpace} {text : String} {e : Error} :
    space.RefusesUpFront text e ↔ Formula.normalize text = .error e := by
  rw [RefusesUpFront, encode_eq_error, Formula.ofText_eq_error]
  constructor
  · rintro ⟨hnormal | ⟨_, reason, _, hparse, rfl⟩, _, _, heq, hupfront⟩
    · exact hnormal
    · cases heq
      exact absurd hupfront (Formula.isGrammatical_of_parse hparse).not_isUpFront
  · exact fun h => ⟨.inl h, Formula.isUpFront_of_normalize h⟩

namespace Graph

variable {g : Graph} {root i : Fin g.size} {support : Diagram → List String} {features : List String}
  {text : String} {e : Error}

/-- No feature is unknown exactly if all names are features. -/
lemma unknown_eq_nil {names : List String} : unknown features names = [] ↔ ∀ n ∈ names, n ∈ features := by
  rw [unknown, ← List.length_eq_zero_iff, List.length_mergeSort, List.length_eq_zero_iff, List.filter_eq_nil_iff]
  simp

/-- A condition that is refused up front is reported with that error. -/
lemma presenceIssue_of_error (hpresence : (g.node i).presence = .formula text)
    (h : Formula.normalize text = .error e) : presenceIssue support features (g.node i) = [.atNode (g.id i) e] := by
  simp only [presenceIssue, hpresence, h]
  rfl

/-- A condition that is not refused up front is reported exactly if it mentions an unknown feature. -/
lemma presenceIssue_of_ok {normal : String} (hpresence : (g.node i).presence = .formula text)
    (h : Formula.normalize text = .ok normal) :
    presenceIssue support features (g.node i) = [] ↔ ∀ n ∈ Formula.features normal, n ∈ features := by
  simp only [presenceIssue, hpresence, h]
  rw [← unknown_eq_nil]
  split_ifs with hunknown
  · exact iff_of_true rfl hunknown
  · exact iff_of_false (by simp) hunknown

/-- Nothing is reported for a condition exactly if it is not refused up front and mentions known features only. -/
lemma presenceIssue_eq_nil (space : FeatureSpace) (hpresence : (g.node i).presence = .formula text) :
    presenceIssue support features (g.node i) = [] ↔
      (∀ e, ¬ space.RefusesUpFront text e) ∧ ∀ n, Formula.Mentions text n → n ∈ features := by
  simp only [FeatureSpace.refusesUpFront_iff, Formula.Mentions]
  cases hnormal : Formula.normalize text with
  | error e =>
    rw [presenceIssue_of_error hpresence hnormal]
    simp
  | ok normal =>
    rw [presenceIssue_of_ok hpresence hnormal]
    simp

/-- The validator reports a presence condition exactly if the encoder refuses it up front, and then with the
same error, or if it mentions an unknown feature. So a condition of a graph that passes is encoded over the
known features, or it is refused for its grammar. -/
theorem presenceIssues_exact (g : Graph) (support : Diagram → List String) (root : Fin g.size)
    (features : List String) (space : FeatureSpace) (text : Fin g.size → String)
    (hpresence : ∀ i, g.Reaches root i → (g.node i).presence = .formula (text i)) :
    g.validate support root (some features) none =
        .ok (g.structureIssues root ++ g.presenceIssues support features root) ∧
      (∀ i, g.Reaches root i →
        (presenceIssue support features (g.node i) ≠ [] ↔
          (∃ e, space.RefusesUpFront (text i) e) ∨ ∃ n, Formula.Mentions (text i) n ∧ n ∉ features) ∧
        ∀ e, space.RefusesUpFront (text i) e → presenceIssue support features (g.node i) = [.atNode (g.id i) e]) ∧
      (g.presenceIssues support features root = [] → ∀ i, g.Reaches root i →
        (∃ r f, (space.encode (text i)).1 = .ok r ∧ Formula.ofText (text i) = .ok f ∧ ∀ n ∈ f.names, n ∈ features) ∨
        ∃ reason, reason.IsGrammatical ∧ (space.encode (text i)).1 = .error (.malformed (text i) reason)) := by
  refine ⟨validate_presences, ?_, ?_⟩
  · intro i hi
    constructor
    · rw [Ne, presenceIssue_eq_nil space (hpresence i hi), not_and_or]
      simp
    · intro e he
      exact presenceIssue_of_error (hpresence i hi) (FeatureSpace.refusesUpFront_iff.1 he)
  · intro hpasses i hi
    obtain ⟨hupfront, hknown⟩ :=
      (presenceIssue_eq_nil space (hpresence i hi)).1 (presenceIssues_eq_nil.1 hpasses i hi)
    cases hf : Formula.ofText (text i) with
    | ok f =>
      obtain ⟨r, after, hencode⟩ := FeatureSpace.exists_encode hf space
      exact .inl ⟨r, f, congrArg Prod.fst hencode, rfl, fun n hn => hknown n (Formula.mentions_of_ofText hf n hn)⟩
    | error e =>
      right
      rcases Formula.ofText_eq_error.1 hf with hnormal | ⟨normal, reason, _, hparse, rfl⟩
      · exact absurd (FeatureSpace.refusesUpFront_iff.2 hnormal) (hupfront e)
      · exact ⟨reason, Formula.isGrammatical_of_parse hparse, FeatureSpace.encode_eq_error.2 hf⟩

/-- Two names without a connective pass if both are known, but they are no formula. -/
theorem presenceIssues_unread :
    (single "r" (.formula "b c") (.datum .null)).validate (fun _ => []) (0 : Fin 1) (some ["b", "c"]) none =
        .ok [] ∧
      ((FeatureSpace.mk ⟨0, none⟩ []).encode "b c").1 = .error (.malformed "b c" (.unexpected "c" [])) := by
  constructor
  · apply validate_presences_eq_nil.2
    refine ⟨structureIssues_single (by decide +kernel) _, presenceIssues_eq_nil.2 fun i _ => ?_⟩
    have hpresence : ((single "r" (.formula "b c") (.datum .null)).node i).presence = .formula "b c" :=
      congrArg Node.presence (node_single i)
    have hnormal : Formula.normalize "b c" = .ok "b c" := by decide +kernel
    apply (presenceIssue_of_ok hpresence hnormal).2
    decide +kernel
  · decide +kernel

/-- The theorem applies, for example, to one node whose condition mentions a feature that is not known. -/
theorem presenceIssues_exact_unknown :
    (∀ i, (single "r" (.formula "b c") (.datum .null)).Reaches (0 : Fin 1) i →
      ((single "r" (.formula "b c") (.datum .null)).node i).presence = .formula "b c") ∧
    presenceIssue (fun _ => []) ["b"] ((single "r" (.formula "b c") (.datum .null)).node (0 : Fin 1)) ≠ [] := by
  have hpresence : ∀ i, (single "r" (.formula "b c") (.datum .null)).Reaches (0 : Fin 1) i →
      ((single "r" (.formula "b c") (.datum .null)).node i).presence = .formula "b c" :=
    fun i _ => congrArg Node.presence (node_single i)
  refine ⟨hpresence, ?_⟩
  obtain ⟨_, hreported, _⟩ := presenceIssues_exact (single "r" (.formula "b c") (.datum .null)) (fun _ => [])
    (0 : Fin 1) ["b"] ⟨⟨0, none⟩, []⟩ (fun _ => "b c") hpresence
  apply (hreported (0 : Fin 1) .refl).1.2
  exact .inr ⟨"c", ⟨"b c", by decide +kernel, by decide +kernel⟩, by decide⟩

end Graph

end ProductLine
