import ProductLine.Proofs.Formula.Written
import ProductLine.Proofs.Workspace

/-!
# Feature spaces only grow

What a formula declares are the names in its normal text that were not declared before, in order of first
appearance (`FeatureSpace.encode_of_normalize`), whether or not the normal text is a formula then. A text
without a normal text declares nothing (`encode_of_normalize_error`). Every step in a feature space appends
features and keeps the diagrams that were made, so however a space is used, the features form a list that
grows at its end, without repetitions, and no diagram that was made changes its values or what it is equal to
(`Workspace.growth_of_run`).
-/

namespace ProductLine

namespace Formula

/-- Leaving out repetitions first makes no difference if what is left out then is left out afterwards as well. -/
lemma distinct_distinct {seen seen' : List String} (h : seen' ⊆ seen) (names : List String) :
    distinct seen (distinct seen' names) = distinct seen names := by
  induction names generalizing seen seen' with
  | nil => rfl
  | cons n names ih =>
    by_cases hn' : n ∈ seen'
    · have hn : n ∈ seen := h hn'
      rw [distinct, if_pos (by simpa using hn'), ih h, distinct, if_pos (by simpa using hn)]
    · rw [distinct, if_neg (by simpa using hn')]
      by_cases hn : n ∈ seen
      · rw [distinct, if_pos (by simpa using hn), ih (List.cons_subset.2 ⟨hn, h⟩), distinct,
          if_pos (by simpa using hn)]
      · rw [distinct, if_neg (by simpa using hn), ih (List.cons_subset_cons n h), distinct,
          if_neg (by simpa using hn)]

/-- The names in the words of a text, in order, each as often as it stands there. -/
def namesIn (text : String) : List String := namesOf (words [] text.toList)

end Formula

namespace FeatureSpace

/-- What is appended when features are declared. -/
lemma declare_eq (space : FeatureSpace) (names : List String) : space.declare names =
    { space with features := space.features ++ (names.filter (· ∉ space.features)).eraseDups } := by
  rw [declare, Formula.distinct_eq_eraseDups]

/-- The space after the features of a normal text were declared. -/
def withNamesIn (space : FeatureSpace) (normal : String) : FeatureSpace :=
  { space with
    features := space.features ++ ((Formula.namesIn normal).filter (· ∉ space.features)).eraseDups }

/-- Declaring the features of a normal text adds the names in it. -/
lemma declare_features (space : FeatureSpace) (normal : String) :
    space.declare (Formula.features normal) = space.withNamesIn normal := by
  have hfeatures : Formula.features normal = Formula.distinct [] (Formula.namesIn normal) := rfl
  rw [declare, hfeatures, Formula.distinct_distinct (List.nil_subset _), Formula.distinct_eq_eraseDups]
  rfl

/-- A text without a normal text is refused as such and declares nothing. -/
lemma encode_of_normalize_error {text : String} {e : Error} (h : Formula.normalize text = .error e)
    (space : FeatureSpace) : space.encode text = (.error e, space) := by
  rw [encode, h]

/-- The names in a normal text are declared, whether or not it is a formula. -/
lemma encode_of_normalize {text normal : String} (h : Formula.normalize text = .ok normal) (space : FeatureSpace) :
    (∀ f, Formula.parse normal = .ok f →
      space.encode text = (.ok (f.region (space.withNamesIn normal).level), space.withNamesIn normal)) ∧
    ∀ reason, Formula.parse normal = .error reason →
      space.encode text = (.error (.malformed text reason), space.withNamesIn normal) := by
  constructor
  · intro f hf
    simp only [encode, h, hf, declare_features]
  · intro reason hreason
    simp only [encode, h, hreason, declare_features]

end FeatureSpace

namespace Settings

/-- A fresh space has the features of the order that was chosen, later repetitions left out. -/
lemma features_space (settings : Settings) (serial : Nat) :
    (settings.space serial).features = settings.order.eraseDups := by
  rw [space, FeatureSpace.declare_eq]
  simp

end Settings

namespace Handle

/-- Whether two handles are one object, or diagrams with the same values at all products of a space, all of them
numbers. -/
def AgreeIn (space : FeatureSpace) (a b : Handle) : Prop :=
  a.serial = b.serial ∨ a.diagram.hasNaN = false ∧ b.diagram.hasNaN = false ∧
    ∀ x, a.diagram.evaluate space x = b.diagram.evaluate space x

/-- Diagrams of a space are equal exactly if they agree in it. -/
lemma equal_iff_agreeIn {space : FeatureSpace} (hspace : space.features.Nodup) {a b : Handle}
    (ha : a.diagram.Canonical space) (hb : b.diagram.Canonical space) : a.equal b = true ↔ a.AgreeIn space b := by
  rw [Handle.equal_iff]
  apply or_congr_right
  constructor
  · rintro ⟨hnan, heq⟩
    rw [← heq]
    exact ⟨hnan, hnan, fun x => rfl⟩
  · rintro ⟨hnana, hnanb, hvalues⟩
    exact ⟨hnana, ha.ext hspace hb hnana hnanb hvalues⟩

end Handle

namespace Workspace

variable {settings : Settings} {serial : Nat} {w : Workspace}

/-- However a feature space is used, its features begin with those of the order that was chosen, later
repetitions left out, no feature is there twice, and every further use only appends. A text that is encoded
then appends the names in its normal text that are not there yet, in order of first appearance, also if it
turns out to be no formula; a text without a normal text appends nothing. No further use changes the value of
a diagram at any product, and diagrams that were equal before, and only those, are equal afterwards. -/
theorem growth_of_run (h : (fresh settings serial).Run w) {later : Workspace} (hlater : w.Run later) :
    ((fresh settings serial).space.features = settings.order.eraseDups ∧
      settings.order.eraseDups <+: w.space.features ∧ w.space.features.Nodup ∧
      w.space.features <+: later.space.features) ∧
    (∀ text,
      (∀ e, Formula.normalize text = .error e → w.space.encode text = (.error e, w.space)) ∧
      ∀ normal, Formula.normalize text = .ok normal →
        (w.space.encode text).2 = { w.space with
          features := w.space.features ++ ((Formula.namesIn normal).filter (· ∉ w.space.features)).eraseDups } ∧
        ∀ reason, Formula.parse normal = .error reason →
          (w.space.encode text).1 = .error (.malformed text reason)) ∧
    (∀ d ∈ w.diagrams, ∀ x, d.evaluate later.space x = d.evaluate w.space x) ∧
    ∀ a b : Handle, a.diagram ∈ w.diagrams → b.diagram ∈ w.diagrams →
      (a.equal b = true ↔ a.AgreeIn w.space b) ∧ (a.equal b = true ↔ a.AgreeIn later.space b) := by
  have hcanonical := canonical_of_run h
  have hgrown := hcanonical.run hlater
  have hfirst := settings.features_space serial
  refine ⟨⟨hfirst, ?_, hcanonical.nodup, hgrown.space.features⟩, ?_, ?_, ?_⟩
  · rw [← hfirst]
    exact ((Canonical.fresh settings serial).run h).space.features
  · intro text
    refine ⟨fun e he => FeatureSpace.encode_of_normalize_error he w.space, fun normal hnormal => ?_⟩
    obtain ⟨hok, herror⟩ := FeatureSpace.encode_of_normalize hnormal w.space
    cases hparse : Formula.parse normal with
    | ok f =>
      rw [hok f hparse]
      exact ⟨rfl, nofun⟩
    | error reason =>
      rw [herror reason hparse]
      refine ⟨rfl, fun reason' hreason => ?_⟩
      cases hreason
      rfl
  · exact fun d hd x => (hcanonical.diagrams d hd).evaluate_later hgrown.space x
  · intro a b ha hb
    constructor
    · exact Handle.equal_iff_agreeIn hcanonical.nodup (hcanonical.diagrams _ ha) (hcanonical.diagrams _ hb)
    · apply Handle.equal_iff_agreeIn hgrown.canonical.nodup
      · exact hgrown.canonical.diagrams _ (hgrown.diagrams _ ha)
      · exact hgrown.canonical.diagrams _ (hgrown.diagrams _ hb)

/-- The theorem applies, for example, if the diagram of a feature is made and then a text is refused that ends too
early and names another feature: the other feature is declared, and the diagram keeps its values. -/
theorem growth_of_run_refused : ∃ w later d, (fresh .standard 0).Run w ∧ w.Run later ∧ d ∈ w.diagrams ∧
    w.space.features = ["a"] ∧ later.space.features = ["a", "b"] ∧
    ∀ x, d.evaluate later.space x = d.evaluate w.space x := by
  have hdeclared : (fresh .standard 0).Step _ := .declared ["a"]
  have hmem : "a" ∈ ((fresh .standard 0).space.declare ["a"]).features :=
    FeatureSpace.mem_declare (List.mem_singleton_self "a")
  have hmade : Makes { fresh .standard 0 with space := (fresh .standard 0).space.declare ["a"] } _ := .feature hmem
  have hrun := Relation.ReflTransGen.tail (.single hdeclared) (Step.made hmade)
  have hnormal : Formula.normalize "b &" = .ok "b &" := by decide +kernel
  obtain ⟨_, herror⟩ := FeatureSpace.encode_of_normalize hnormal ((fresh .standard 0).space.declare ["a"])
  have hparse : Formula.parse "b &" = .error .unexpectedEnd := by decide +kernel
  obtain ⟨_, _, hvalues, _⟩ := growth_of_run hrun (.single (.refused (herror _ hparse)))
  exact ⟨_, _, _, hrun, .single (.refused (herror _ hparse)), List.mem_cons_self, by decide +kernel,
    by decide +kernel, hvalues _ List.mem_cons_self⟩

end Workspace

end ProductLine
