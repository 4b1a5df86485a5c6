import Mathlib.Data.List.Nodup
import Mathlib.Tactic.Common
import ProductLine.FeatureSpace
import ProductLine.Proofs.Formula.Names
import ProductLine.Proofs.Region

/-!
# Feature spaces that grow

Encoding a formula may declare features, and later formulas may declare more. The region of a formula holds at
the products for which the formula holds, in the space after it was encoded and in every one that comes from
it (`encode_holds`). Whether a text can be encoded does not depend on the space (`encode_eq_error`). Features that
were declared later do not show at the levels that were there (`Extends.product`), and if no feature was declared
twice every choice at these levels is that of some product (`exists_product`).
-/

namespace ProductLine

/-- The formula that a text is. -/
def Formula.ofText (text : String) : Except Error Formula :=
  match normalize text with
  | .error e => .error e
  | .ok normal =>
    match parse normal with
    | .error reason => .error (.malformed text reason)
    | .ok f => .ok f

namespace FeatureSpace

/-- Whether a space comes from another one by declaring features. -/
structure Extends (space later : FeatureSpace) : Prop where
  owner : later.owner = space.owner
  features : space.features <+: later.features

namespace Extends

/-- A space goes on from itself. -/
lemma refl (space : FeatureSpace) : space.Extends space := ⟨rfl, List.prefix_rfl⟩

/-- What goes on from a later space goes on from the earlier one. -/
lemma trans {s t u : FeatureSpace} (h : s.Extends t) (h' : t.Extends u) : s.Extends u :=
  ⟨h'.owner.trans h.owner, h.features.trans h'.features⟩

/-- Declared features keep their levels. -/
lemma level {s t : FeatureSpace} (h : s.Extends t) {name : String} (hname : name ∈ s.features) :
    t.level name = s.level name := by
  obtain ⟨more, hmore⟩ := h.features
  rw [FeatureSpace.level, ← hmore, List.idxOf_append, if_pos hname]
  rfl

end Extends

/-- A space goes on when features are declared. -/
lemma declare_extends_self (space : FeatureSpace) (names : List String) : space.Extends (space.declare names) :=
  ⟨rfl, declare_extends space names⟩

/-- What is declared is among the features then. -/
lemma mem_declare {space : FeatureSpace} {names : List String} {n : String} (hn : n ∈ names) :
    n ∈ (space.declare names).features := by
  by_cases h : n ∈ space.features
  · exact List.mem_append_left _ h
  · exact List.mem_append_right _ (Formula.mem_distinct.2 ⟨hn, h⟩)

/-- A product has a declared feature exactly if it was said to. -/
lemma product_level {space : FeatureSpace} {name : String} (h : name ∈ space.features) (x : String → Bool) :
    space.product x (space.level name) = x name := by
  have hlevel : space.features[space.level name]? = some name := by
    rw [level, List.getElem?_eq_getElem (List.idxOf_lt_length_iff.2 h), List.getElem_idxOf]
  simp only [product, hlevel]

/-- The region of a formula whose features are declared holds where the formula does, now and later. -/
lemma holds_region_product {space later : FeatureSpace} {f : Formula} (hlater : space.Extends later)
    (hf : ∀ n ∈ f.names, n ∈ space.features) (x : String → Bool) :
    (f.region space.level).holds (later.product x) = f.holds x := by
  rw [Formula.holds_region]
  refine Formula.holds_congr fun n hn => ?_
  rw [← hlater.level (hf n hn)]
  exact product_level (hlater.features.subset (hf n hn)) x

/-- A space goes on when a formula is encoded, successfully or not. -/
lemma encode_extends (space : FeatureSpace) (text : String) : space.Extends (space.encode text).2 := by
  rw [encode]
  split
  · exact .refl space
  · split
    · exact declare_extends_self space _
    · exact declare_extends_self space _

/-- A text that is encoded is a formula, and its region holds where the formula does, now and later. -/
theorem encode_holds {space after : FeatureSpace} {text : String} {r : Region}
    (h : space.encode text = (.ok r, after)) :
    ∃ f, Formula.ofText text = .ok f ∧
      ∀ later, after.Extends later → ∀ x, r.holds (later.product x) = f.holds x := by
  rw [encode] at h
  cases hnormal : Formula.normalize text with
  | error e =>
    rw [hnormal] at h
    cases h
  | ok normal =>
    rw [hnormal] at h
    cases hf : Formula.parse normal with
    | error reason =>
      simp only [hf] at h
      cases h
    | ok f =>
      simp only [hf] at h
      cases h
      refine ⟨f, by simp only [Formula.ofText, hnormal, hf], fun later hlater x => ?_⟩
      exact holds_region_product hlater (fun n hn => mem_declare (Formula.mem_features_of_parse hf n hn)) x

/-- The region of a text that is encoded speaks about declared features only. -/
lemma within_of_encode {space after : FeatureSpace} {text : String} {r : Region}
    (h : space.encode text = (.ok r, after)) : r.Within after.features.length := by
  rw [encode] at h
  split at h
  · cases h
  · rename_i normal hnormal
    simp only at h
    split at h
    · cases h
    · rename_i f hf
      cases h
      refine Formula.within_region fun n hn => ?_
      exact List.idxOf_lt_length_iff.2 (mem_declare (Formula.mem_features_of_parse hf n hn))

/-- A text is refused if and for what reason it is no formula, whatever features are declared. -/
theorem encode_eq_error {space : FeatureSpace} {text : String} {e : Error} :
    (space.encode text).1 = .error e ↔ Formula.ofText text = .error e := by
  rw [encode, Formula.ofText]
  cases Formula.normalize text with
  | error e' => exact ⟨fun h => congrArg _ (Except.error.inj h), fun h => congrArg _ (Except.error.inj h)⟩
  | ok normal =>
    simp only
    cases Formula.parse normal with
    | error reason => exact ⟨fun h => congrArg _ (Except.error.inj h), fun h => congrArg _ (Except.error.inj h)⟩
    | ok f =>
      constructor
      · intro h
        cases h
      · intro h
        cases h

/-- The text of a formula is encoded in every space. -/
lemma exists_encode {text : String} {f : Formula} (h : Formula.ofText text = .ok f) (space : FeatureSpace) :
    ∃ r after, space.encode text = (.ok r, after) := by
  generalize hout : space.encode text = out
  obtain ⟨e | r, after⟩ := out
  · have herror := encode_eq_error.1 (congrArg Prod.fst hout)
    rw [h] at herror
    cases herror
  · exact ⟨r, after, rfl⟩

/-! Features declared once -/

/-- The names left after dropping repetitions are distinct. -/
lemma nodup_distinct (seen names : List String) : (Formula.distinct seen names).Nodup := by
  induction names generalizing seen with
  | nil => exact .nil
  | cons n names ih =>
    rw [Formula.distinct]
    split
    · exact ih seen
    · refine List.nodup_cons.2 ⟨?_, ih (n :: seen)⟩
      intro hmem
      exact (Formula.mem_distinct.1 hmem).2 List.mem_cons_self

/-- Declaring features declares none twice. -/
lemma nodup_declare {space : FeatureSpace} (h : space.features.Nodup) (names : List String) :
    (space.declare names).features.Nodup := by
  refine List.nodup_append.2 ⟨h, nodup_distinct _ _, ?_⟩
  rintro a ha _ hb rfl
  exact (Formula.mem_distinct.1 hb).2 ha

/-- Features stay distinct when a text is encoded. -/
lemma nodup_encode {space : FeatureSpace} (h : space.features.Nodup) (text : String) :
    (space.encode text).2.features.Nodup := by
  rw [encode]
  split
  · exact h
  · split
    · exact nodup_declare h _
    · exact nodup_declare h _

/-- A later space has no fewer features. -/
lemma Extends.length_le {space later : FeatureSpace} (h : space.Extends later) :
    space.features.length ≤ later.features.length := h.features.length_le

/-- At the levels that were there, features that were declared later do not show. -/
lemma Extends.product {space later : FeatureSpace} (h : space.Extends later) (x : String → Bool) {level : Nat}
    (hlevel : level < space.features.length) : later.product x level = space.product x level := by
  obtain ⟨more, hmore⟩ := h.features
  rw [FeatureSpace.product, FeatureSpace.product, ← hmore, List.getElem?_append_left hlevel]

/-- If no feature was declared twice, every choice at the levels of a space is that of some product. -/
theorem exists_product {space : FeatureSpace} (h : space.features.Nodup) (y : Nat → Bool) :
    ∃ x : String → Bool, ∀ level < space.features.length, space.product x level = y level := by
  refine ⟨fun name => y (space.level name), ?_⟩
  intro level hlevel
  rw [FeatureSpace.product, List.getElem?_eq_getElem hlevel]
  exact congrArg y (h.idxOf_getElem level hlevel)

end FeatureSpace

end ProductLine
