import ProductLine.FeatureModel
import ProductLine.Proofs.Diagram.Pointwise
import ProductLine.Proofs.FeatureSpace
import ProductLine.Proofs.Region.Products

/-!
# Products of feature models

A feature model speaks about the features that its formula names, and its diagram depends on no others,
whatever was declared before it was built or is declared later. So the products listed, the number of products
and the check of one product agree (`products_of_build`): they are the choices among these features for which
the formula holds.
-/

namespace ProductLine

/-- The diagram of a region is not zero exactly there. -/
lemma Diagram.nonzero_ofRegion (owner : Owner) (r : Region) : (ofRegion owner r).nonzero = r := by
  rw [nonzero, ofRegion]
  split
  · rename_i hempty
    rw [hempty]
    rfl
  · refine Region.ext fun x => ?_
    rw [List.foldl_cons, List.foldl_nil, Region.holds_union, Region.holds_empty, Bool.false_or]

namespace Formula

variable {f : Formula} {level : String → Nat}

/-- The region of a formula is found with the levels of its names. -/
lemma region_congr {level' : String → Nat} (h : ∀ n ∈ f.names, level n = level' n) :
    f.region level = f.region level' := by
  refine Region.ext fun x => ?_
  rw [holds_region, holds_region]
  exact holds_congr fun n hn => congrArg x (h n hn)

/-- The region of a formula depends on the levels of its names only. -/
lemma exists_name_of_dependsOn {i : Nat} (h : (f.region level).dependsOn i = true) :
    ∃ n ∈ f.names, level n = i := by
  have hdecided : (f.region level).DecidedBy fun i => ∃ n ∈ f.names, level n = i :=
    decidedBy_region fun n hn => ⟨n, hn, rfl⟩
  exact hdecided.of_dependsOn h

end Formula

/-- Features that are declared have different levels. -/
lemma FeatureSpace.nodup_map_level {space : FeatureSpace} {names : List String} (hnames : names.Nodup)
    (h : ∀ n ∈ names, n ∈ space.features) : (names.map space.level).Nodup :=
  hnames.map_on fun n hn _ _ heq => (List.idxOf_inj (h n hn)).1 heq

namespace FeatureModel

variable {space : FeatureSpace} {m : FeatureModel} {f : Formula}

/-- Whether a feature model is that of a formula in a feature space. -/
structure Describes (m : FeatureModel) (space : FeatureSpace) (f : Formula) : Prop where
  diagram : m.diagram = .ofRegion space.owner (f.region space.level)
  names : ∀ n ∈ f.names, n ∈ m.features
  declared : ∀ n ∈ m.features, n ∈ space.features
  nodup : m.features.Nodup

namespace Describes

/-- The region of a feature model is that of the formula it was made from. -/
lemma region (h : m.Describes space f) : m.region = f.region space.level := by
  rw [FeatureModel.region, h.diagram, Diagram.nonzero_ofRegion]

/-- Declaring more features changes nothing about a feature model. -/
lemma mono (h : m.Describes space f) {later : FeatureSpace} (hlater : space.Extends later) :
    m.Describes later f := by
  have hlevel : f.region space.level = f.region later.level :=
    Formula.region_congr fun n hn => (hlater.level (h.declared n (h.names n hn))).symm
  refine ⟨?_, h.names, fun n hn => hlater.features.subset (h.declared n hn), h.nodup⟩
  rw [h.diagram, hlater.owner, hlevel]

/-- The feature model of a text is that of the formula in its normal form. -/
lemma of_build {before after : FeatureSpace} {source : String} (h : build before source = (.ok m, after)) :
    ∃ f, Formula.ofText source = .ok f ∧ m.Describes after f := by
  rw [build, FeatureSpace.encode] at h
  cases hnormal : Formula.normalize source with
  | error e =>
    rw [hnormal] at h
    cases h
  | ok normal =>
    simp only [hnormal] at h
    cases hf : Formula.parse normal with
    | error reason =>
      simp only [hf] at h
      cases h
    | ok f =>
      simp only [hf] at h
      cases h
      refine ⟨f, by simp only [Formula.ofText, hnormal, hf], rfl, Formula.mem_features_of_parse hf, ?_, ?_⟩
      · exact fun n hn => FeatureSpace.mem_declare hn
      · exact FeatureSpace.nodup_distinct _ _

/-- The region depends on the features named only. -/
lemma mem_levels (h : m.Describes space f) {i : Nat} (hi : m.region.dependsOn i = true) :
    i ∈ m.features.map space.level := by
  rw [h.region] at hi
  obtain ⟨n, hn, rfl⟩ := Formula.exists_name_of_dependsOn hi
  exact List.mem_map_of_mem (h.names n hn)

/-- The diagram depends on the features named only. -/
lemma mem_features (h : m.Describes space f) {name : String} (hname : name ∈ m.diagram.support space) :
    name ∈ m.features := by
  obtain ⟨⟨n, i⟩, hi, rfl⟩ := List.mem_map.1 hname
  obtain ⟨hmem, hany⟩ := List.mem_filter.1 hi
  obtain ⟨e, he, hdepends⟩ := List.any_eq_true.1 hany
  have hentry : e.2 = m.region := by
    rw [h.region]
    rw [h.diagram] at he
    simp only [Diagram.ofRegion] at he
    split at he
    · cases he
    · rw [List.mem_singleton.1 he]
  rw [hentry] at hdepends
  obtain ⟨n', hn', hlevel⟩ := List.mem_map.1 (h.mem_levels hdepends)
  have hget : space.features[i]? = some n := List.mem_zipIdx_iff_getElem?.1 hmem
  rw [← hlevel, FeatureSpace.level, List.getElem?_idxOf (h.declared n' hn')] at hget
  rw [← Option.some.inj hget]
  exact hn'

/-- A product is valid exactly if the formula holds for its features. -/
lemma holds_product (h : m.Describes space f) (x : String → Bool) :
    m.region.holds (space.product x) = f.holds x := by
  rw [h.region]
  exact FeatureSpace.holds_region_product (.refl space) (fun n hn => h.declared n (h.names n hn)) x

/-- A product is valid if the formula holds. -/
lemma isValid_iff (h : m.Describes space f) (x : String → Bool) : m.isValid space x = true ↔ f.holds x = true := by
  rw [isValid, Diagram.evaluate, h.diagram, Diagram.valueAt_ofRegion, ← h.region, h.holds_product, beq_iff_eq]
  split
  · exact iff_of_true rfl ‹_›
  · exact iff_of_false Binary64.one_ne_zero.symm ‹_›

/-- The products listed are the choices among the features named for which the formula holds. -/
lemma mem_products_iff (h : m.Describes space f) {bits : List Bool} :
    bits ∈ m.products space ↔ ∃ x, f.holds x = true ∧ m.features.map x = bits := by
  have hlevels := FeatureSpace.nodup_map_level h.nodup h.declared
  rw [products, Region.mem_products hlevels fun i hi => h.mem_levels hi]
  constructor
  · rintro ⟨y, hy, rfl⟩
    rw [h.region, Formula.holds_region] at hy
    exact ⟨_, hy, List.map_map.symm⟩
  · rintro ⟨x, hx, rfl⟩
    refine ⟨space.product x, by rw [h.holds_product, hx], ?_⟩
    rw [List.map_map]
    exact List.map_congr_left fun n hn => FeatureSpace.product_level (h.declared n hn) x

/-- Whether the formula holds is seen from the features named. -/
lemma holds_iff_mem (h : m.Describes space f) (x : String → Bool) :
    f.holds x = true ↔ m.features.map x ∈ m.products space := by
  rw [h.mem_products_iff]
  constructor
  · exact fun hx => ⟨x, hx, rfl⟩
  · rintro ⟨y, hy, hmap⟩
    rw [← hy]
    exact Formula.holds_congr fun n hn => (List.map_inj_left.1 hmap n (h.names n hn)).symm

end Describes

/-- The feature model of a text names every feature once, and its diagram depends on none but these. Whatever
was declared before and is declared later, the products listed are the choices among these features for which
the formula holds, each once; as many are counted; and a choice of any features is valid exactly if the
product that it makes of these features is listed. -/
theorem products_of_build {before after later : FeatureSpace} {source : String}
    (h : build before source = (.ok m, after)) (hlater : after.Extends later) :
    (m.features.Nodup ∧ ∀ name ∈ m.diagram.support later, name ∈ m.features) ∧
    ∃ f, Formula.ofText source = .ok f ∧ (m.products later).Nodup ∧
      (∀ bits, bits ∈ m.products later ↔ ∃ x, f.holds x = true ∧ m.features.map x = bits) ∧
      m.count later = (m.products later).length ∧
      ∀ x, m.isValid later x = true ↔ m.features.map x ∈ m.products later := by
  obtain ⟨f, hf, hafter⟩ := Describes.of_build h
  have hdescribes := hafter.mono hlater
  refine ⟨⟨hdescribes.nodup, fun name => hdescribes.mem_features⟩, f, hf, Region.nodup_products _ _,
    fun bits => hdescribes.mem_products_iff, (Region.length_products _ _).symm, fun x => ?_⟩
  rw [hdescribes.isValid_iff, hdescribes.holds_iff_mem]

/-- The theorem applies, for example, to a model that names a feature on which it does not depend, in a space with
one more feature before and one more after. -/
theorem products_of_build_independent : ∃ m after,
    build ⟨⟨0, none⟩, ["c"]⟩ "a & (b | !b)" = (.ok m, after) ∧
      m.diagram.support (after.declare ["d"]) = ["a"] ∧ m.count (after.declare ["d"]) = 2 ∧
      ∀ x, m.isValid (after.declare ["d"]) x = true ↔
        m.features.map x ∈ [[true, false], [true, true]] := by
  have hbuild : build ⟨⟨0, none⟩, ["c"]⟩ "a & (b | !b)" = (.ok ⟨"a & (b | !b)", .ofRegion ⟨0, none⟩ (.feature 1),
      ["a", "b"]⟩, ⟨⟨0, none⟩, ["c", "a", "b"]⟩) := by decide +kernel
  obtain ⟨_, _, _, _, _, hcount, hvalid⟩ := products_of_build hbuild (FeatureSpace.declare_extends_self _ ["d"])
  have hproducts : products ⟨"a & (b | !b)", .ofRegion ⟨0, none⟩ (.feature 1), ["a", "b"]⟩
      (FeatureSpace.declare ⟨⟨0, none⟩, ["c", "a", "b"]⟩ ["d"]) = [[true, false], [true, true]] := by decide +kernel
  rw [hproducts] at hcount hvalid
  exact ⟨_, _, hbuild, by decide +kernel, hcount, hvalid⟩

end FeatureModel

end ProductLine
