import Mathlib.Logic.Function.Basic
import Mathlib.Tactic.Common
import ProductLine.Proofs.Diagram.Canonical
import ProductLine.Proofs.Region.Restriction

/-!
# What a diagram tells about its function

A diagram stores regions of nonzero values only, and yet what is read off them is said of the function: which
values it takes (`Canonical.mem_terminals`, `Canonical.pairwise_terminals`), whether these are one value or
truth values (`Canonical.isConstant_iff`, `Canonical.isBoolean_iff`), and which features it depends on
(`Canonical.mem_support`). For the features it matters that a stored number has one region, so that the value
changes where membership in it does.
-/

namespace ProductLine

namespace FeatureSpace

variable {space : FeatureSpace} {name : String}

/-- To give or take a declared feature is to change the product at the level of the feature. -/
lemma product_update (hspace : space.features.Nodup) (hname : name ∈ space.features) (x : String → Bool)
    (answer : Bool) : space.product (Function.update x name answer) =
      Function.update (space.product x) (space.level name) answer := by
  funext level
  by_cases hlevel : level = space.level name
  · rw [hlevel, Function.update_self, product_level hname, Function.update_self]
  · rw [Function.update_of_ne hlevel, product, product]
    cases hget : space.features[level]? with
    | none => rfl
    | some other =>
      have hother : other ≠ name := by
        rintro rfl
        obtain ⟨hlt, rfl⟩ := List.getElem?_eq_some_iff.1 hget
        exact hlevel (hspace.idxOf_getElem level hlt).symm
      exact Function.update_of_ne hother _ _

end FeatureSpace

namespace Diagram

variable {space : FeatureSpace} {d : Diagram}

/-! Values -/

/-- No region of a cover is empty. -/
lemma ne_empty_of_mem_cover (hd : d.WellFormed) {e : Entry} (he : e ∈ d.cover) : e.2 ≠ .empty := by
  rcases List.mem_append.1 he with he | he
  · exact hd.inhabited e he
  · split at he
    · cases he
    · obtain rfl := List.mem_singleton.1 he
      assumption

/-- The values listed are those of the cover. -/
lemma mem_terminals_iff_cover {v : Binary64} : v ∈ d.terminals ↔ v ∈ d.cover.map Prod.fst :=
  ((arrange_perm d.cover).map Prod.fst).mem_iff

/-- The values taken are the values at products. -/
lemma mem_terminals_iff (h : d.WellFormed) {v : Binary64} : v ∈ d.terminals ↔ ∃ y, d.valueAt y = v := by
  rw [mem_terminals_iff_cover, List.mem_map]
  constructor
  · rintro ⟨e, he, rfl⟩
    obtain ⟨y, hy⟩ := Region.exists_holds (ne_empty_of_mem_cover h he)
    exact ⟨y, (takes_cover h).1 ⟨e.2, he, hy⟩⟩
  · rintro ⟨y, rfl⟩
    obtain ⟨r, hr, _⟩ := (takes_cover h).2 (rfl : d.valueAt y = d.valueAt y)
    exact ⟨(d.valueAt y, r), hr, rfl⟩

/-! Features -/

/-- The support has the declared features on whose levels a stored region depends. -/
lemma mem_support_iff_level {name : String} : name ∈ d.support space ↔
    ∃ level, space.features[level]? = some name ∧ ∃ e ∈ d.regions, e.2.dependsOn level = true := by
  simp only [support, List.mem_map, List.mem_filter, List.any_eq_true, Prod.exists, List.mem_zipIdx_iff_getElem?]
  constructor
  · rintro ⟨_, level, ⟨hget, hdepends⟩, rfl⟩
    exact ⟨level, hget, hdepends⟩
  · rintro ⟨level, hget, hdepends⟩
    exact ⟨name, level, ⟨hget, hdepends⟩, rfl⟩

namespace Canonical

/-- A diagram takes the values that it has at products of the declared features. -/
lemma mem_terminals (h : d.Canonical space) (hspace : space.features.Nodup) {v : Binary64} :
    v ∈ d.terminals ↔ ∃ x, d.evaluate space x = v := by
  rw [mem_terminals_iff h.wellFormed]
  constructor
  · rintro ⟨y, rfl⟩
    obtain ⟨x, hx⟩ := FeatureSpace.exists_product hspace y
    exact ⟨x, h.valueAt_congr hx⟩
  · rintro ⟨x, rfl⟩
    exact ⟨space.product x, rfl⟩

/-- Each value stands at one place. -/
lemma nodup_cover (h : d.Canonical space) (hnan : d.hasNaN = false) : (d.cover.map Prod.fst).Nodup := by
  rw [cover, List.map_append]
  refine List.nodup_append.2 ⟨h.nodup hnan, ?_, ?_⟩
  · split
    · exact List.nodup_nil
    · exact List.nodup_singleton _
  · rintro v hv w hw rfl
    obtain ⟨e, he, rfl⟩ := List.mem_map.1 hv
    split at hw
    · cases hw
    · exact h.wellFormed.nonzero e he (by simpa using hw)

/-- No value is listed twice. -/
lemma nodup_terminals (h : d.Canonical space) (hnan : d.hasNaN = false) : d.terminals.Nodup :=
  ((arrange_perm d.cover).map Prod.fst).nodup_iff.2 (h.nodup_cover hnan)

/-- The values taken ascend strictly, zero in its place among them. -/
theorem pairwise_terminals (h : d.Canonical space) (hnan : d.hasNaN = false) :
    d.terminals.Pairwise fun u v => Binary64.lt u v = true := by
  have hnumber : ∀ v ∈ d.terminals, v.isNaN = false := by
    intro v hv
    obtain ⟨y, rfl⟩ := (mem_terminals_iff h.wellFormed).1 hv
    exact isNaN_valueAt hnan y
  have hsorted : d.terminals.Pairwise fun u v => u.position ≤ v.position := by
    apply List.pairwise_map.2
    apply pairwise_arrange
    intro e he
    exact hnumber e.1 (mem_terminals_iff_cover.2 (List.mem_map_of_mem he))
  -- different numbers stand at different positions
  refine (hsorted.and (h.nodup_terminals hnan)).imp_of_mem ?_
  rintro u v hu hv ⟨hle, hne⟩
  have hposition : u.position ≠ v.position := fun heq =>
    hne (Binary64.position_inj (hnumber u hu) (hnumber v hv) heq)
  rw [Binary64.lt_eq (hnumber u hu) (hnumber v hv)]
  apply decide_eq_true
  omega

/-- A diagram is constant if one value is taken everywhere. -/
theorem isConstant_iff (h : d.Canonical space) (hspace : space.features.Nodup) (hnan : d.hasNaN = false) :
    d.isConstant = true ↔ ∃ v, ∀ x, d.evaluate space x = v := by
  rw [isConstant, beq_iff_eq, List.length_eq_one_iff]
  apply exists_congr
  intro v
  constructor
  · intro hterminals x
    have hmem : d.evaluate space x ∈ d.terminals := (h.mem_terminals hspace).2 ⟨x, rfl⟩
    rw [hterminals] at hmem
    exact List.mem_singleton.1 hmem
  · intro hvalue
    have hmem : ∀ u, u ∈ d.terminals ↔ u ∈ [v] := by
      intro u
      rw [h.mem_terminals hspace, List.mem_singleton]
      constructor
      · rintro ⟨x, rfl⟩
        exact hvalue x
      · rintro rfl
        exact ⟨fun _ => false, hvalue _⟩
    apply List.perm_singleton.1
    exact (List.perm_ext_iff_of_nodup (h.nodup_terminals hnan) (List.nodup_singleton v)).2 hmem

/-- A diagram is boolean if no value other than zero and one is taken. -/
theorem isBoolean_iff (h : d.Canonical space) (hspace : space.features.Nodup) :
    d.isBoolean = true ↔ ∀ x, d.evaluate space x = .zero ∨ d.evaluate space x = .one := by
  simp only [isBoolean, List.all_eq_true, beq_iff_eq]
  constructor
  · intro hone x
    rcases takes_valueAt_or d (space.product x) with ⟨r, hr, _⟩ | ⟨hzero, _⟩
    · exact .inr (hone _ hr)
    · exact .inl hzero
  · intro hvalue e he
    obtain ⟨y, hy⟩ := Region.exists_holds (h.wellFormed.inhabited e he)
    obtain ⟨hne, hy⟩ := h.wellFormed.takes_iff.1 ⟨e.2, he, hy⟩
    obtain ⟨x, hx⟩ := FeatureSpace.exists_product hspace y
    have hx : d.evaluate space x = e.1 := (h.valueAt_congr hx).trans hy
    rw [← hx]
    exact (hvalue x).resolve_left (hx ▸ hne)

/-- The value at a product is decided by the features of the support. -/
theorem evaluate_congr (h : d.Canonical space) {x y : String → Bool}
    (hxy : ∀ name ∈ d.support space, x name = y name) : d.evaluate space x = d.evaluate space y := by
  have hholds : ∀ e ∈ d.regions, e.2.holds (space.product x) = e.2.holds (space.product y) := by
    intro e he
    apply Region.holds_congr_of_dependsOn
    intro level hdepends
    have hlevel := (h.within e he).lt_of_dependsOn hdepends
    have hget : space.features[level]? = some space.features[level] := List.getElem?_eq_getElem hlevel
    have hname : space.features[level] ∈ d.support space := mem_support_iff_level.2 ⟨level, hget, e, he, hdepends⟩
    rw [FeatureSpace.product, FeatureSpace.product, hget]
    exact hxy _ hname
  rw [evaluate, evaluate, valueAt, valueAt, List.find?_congr hholds]

/-- A feature is in the support exactly if giving or taking it alone changes the value of some product. -/
theorem mem_support (h : d.Canonical space) (hspace : space.features.Nodup) (hnan : d.hasNaN = false)
    {name : String} : name ∈ d.support space ↔
      ∃ x y, (∀ other, other ≠ name → x other = y other) ∧ d.evaluate space x ≠ d.evaluate space y := by
  constructor
  · intro hname
    obtain ⟨level, hget, e, he, hdepends⟩ := mem_support_iff_level.1 hname
    obtain ⟨z, hz⟩ := Region.dependsOn_iff.1 hdepends
    obtain ⟨x, hx⟩ := FeatureSpace.exists_product hspace z
    have hmem : name ∈ space.features := List.mem_of_getElem? hget
    have hlevel : space.level name = level := by
      obtain ⟨hlt, rfl⟩ := List.getElem?_eq_some_iff.1 hget
      exact hspace.idxOf_getElem level hlt
    have hvalue (answer : Bool) : d.evaluate space (Function.update x name answer) =
        d.valueAt (Function.update z level answer) := by
      rw [evaluate, FeatureSpace.product_update hspace hmem, hlevel]
      apply h.valueAt_congr
      intro m hm
      rw [Function.update_apply, Function.update_apply, hx m hm]
    refine ⟨Function.update x name false, Function.update x name true, fun other hother => ?_, ?_⟩
    · rw [Function.update_of_ne hother, Function.update_of_ne hother]
    · rw [hvalue, hvalue]
      intro heq
      -- a number is stored for one region, so where the value is the same membership is
      apply hz
      rw [Bool.eq_iff_iff, h.holds_iff hnan he, h.holds_iff hnan he, heq]
  · rintro ⟨x, y, hxy, hne⟩
    by_contra hname
    apply hne
    apply h.evaluate_congr
    intro other hother
    exact hxy other fun heq => hname (heq ▸ hother)

end Canonical

end Diagram

end ProductLine
