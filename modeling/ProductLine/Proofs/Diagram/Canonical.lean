import Mathlib.Tactic.Common
import ProductLine.Proofs.Binary64.Order
import ProductLine.Proofs.Diagram.Decided
import ProductLine.Proofs.FeatureSpace

/-!
# Canonical diagrams

A diagram of a feature space is canonical if it is well formed, its regions speak about declared features only, and
its values ascend strictly, unless one is no number. Every operation on canonical diagrams makes one, and they stay
canonical when more features are declared (`Canonical.mono`). Canonical diagrams that take the same values at all
products are equal (`Canonical.ext`).
-/

namespace ProductLine

namespace Diagram

/-- Whether values of entries ascend strictly. -/
def Ascending (es : List Entry) : Prop := es.Pairwise fun e f => Binary64.lt e.1 f.1 = true

/-- What every diagram satisfies that was made in a feature space. -/
structure Canonical (space : FeatureSpace) (d : Diagram) : Prop where
  wellFormed : d.WellFormed
  owner : d.owner = space.owner
  within : ∀ e ∈ d.regions, e.2.Within space.features.length
  ascending : d.hasNaN = false → Ascending d.regions

/-- Every entry has a number if the diagram takes no value that is none. -/
lemma isNaN_of_hasNaN {d : Diagram} (h : d.hasNaN = false) {e : Entry} (he : e ∈ d.regions) :
    e.1.isNaN = false := by
  rw [← Bool.not_eq_true]
  exact List.any_eq_false.1 h e he

/-! Sorting -/

/-- Numbers are sorted by position. -/
lemma pairwise_arrange {es : List Entry} (hnan : ∀ e ∈ es, e.1.isNaN = false) :
    (arrange es).Pairwise fun e f => e.1.position ≤ f.1.position := by
  have hany : es.any (·.1.isNaN) = false := by
    apply List.any_eq_false.2
    intro e he
    simp [hnan e he]
  -- the comparison used is no total order on all values, so it is replaced by one that agrees with it on numbers
  have hsort : es.mergeSort Entry.le = es.mergeSort fun e f => decide (e.1.position ≤ f.1.position) := by
    have hmap := List.map_mergeSort (r := Entry.le) (s := fun e f => decide (e.1.position ≤ f.1.position))
      (f := fun e => e) (l := es) ?_
    · simpa using hmap
    · intro e he f hf
      rw [Entry.le, Binary64.lt_eq (hnan f hf) (hnan e he), ← decide_not]
      simp only [Int.not_lt]
  rw [arrange, if_neg (by simp [hany]), hsort]
  refine (List.pairwise_mergeSort ?_ ?_ es).imp fun h => of_decide_eq_true h
  · intro e f k hef hfk
    simp only [decide_eq_true_eq] at hef hfk ⊢
    exact Int.le_trans hef hfk
  · intro e f
    simp only [Bool.or_eq_true, decide_eq_true_eq]
    exact Int.le_total _ _

/-- The values of a well-formed diagram whose entries were sorted ascend strictly. -/
lemma ascending_arrange {owner : Owner} {es : List Entry} (h : (⟨owner, arrange es⟩ : Diagram).WellFormed)
    (hnan : (⟨owner, arrange es⟩ : Diagram).hasNaN = false) : Ascending (arrange es) := by
  have hmem : ∀ e ∈ arrange es, e.1.isNaN = false := fun e he => isNaN_of_hasNaN hnan he
  have hsorted := pairwise_arrange fun e he => hmem e ((arrange_perm es).mem_iff.2 he)
  refine (hsorted.and h.apart).imp_of_mem ?_
  rintro e f he hf ⟨hle, hapart⟩
  have hne : e.1.position ≠ f.1.position := by
    intro heq
    have hvalue := hapart.2 (Binary64.position_inj (hmem e he) (hmem f hf) heq)
    rw [hmem e he] at hvalue
    cases hvalue
  rw [Binary64.lt_eq (hmem e he) (hmem f hf)]
  apply decide_eq_true
  omega

/-! Declared features -/

/-- Where a diagram is not zero lies within the bound of its regions. -/
lemma within_nonzero {bound : Nat} {d : Diagram} (h : ∀ e ∈ d.regions, e.2.Within bound) : d.nonzero.Within bound :=
  Region.within_iff.2 (DecidedBy.nonzero h)

/-- The regions of a diagram, that of the zeros included, lie within the bound of those that are stored. -/
lemma within_cover {bound : Nat} {d : Diagram} (h : ∀ e ∈ d.regions, e.2.Within bound) :
    ∀ e ∈ d.cover, e.2.Within bound :=
  fun e he => Region.within_iff.2 (DecidedBy.cover h e he)

/-! Operations -/

namespace Canonical

variable {space later : FeatureSpace} {a b d : Diagram}

/-- Declaring more features leaves a diagram canonical. -/
lemma mono (h : d.Canonical space) (hlater : space.Extends later) : d.Canonical later where
  wellFormed := h.wellFormed
  owner := h.owner.trans hlater.owner.symm
  within e he := (h.within e he).mono hlater.length_le
  ascending := h.ascending

/-- Constant diagrams are canonical. -/
lemma constant (space : FeatureSpace) (v : Binary64) : (Diagram.constant space.owner v).Canonical space := by
  refine ⟨wellFormed_constant _ v, rfl, decidedBy_constant _ _ v, fun _ => ?_⟩
  simp only [Diagram.constant]
  split
  · exact .nil
  · exact List.pairwise_singleton _ _

/-- The diagram of a region that asks declared features only is canonical. -/
lemma ofRegion {r : Region} (h : r.Within space.features.length) :
    (Diagram.ofRegion space.owner r).Canonical space := by
  refine ⟨wellFormed_ofRegion _ r, rfl, decidedBy_ofRegion (Region.within_iff.1 h), fun _ => ?_⟩
  simp only [Diagram.ofRegion]
  split
  · exact .nil
  · exact List.pairwise_singleton _ _

/-- The negation of a canonical diagram is canonical. -/
lemma neg (h : d.Canonical space) : d.neg.Canonical space :=
  ⟨wellFormed_neg h.wellFormed, h.owner, DecidedBy.neg h.within, ascending_arrange (wellFormed_neg h.wellFormed)⟩

/-- The product of canonical diagrams is canonical. -/
lemma mul (ha : a.Canonical space) (hb : b.Canonical space) : (a.mul b).Canonical space := by
  have hwf := wellFormed_mul ha.wellFormed hb.wellFormed
  exact ⟨hwf, ha.owner, DecidedBy.mul ha.within hb.within, ascending_arrange hwf⟩

/-- A combination of canonical diagrams is canonical. -/
lemma apply {op : Binary64 → Binary64 → Except Error Binary64} (ha : a.Canonical space) (hb : b.Canonical space)
    (h : Diagram.apply op a b = .ok d) : d.Canonical space := by
  have hwf := wellFormed_apply ha.wellFormed hb.wellFormed h
  have hwithin := DecidedBy.apply ha.within hb.within h
  obtain ⟨es, hes, rfl⟩ := applyTo_eq_ok h
  exact ⟨hwf, ha.owner, hwithin, ascending_arrange hwf⟩

/-- What an operation makes of canonical diagrams is canonical. -/
lemma operate {op : Operation} (ha : a.Canonical space) (hb : b.Canonical space)
    (h : Diagram.operate op a b = .ok d) : d.Canonical space := by
  rcases operate_eq_ok h with ⟨_, rfl⟩ | ⟨_, h⟩
  · exact ha.mul hb
  · exact ha.apply hb h

/-! Values -/

/-- The value at a product is decided by the declared features. -/
lemma valueAt_congr (h : d.Canonical space) {x y : Nat → Bool}
    (hxy : ∀ level < space.features.length, x level = y level) : d.valueAt x = d.valueAt y :=
  DecidedBy.valueAt_congr h.within hxy

/-- A product has the same value whatever is declared later. -/
lemma evaluate_later (h : d.Canonical space) (hlater : space.Extends later) (x : String → Bool) :
    d.evaluate later x = d.evaluate space x :=
  h.valueAt_congr fun _ hlevel => hlater.product x hlevel

/-- Without features declared twice, the values at products are all values. -/
lemma valueAt_ext (hspace : space.features.Nodup) (ha : a.Canonical space) (hb : b.Canonical space)
    (h : ∀ x, a.evaluate space x = b.evaluate space x) (y : Nat → Bool) : a.valueAt y = b.valueAt y := by
  obtain ⟨x, hx⟩ := FeatureSpace.exists_product hspace y
  calc a.valueAt y = a.evaluate space x := (ha.valueAt_congr hx).symm
    _ = b.evaluate space x := h x
    _ = b.valueAt y := hb.valueAt_congr hx

/-- Without values that are no number, the value at every product is one. -/
lemma isNaN_valueAt (hnan : d.hasNaN = false) (y : Nat → Bool) : (d.valueAt y).isNaN = false := by
  rcases takes_valueAt_or d y with ⟨r, hr, _⟩ | ⟨hzero, _⟩
  · exact isNaN_of_hasNaN hnan hr
  · rw [hzero, Binary64.zero_eq]
    rfl

/-- A diagram whose value at every product is a number stores numbers only. -/
lemma hasNaN_eq_false (h : d.Canonical space) (hvalue : ∀ y, (d.valueAt y).isNaN = false) : d.hasNaN = false := by
  apply List.any_eq_false.2
  intro e he
  obtain ⟨y, hy⟩ := Region.exists_holds (h.wellFormed.inhabited e he)
  rw [← (h.wellFormed.takes_iff.1 ⟨e.2, he, hy⟩).2, hvalue y]
  exact Bool.false_ne_true

/-- The region of a number holds exactly where this number is the value. -/
lemma holds_iff (h : d.Canonical space) (hnan : d.hasNaN = false) {e : Entry} (he : e ∈ d.regions)
    (y : Nat → Bool) : e.2.holds y = true ↔ d.valueAt y = e.1 := by
  constructor
  · intro hy
    exact (h.wellFormed.takes_iff.1 ⟨e.2, he, hy⟩).2
  · intro hvalue
    obtain ⟨r, hr, hy⟩ := h.wellFormed.takes_iff.2 ⟨h.wellFormed.nonzero e he, hvalue⟩
    by_cases hsame : e = (e.1, r)
    · rw [hsame]
      exact hy
    · -- two entries of one value would be apart, which only values can be that are no number
      have hapart : Apart e (e.1, r) := h.wellFormed.apart.forall he hr hsame
      have hfalse := hapart.2 rfl
      rw [isNaN_of_hasNaN hnan he] at hfalse
      cases hfalse

/-- What a diagram stores, one with the same values stores too. -/
lemma mem_of_valueAt (ha : a.Canonical space) (hb : b.Canonical space) (hnana : a.hasNaN = false)
    (hnanb : b.hasNaN = false) (h : ∀ y, a.valueAt y = b.valueAt y) {e : Entry} (he : e ∈ a.regions) :
    e ∈ b.regions := by
  obtain ⟨y, hy⟩ := Region.exists_holds (ha.wellFormed.inhabited e he)
  have hvalue := (ha.holds_iff hnana he y).1 hy
  rw [h] at hvalue
  obtain ⟨s, hs, _⟩ := hb.wellFormed.takes_iff.2 ⟨ha.wellFormed.nonzero e he, hvalue⟩
  have hregion : e.2 = s := by
    apply Region.ext
    intro z
    rw [Bool.eq_iff_iff, ha.holds_iff hnana he z, h]
    exact (hb.holds_iff hnanb hs z).symm
  rw [show e = (e.1, s) from Prod.ext rfl hregion]
  exact hs

/-- A canonical diagram stores no value twice. -/
lemma nodup (h : d.Canonical space) (hnan : d.hasNaN = false) : (d.regions.map Prod.fst).Nodup := by
  apply List.pairwise_map.2
  refine (h.ascending hnan).imp_of_mem fun {e f} he hf hlt heq => ?_
  rw [heq, Binary64.lt_eq (isNaN_of_hasNaN hnan hf) (isNaN_of_hasNaN hnan hf)] at hlt
  simp at hlt

/-- Canonical diagrams without values that are no number are equal if they have the same value at every product. -/
theorem ext (hspace : space.features.Nodup) (ha : a.Canonical space) (hb : b.Canonical space)
    (hnana : a.hasNaN = false) (hnanb : b.hasNaN = false)
    (h : ∀ x, a.evaluate space x = b.evaluate space x) : a = b := by
  have hvalue := valueAt_ext hspace ha hb h
  have hmem : ∀ e, e ∈ a.regions ↔ e ∈ b.regions := fun e =>
    ⟨ha.mem_of_valueAt hb hnana hnanb hvalue, hb.mem_of_valueAt ha hnanb hnana fun y => (hvalue y).symm⟩
  -- they have the same entries, and the order of the values leaves one way to list these
  have hperm : a.regions.Perm b.regions :=
    (List.perm_ext_iff_of_nodup (ha.nodup hnana).of_map (hb.nodup hnanb).of_map).2 hmem
  have hregions : a.regions = b.regions := by
    refine hperm.eq_of_pairwise ?_ (ha.ascending hnana) (hb.ascending hnanb)
    intro e f he hf hef hfe
    rw [Binary64.lt_eq (isNaN_of_hasNaN hnana he) (isNaN_of_hasNaN hnanb hf)] at hef
    rw [Binary64.lt_eq (isNaN_of_hasNaN hnanb hf) (isNaN_of_hasNaN hnana he)] at hfe
    simp only [decide_eq_true_eq] at hef hfe
    omega
  obtain ⟨owner, regions⟩ := a
  obtain ⟨owner', regions'⟩ := b
  obtain rfl : owner = owner' := ha.owner.trans hb.owner.symm
  obtain rfl : regions = regions' := hregions
  rfl

end Canonical

end Diagram

end ProductLine
