import Mathlib.Data.List.Forall2
import Mathlib.Tactic.Common
import ProductLine.Proofs.Diagram.WellFormed

/-!
# Arithmetic at a product

Every operation makes a well-formed diagram out of well-formed ones, and its value at a product is the rounded
result of the operation on the values there: `valueAt_constant`, `valueAt_ofRegion`, `valueAt_neg`,
`valueAt_mul` and `valueAt_apply`. A product is zero wherever a factor is, whatever the other one
(`Owner.product`).
-/

namespace ProductLine

/-- The product of two numbers as it is kept by an owner: zero if a factor is. -/
def Owner.product (owner : Owner) (a b : Binary64) : Binary64 :=
  if a = .zero ∨ b = .zero then .zero else owner.normalize (a * b)

/-- Every owner keeps zero. -/
@[simp] lemma Owner.normalize_zero (owner : Owner) : owner.normalize .zero = .zero :=
  Binary64.normalize_zero owner.places

/-- Every owner keeps one. -/
@[simp] lemma Owner.normalize_one (owner : Owner) : owner.normalize .one = .one :=
  Binary64.normalize_one owner.places

/-- What an owner has rounded it keeps. -/
lemma Owner.normalize_normalize (owner : Owner) (x : Binary64) :
    owner.normalize (owner.normalize x) = owner.normalize x :=
  Binary64.normalize_normalize owner.places x

/-- An owner rounds negations as it rounds numbers. -/
lemma Owner.normalize_neg (owner : Owner) (x : Binary64) : owner.normalize (-x) = -owner.normalize x :=
  Binary64.normalize_neg owner.places x

/-- The product of one and one is one for every owner. -/
@[simp] lemma Owner.product_one (owner : Owner) : owner.product .one .one = .one := by
  have hone : Binary64.one * Binary64.one = .one := by decide +kernel
  rw [product, if_neg (by simp [Binary64.one_ne_zero]), hone, normalize_one]

/-- The product of zero and any number is zero for every owner. -/
@[simp] lemma Owner.zero_product (owner : Owner) (x : Binary64) : owner.product .zero x = .zero := by
  simp [product]

/-- The product of any number and zero is zero for every owner. -/
@[simp] lemma Owner.product_zero (owner : Owner) (x : Binary64) : owner.product x .zero = .zero := by
  simp [product]

namespace Diagram

/-! Constants, regions and signs -/

/-- A diagram with nothing stored is well formed. -/
lemma wellFormed_nil (owner : Owner) : (⟨owner, []⟩ : Diagram).WellFormed where
  nonzero := by simp
  normal := by simp
  inhabited := by simp
  apart := .nil

/-- A diagram with one rounded value on one region is well formed. -/
lemma wellFormed_singleton {owner : Owner} {v : Binary64} {r : Region} (hzero : v ≠ .zero)
    (hnormal : owner.normalize v = v) (hr : r ≠ .empty) : (⟨owner, [(v, r)]⟩ : Diagram).WellFormed where
  nonzero := by simpa using hzero
  normal := by simpa using hnormal
  inhabited := by simpa using hr
  apart := List.pairwise_singleton _ _

/-- Constant diagrams are well-formed. -/
lemma wellFormed_constant (owner : Owner) (v : Binary64) : (constant owner v).WellFormed := by
  simp only [constant]
  split
  · exact wellFormed_nil owner
  · exact wellFormed_singleton ‹_› (owner.normalize_normalize v)
      (Region.ne_empty_of_holds (Region.holds_full fun _ => false))

/-- A constant diagram has its rounded number at every product. -/
lemma valueAt_constant (owner : Owner) (v : Binary64) (x : Nat → Bool) :
    (constant owner v).valueAt x = owner.normalize v := by
  by_cases h : owner.normalize v = .zero
  · simp [constant, h, valueAt]
  · simp [constant, h, valueAt]

/-- The diagram of a region is well-formed. -/
lemma wellFormed_ofRegion (owner : Owner) (r : Region) : (ofRegion owner r).WellFormed := by
  simp only [ofRegion]
  split
  · exact wellFormed_nil owner
  · exact wellFormed_singleton Binary64.one_ne_zero owner.normalize_one ‹_›

/-- The diagram of a region is one in it and zero elsewhere. -/
lemma valueAt_ofRegion (owner : Owner) (r : Region) (x : Nat → Bool) :
    (ofRegion owner r).valueAt x = if r.holds x then .one else .zero := by
  by_cases h : r = .empty
  · simp [ofRegion, h, valueAt]
  · cases hx : r.holds x with
    | false => simp [ofRegion, h, valueAt, hx]
    | true => simp [ofRegion, h, valueAt, hx]

/-- A negation takes the rounded negations of the values taken. -/
lemma takes_neg {d : Diagram} {x : Nat → Bool} {u : Binary64} :
    Takes d.neg.regions x u ↔ ∃ v, Takes d.regions x v ∧ d.owner.normalize (-v) = u := by
  rw [neg, Takes.perm (arrange_perm _)]
  constructor
  · rintro ⟨r, hr, hx⟩
    obtain ⟨⟨v, s⟩, hs, heq⟩ := List.mem_map.1 hr
    cases heq
    exact ⟨v, ⟨r, hs, hx⟩, rfl⟩
  · rintro ⟨v, ⟨r, hr, hx⟩, rfl⟩
    exact ⟨r, List.mem_map.2 ⟨(v, r), hr, rfl⟩, hx⟩

/-- The negative of a stored value is the one with the other sign. -/
lemma WellFormed.normalize_neg {d : Diagram} (h : d.WellFormed) {e : Entry} (he : e ∈ d.regions) :
    d.owner.normalize (-e.1) = -e.1 := by
  rw [Owner.normalize_neg, h.normal e he]

/-- The negation of a well-formed diagram is well-formed. -/
lemma wellFormed_neg {d : Diagram} (h : d.WellFormed) : d.neg.WellFormed := by
  have hmem : ∀ e ∈ d.neg.regions, ∃ f ∈ d.regions, e = (d.owner.normalize (-f.1), f.2) := by
    intro e he
    obtain ⟨f, hf, rfl⟩ := List.mem_map.1 ((arrange_perm _).mem_iff.1 he)
    exact ⟨f, hf, rfl⟩
  refine ⟨?_, ?_, ?_, ?_⟩
  · intro e he
    obtain ⟨f, hf, rfl⟩ := hmem e he
    rw [h.normalize_neg hf, Ne, Binary64.neg_eq_zero]
    exact h.nonzero f hf
  · intro e he
    obtain ⟨f, hf, rfl⟩ := hmem e he
    exact d.owner.normalize_normalize _
  · intro e he
    obtain ⟨f, hf, rfl⟩ := hmem e he
    exact h.inhabited f hf
  · refine ((arrange_perm _).pairwise_iff Apart.symm).2 (List.pairwise_map.2 ?_)
    refine h.apart.imp_of_mem fun {e f} he hf hef => ⟨hef.1, ?_⟩
    -- stored values are rounded already, so two that have one negative are the same
    intro (hvalue : d.owner.normalize (-e.1) = d.owner.normalize (-f.1))
    show (d.owner.normalize (-e.1)).isNaN = true
    rw [h.normalize_neg he, h.normalize_neg hf] at hvalue
    have hsame : e.1 = f.1 := by rw [← Binary64.neg_neg e.1, hvalue, Binary64.neg_neg]
    rw [h.normalize_neg he, Binary64.isNaN_neg]
    exact hef.2 hsame

/-- A negation has the rounded negation of the value at every product. -/
lemma valueAt_neg {d : Diagram} (h : d.WellFormed) (x : Nat → Bool) :
    d.neg.valueAt x = d.owner.normalize (-d.valueAt x) := by
  refine valueAt_eq fun w => ?_
  rw [takes_neg]
  constructor
  · rintro ⟨v, hv, rfl⟩
    obtain ⟨hne, hvalue⟩ := h.takes_iff.1 hv
    obtain ⟨r, hr, _⟩ := hv
    refine ⟨?_, by rw [hvalue]⟩
    rw [h.normalize_neg hr, Ne, Binary64.neg_eq_zero]
    exact hne
  · rintro ⟨hw, rfl⟩
    refine ⟨d.valueAt x, h.takes_iff.2 ⟨fun hzero => hw ?_, rfl⟩, rfl⟩
    rw [hzero, Binary64.neg_zero, Owner.normalize_zero]

/-! Products -/

/-- The regions of overlaps are disjoint if the regions on either side are. -/
lemma pairwise_overlaps {es fs : List Entry} (hes : es.Pairwise fun e f => e.2.Disjoint f.2)
    (hfs : fs.Pairwise fun e f => e.2.Disjoint f.2) :
    (overlaps es fs).Pairwise fun p q => p.2.2.Disjoint q.2.2 := by
  refine List.pairwise_flatMap.2 ⟨?_, ?_⟩
  · rintro ⟨v, r⟩ _
    refine List.pairwise_filterMap.2 (hfs.imp fun {e f} hef p hp q hq => ?_)
    simp only at hp hq
    split at hp
    · cases hp
    · split at hq
      · cases hq
      · cases hp
        cases hq
        exact hef.inter_right r r
  · refine hes.imp fun {e f} hef p hp q hq => ?_
    obtain ⟨⟨w, s⟩, _, hp⟩ := List.mem_filterMap.1 hp
    obtain ⟨⟨w', s'⟩, _, hq⟩ := List.mem_filterMap.1 hq
    simp only at hp hq
    split at hp
    · cases hp
    · split at hq
      · cases hq
      · cases hp
        cases hq
        exact hef.inter_left s s'

/-- The regions of a well-formed diagram are disjoint. -/
lemma WellFormed.disjoint {d : Diagram} (h : d.WellFormed) : d.regions.Pairwise fun e f => e.2.Disjoint f.2 :=
  h.apart.imp fun hef => hef.1

/-- The product of well-formed diagrams is well-formed. -/
lemma wellFormed_mul {a b : Diagram} (ha : a.WellFormed) (hb : b.WellFormed) : (a.mul b).WellFormed := by
  refine wellFormed_ofEntries ?_ ?_ (List.pairwise_map.2 (pairwise_overlaps ha.disjoint hb.disjoint))
  · intro e he
    obtain ⟨⟨v, w, r⟩, _, rfl⟩ := List.mem_map.1 he
    exact a.owner.normalize_normalize (v * w)
  · intro e he
    obtain ⟨⟨v, w, r⟩, hp, rfl⟩ := List.mem_map.1 he
    obtain ⟨_, _, _, _, _, hne⟩ := mem_overlaps.1 hp
    exact hne

/-- A product takes the rounded products of what both factors take. -/
lemma takes_mul {a b : Diagram} {x : Nat → Bool} {u : Binary64} :
    Takes (a.mul b).regions x u ↔
      u ≠ .zero ∧ ∃ v w, (Takes a.regions x v ∧ Takes b.regions x w) ∧ a.owner.normalize (v * w) = u := by
  rw [mul, takes_ofEntries]
  refine and_congr_right fun _ => ?_
  simp only [← takes_overlaps]
  constructor
  · rintro ⟨r, hr, hx⟩
    obtain ⟨⟨v, w, s⟩, hs, heq⟩ := List.mem_map.1 hr
    cases heq
    exact ⟨v, w, ⟨s, hs, hx⟩, rfl⟩
  · rintro ⟨v, w, ⟨r, hr, hx⟩, rfl⟩
    exact ⟨r, List.mem_map.2 ⟨(v, w, r), hr, rfl⟩, hx⟩

/-- A product of diagrams has the product of their values at every product. -/
theorem valueAt_mul {a b : Diagram} (ha : a.WellFormed) (hb : b.WellFormed) (x : Nat → Bool) :
    (a.mul b).valueAt x = a.owner.product (a.valueAt x) (b.valueAt x) := by
  refine valueAt_eq fun u => ?_
  rw [takes_mul]
  refine and_congr_right fun hu => ?_
  simp only [ha.takes_iff, hb.takes_iff, Owner.product]
  constructor
  · rintro ⟨v, w, ⟨⟨hv, rfl⟩, ⟨hw, rfl⟩⟩, rfl⟩
    rw [if_neg (by simp [hv, hw])]
  · intro hprod
    split at hprod
    · exact absurd hprod hu
    · rename_i hne
      rw [not_or] at hne
      exact ⟨_, _, ⟨⟨hne.1, rfl⟩, ⟨hne.2, rfl⟩⟩, hprod.symm⟩

/-- A product is zero wherever the first factor stores nothing, whatever the second factor is. -/
lemma valueAt_mul_of_not_takes {a b : Diagram} {x : Nat → Bool} (h : ∀ v, ¬ Takes a.regions x v) :
    (a.mul b).valueAt x = .zero := by
  refine valueAt_eq fun u => ?_
  rw [takes_mul]
  constructor
  · rintro ⟨_, v, _, ⟨hv, _⟩, _⟩
    exact absurd hv (h v)
  · rintro ⟨hu, hzero⟩
    exact absurd hzero hu

/-! Operations that meet zero -/

/-- The zero region is taken along exactly where no value is stored. -/
lemma takes_cover_iff {d : Diagram} {x : Nat → Bool} {v : Binary64} :
    Takes d.cover x v ↔ Takes d.regions x v ∨ (v = .zero ∧ ∀ w, ¬ Takes d.regions x w) := by
  have hzero : d.nonzero.compl.holds x = true ↔ ∀ w, ¬ Takes d.regions x w := by
    rw [Region.holds_compl, Bool.not_eq_true', ← Bool.not_eq_true, holds_nonzero, not_exists]
  rw [cover, takes_append]
  refine or_congr_right ?_
  split
  · rename_i hempty
    rw [hempty] at hzero
    simp only [not_takes_nil, false_iff, not_and]
    exact fun _ hnone => absurd (hzero.2 hnone) (by simp)
  · simp only [takes_cons, not_takes_nil, or_false, hzero, eq_comm]

/-- With its zero region a diagram takes its value at every product and no other. -/
lemma takes_cover {d : Diagram} (h : d.WellFormed) {x : Nat → Bool} {v : Binary64} :
    Takes d.cover x v ↔ d.valueAt x = v := by
  rw [takes_cover_iff]
  constructor
  · rintro (hv | ⟨hv, hnone⟩)
    · exact (h.takes_iff.1 hv).2
    · rcases takes_valueAt_or d x with htakes | ⟨hzero, _⟩
      · exact absurd htakes (hnone _)
      · rw [hzero, hv]
  · rintro rfl
    exact takes_valueAt_or d x

/-- The regions of a diagram are disjoint, that of the zeros included. -/
lemma disjoint_cover {d : Diagram} (h : d.WellFormed) : d.cover.Pairwise fun e f => e.2.Disjoint f.2 := by
  refine List.pairwise_append.2 ⟨h.disjoint, ?_, ?_⟩
  · split
    · exact .nil
    · exact List.pairwise_singleton _ _
  · intro e he f hf
    split at hf
    · cases hf
    · obtain rfl := List.mem_singleton.1 hf
      refine Region.disjoint_iff.2 fun x hx hzero => ?_
      have hnonzero := (holds_nonzero d x).2 ⟨e.1, e.2, he, hx⟩
      simp [hnonzero] at hzero

/-- A list of results is computed exactly if each of them is. -/
lemma mapM_eq_ok {α β : Type} {f : α → Except Error β} {xs : List α} {ys : List β} :
    xs.mapM f = .ok ys ↔ List.Forall₂ (fun x y => f x = .ok y) xs ys := by
  induction xs generalizing ys with
  | nil =>
    rw [List.mapM_nil, List.forall₂_nil_left_iff]
    exact ⟨fun h => (Except.ok.inj h).symm, fun h => congrArg _ h.symm⟩
  | cons x xs ih =>
    rw [List.mapM_cons, List.forall₂_cons_left_iff]
    cases hx : f x with
    | error e =>
      constructor
      · intro h
        cases h
      · rintro ⟨y, _, h, _⟩
        cases h
    | ok y =>
      cases hxs : xs.mapM f with
      | error e =>
        constructor
        · intro h
          cases h
        · rintro ⟨_, zs, _, h, _⟩
          rw [← ih, hxs] at h
          cases h
      | ok zs =>
        constructor
        · intro h
          exact ⟨y, zs, rfl, ih.1 hxs, (Except.ok.inj h).symm⟩
        · rintro ⟨_, zs', h, hzs, rfl⟩
          rw [← ih, hxs] at hzs
          cases h
          cases hzs
          rfl

/-- Whether an entry is the rounded result of an operation on a pair of values that meet. -/
def IsResult (owner : Owner) (op : Binary64 → Binary64 → Except Error Binary64)
    (p : Binary64 × Binary64 × Region) (e : Entry) : Prop :=
  ∃ u, op p.1 p.2.1 = .ok u ∧ e = (owner.normalize u, p.2.2)

/-- A combination that succeeds is made of the results on all overlaps. -/
lemma applyTo_eq_ok {owner : Owner} {op : Binary64 → Binary64 → Except Error Binary64}
    {pairs : List (Binary64 × Binary64 × Region)} {d : Diagram} (h : applyTo owner op pairs = .ok d) :
    ∃ es, List.Forall₂ (IsResult owner op) pairs es ∧ d = ofEntries owner es := by
  rw [applyTo] at h
  cases hes : pairs.mapM fun p => (op p.1 p.2.1).map fun u => (owner.normalize u, p.2.2) with
  | error e =>
    rw [hes] at h
    cases h
  | ok es =>
    rw [hes] at h
    refine ⟨es, (mapM_eq_ok.1 hes).imp fun p e hpe => ?_, (Except.ok.inj h).symm⟩
    cases hu : op p.1 p.2.1 with
    | error e' =>
      rw [hu] at hpe
      cases hpe
    | ok u =>
      rw [hu] at hpe
      exact ⟨u, hu, (Except.ok.inj hpe).symm⟩

/-- The results on overlaps stand on the same regions. -/
lemma map_snd_of_results {owner : Owner} {op : Binary64 → Binary64 → Except Error Binary64}
    {pairs : List (Binary64 × Binary64 × Region)} {es : List Entry}
    (h : List.Forall₂ (IsResult owner op) pairs es) : es.map Prod.snd = pairs.map fun p => p.2.2 := by
  induction h with
  | nil => rfl
  | cons hpe _ ih =>
    obtain ⟨u, _, rfl⟩ := hpe
    simp [ih]

/-- The results on overlaps are taken where the overlaps are. -/
lemma takes_results {owner : Owner} {op : Binary64 → Binary64 → Except Error Binary64}
    {pairs : List (Binary64 × Binary64 × Region)} {es : List Entry}
    (h : List.Forall₂ (IsResult owner op) pairs es) {x : Nat → Bool} {u' : Binary64} :
    Takes es x u' ↔ ∃ v w u, (∃ r, (v, w, r) ∈ pairs ∧ r.holds x = true) ∧
      op v w = .ok u ∧ owner.normalize u = u' := by
  induction h with
  | nil => simp
  | @cons p e pairs es hpe _ ih =>
    obtain ⟨u, hu, rfl⟩ := hpe
    obtain ⟨v, w, r⟩ := p
    rw [takes_cons, ih]
    constructor
    · rintro (⟨rfl, hx⟩ | ⟨v', w', u'', ⟨r', hr', hx⟩, hop, rfl⟩)
      · exact ⟨v, w, u, ⟨r, List.mem_cons_self, hx⟩, hu, rfl⟩
      · exact ⟨v', w', u'', ⟨r', List.mem_cons_of_mem _ hr', hx⟩, hop, rfl⟩
    · rintro ⟨v', w', u'', ⟨r', hr', hx⟩, hop, rfl⟩
      rcases List.mem_cons.1 hr' with heq | hr'
      · cases heq
        rw [hu] at hop
        cases hop
        exact .inl ⟨rfl, hx⟩
      · exact .inr ⟨v', w', u'', ⟨r', hr', hx⟩, hop, rfl⟩

/-- Everything on the one side of two related lists is related to something on the other. -/
lemma exists_of_forall₂ {α β : Type} {R : α → β → Prop} {xs : List α} {ys : List β} (h : List.Forall₂ R xs ys) :
    ∀ y ∈ ys, ∃ x ∈ xs, R x y := by
  induction h with
  | nil => simp
  | cons hxy _ ih =>
    intro y hy
    rcases List.mem_cons.1 hy with rfl | hy
    · exact ⟨_, List.mem_cons_self, hxy⟩
    · obtain ⟨x, hx, hxy⟩ := ih y hy
      exact ⟨x, List.mem_cons_of_mem _ hx, hxy⟩

/-- A combination of well-formed diagrams is well-formed. -/
lemma wellFormed_apply {op : Binary64 → Binary64 → Except Error Binary64} {a b d : Diagram} (ha : a.WellFormed)
    (hb : b.WellFormed) (h : apply op a b = .ok d) : d.WellFormed := by
  obtain ⟨es, hes, rfl⟩ := applyTo_eq_ok h
  refine wellFormed_ofEntries ?_ ?_ ?_
  · intro e he
    obtain ⟨p, _, u, _, rfl⟩ := exists_of_forall₂ hes e he
    exact a.owner.normalize_normalize u
  · intro e he
    obtain ⟨⟨v, w, r⟩, hp, u, _, rfl⟩ := exists_of_forall₂ hes e he
    obtain ⟨_, _, _, _, _, hne⟩ := mem_overlaps.1 hp
    exact hne
  · have hpairs : (overlaps a.cover b.cover).Pairwise fun p q => p.2.2.Disjoint q.2.2 :=
      pairwise_overlaps (disjoint_cover ha) (disjoint_cover hb)
    have hregions :=
      List.pairwise_map (f := fun p : Binary64 × Binary64 × Region => p.2.2) (R := Region.Disjoint).2 hpairs
    rw [← map_snd_of_results hes] at hregions
    exact List.pairwise_map.1 hregions

/-- A combination that succeeds has at every product the rounded result on the values there. -/
theorem valueAt_apply {op : Binary64 → Binary64 → Except Error Binary64} {a b d : Diagram} (ha : a.WellFormed)
    (hb : b.WellFormed) (h : apply op a b = .ok d) (x : Nat → Bool) :
    (op (a.valueAt x) (b.valueAt x)).map a.owner.normalize = .ok (d.valueAt x) := by
  obtain ⟨es, hes, rfl⟩ := applyTo_eq_ok h
  -- exactly the result on the two values is taken
  have htakes : ∀ {w}, Takes es x w ↔ ∃ u, op (a.valueAt x) (b.valueAt x) = .ok u ∧ a.owner.normalize u = w := by
    intro w
    simp only [takes_results hes, takes_overlaps, takes_cover ha, takes_cover hb]
    constructor
    · rintro ⟨_, _, u, ⟨rfl, rfl⟩, hu⟩
      exact ⟨u, hu⟩
    · rintro ⟨u, hu⟩
      exact ⟨_, _, u, ⟨rfl, rfl⟩, hu⟩
  obtain ⟨r, hr, _⟩ := takes_overlaps.2 ⟨(takes_cover ha).2 rfl, (takes_cover hb).2 rfl⟩
  obtain ⟨_, _, u, hu, _⟩ := exists_of_forall₂ hes.flip _ hr
  rw [hu]
  refine congrArg _ (Eq.symm (valueAt_eq fun w => ?_))
  rw [takes_ofEntries, htakes]
  simp [show op (a.valueAt x) (b.valueAt x) = .ok u from hu, eq_comm]

end Diagram

end ProductLine
