import Mathlib.Data.List.Forall2
import Mathlib.Data.List.Pairwise
import Mathlib.Tactic.Common
import ProductLine.Proofs.Binary64.Rounding
import ProductLine.Proofs.Diagram.Entries

/-!
# Well-formed diagrams

A diagram is well formed if it stores nonzero rounded values on disjoint regions that are not empty, each
value once unless it is no number. Then what it stores for a product is its value there
(`WellFormed.takes_iff`), and rounded values on disjoint regions make one (`wellFormed_ofEntries`).
-/

namespace ProductLine

/-- Whether no product lies in both regions. -/
def Region.Disjoint (r s : Region) : Prop := r.inter s = .empty

namespace Region

/-- Regions are disjoint exactly if no product is in both. -/
lemma disjoint_iff {r s : Region} : r.Disjoint s ↔ ∀ x, r.holds x = true → s.holds x = true → False := by
  rw [Disjoint]
  constructor
  · intro h x hr hs
    have hx := holds_inter r s x
    rw [h, hr, hs] at hx
    cases hx
  · intro h
    refine Region.ext fun x => ?_
    rw [holds_inter, holds_empty]
    cases hr : r.holds x with
    | false => rfl
    | true =>
      cases hs : s.holds x with
      | false => rfl
      | true => exact (h x hr hs).elim

/-- Where a region holds, no disjoint one does. -/
lemma Disjoint.holds_eq_false {r s : Region} (h : r.Disjoint s) {x : Nat → Bool} (hr : r.holds x = true) :
    s.holds x = false := by
  rw [← Bool.not_eq_true]
  exact disjoint_iff.1 h x hr

/-- Being disjoint does not depend on the order of the two regions. -/
lemma Disjoint.symm {r s : Region} (h : r.Disjoint s) : s.Disjoint r :=
  disjoint_iff.2 fun x hs hr => disjoint_iff.1 h x hr hs

/-- A union is disjoint from what both its parts are disjoint from. -/
lemma Disjoint.union_left {r s t : Region} (hr : r.Disjoint t) (hs : s.Disjoint t) : (r.union s).Disjoint t := by
  refine disjoint_iff.2 fun x hx ht => ?_
  rcases (by simpa using hx : r.holds x = true ∨ s.holds x = true) with hx | hx
  · exact disjoint_iff.1 hr x hx ht
  · exact disjoint_iff.1 hs x hx ht

/-- Intersections are disjoint if their left parts are. -/
lemma Disjoint.inter_left {r s : Region} (h : r.Disjoint s) (t u : Region) : (r.inter t).Disjoint (s.inter u) := by
  refine disjoint_iff.2 fun x hr hs => disjoint_iff.1 h x ?_ ?_
  · exact (by simpa using hr : r.holds x = true ∧ t.holds x = true).1
  · exact (by simpa using hs : s.holds x = true ∧ u.holds x = true).1

/-- Intersections are disjoint if their right parts are. -/
lemma Disjoint.inter_right {r s : Region} (h : r.Disjoint s) (t u : Region) : (t.inter r).Disjoint (u.inter s) := by
  refine disjoint_iff.2 fun x hr hs => disjoint_iff.1 h x ?_ ?_
  · exact (by simpa using hr : t.holds x = true ∧ r.holds x = true).2
  · exact (by simpa using hs : u.holds x = true ∧ s.holds x = true).2

/-- A region that is not empty holds some product. -/
lemma exists_holds {r : Region} (h : r ≠ .empty) : ∃ x, r.holds x = true := by
  by_contra hnone
  refine h (Region.ext fun x => ?_)
  rw [holds_empty, ← Bool.not_eq_true]
  exact fun hx => hnone ⟨x, hx⟩

/-- A region with a product is not empty. -/
lemma ne_empty_of_holds {r : Region} {x : Nat → Bool} (h : r.holds x = true) : r ≠ .empty := by
  intro hempty
  rw [hempty] at h
  cases h

end Region

namespace Diagram

/-- Whether two entries may stand in one diagram: no product lies in both regions, and the values differ
unless they are no number. -/
def Apart (e f : Entry) : Prop := e.2.Disjoint f.2 ∧ (e.1 = f.1 → e.1.isNaN = true)

/-- Being apart does not depend on the order of the two entries. -/
lemma Apart.symm {e f : Entry} (h : Apart e f) : Apart f e := ⟨h.1.symm, fun he => he ▸ h.2 he.symm⟩

/-- Being apart is a symmetric relation. -/
instance : Std.Symm Apart := ⟨fun _ _ => Apart.symm⟩

/-- What every diagram satisfies that was made by an operation. -/
structure WellFormed (d : Diagram) : Prop where
  nonzero : ∀ e ∈ d.regions, e.1 ≠ .zero
  normal : ∀ e ∈ d.regions, d.owner.normalize e.1 = e.1
  inhabited : ∀ e ∈ d.regions, e.2 ≠ .empty
  apart : d.regions.Pairwise Apart

/-- The value at a product is known from the values stored for it. -/
lemma valueAt_eq {d : Diagram} {x : Nat → Bool} {v : Binary64}
    (ht : ∀ w, Takes d.regions x w ↔ w ≠ .zero ∧ w = v) : d.valueAt x = v := by
  rcases takes_valueAt_or d x with htakes | ⟨hzero, hnone⟩
  · exact ((ht _).1 htakes).2
  · by_contra hne
    exact hnone v ((ht v).2 ⟨fun hv => hne (hzero.trans hv.symm), rfl⟩)

namespace WellFormed

variable {d : Diagram}

/-- A product has at most one stored value. -/
lemma takes_unique (h : d.WellFormed) {x : Nat → Bool} {v w : Binary64} (hv : Takes d.regions x v)
    (hw : Takes d.regions x w) : v = w := by
  obtain ⟨r, hr, hxr⟩ := hv
  obtain ⟨s, hs, hxs⟩ := hw
  by_contra hne
  have hentries : ((v, r) : Entry) ≠ (w, s) := fun heq => hne (congrArg Prod.fst heq)
  have hapart : Apart (v, r) (w, s) := h.apart.forall hr hs hentries
  exact Region.disjoint_iff.1 hapart.1 x hxr hxs

/-- The values stored for a product are the value there, unless it is zero. -/
lemma takes_iff (h : d.WellFormed) {x : Nat → Bool} {v : Binary64} :
    Takes d.regions x v ↔ v ≠ .zero ∧ d.valueAt x = v := by
  constructor
  · intro hv
    refine ⟨?_, ?_⟩
    · obtain ⟨r, hr, _⟩ := hv
      exact h.nonzero _ hr
    · rcases takes_valueAt_or d x with htakes | ⟨_, hnone⟩
      · exact h.takes_unique htakes hv
      · exact absurd hv (hnone v)
  · rintro ⟨hv, rfl⟩
    rcases takes_valueAt_or d x with htakes | ⟨hzero, _⟩
    · exact htakes
    · exact absurd hzero hv

/-- The value at a product is rounded. -/
lemma normalize_valueAt (h : d.WellFormed) (x : Nat → Bool) : d.owner.normalize (d.valueAt x) = d.valueAt x := by
  rcases takes_valueAt_or d x with ⟨r, hr, _⟩ | ⟨hzero, _⟩
  · exact h.normal _ hr
  · rw [hzero]
    exact Binary64.normalize_zero _

end WellFormed

/-! Diagrams made of entries -/

/-- What holds of the entries added, and of entries of one value with both regions, holds of those kept. -/
lemma forall_foldl_addEntry {P : Entry → Prop} (hunion : ∀ e f : Entry, P e → P f → P (e.1, e.2.union f.2))
    {es acc : List Entry} (hacc : ∀ e ∈ acc, P e) (hes : ∀ e ∈ es, e.1 ≠ .zero → P e) :
    ∀ e ∈ es.foldl addEntry acc, P e := by
  induction es generalizing acc with
  | nil => exact hacc
  | cons e es ih =>
    refine ih ?_ fun f hf => hes f (List.mem_cons_of_mem _ hf)
    intro f hf
    have he := hes e List.mem_cons_self
    rcases mem_addEntry hf with hf | ⟨hzero, rfl | ⟨g, hg, _, rfl⟩⟩
    · exact hacc f hf
    · exact he hzero
    · exact hunion g e (hacc g hg) (he hzero)

/-- An entry off the regions that are there is kept apart from the others. -/
lemma pairwise_addEntry {es : List Entry} {e : Entry} (hes : es.Pairwise Apart)
    (he : ∀ f ∈ es, f.2.Disjoint e.2) : (addEntry es e).Pairwise Apart := by
  rw [addEntry]
  split
  · exact hes
  · split
    · rename_i hthere
      have hnan : e.1.isNaN = false := by
        simp only [Bool.and_eq_true, Bool.not_eq_true'] at hthere
        exact hthere.1
      refine List.pairwise_map.2 (hes.imp_of_mem fun {f g} hf hg hfg => ?_)
      by_cases hfe : f.1 = e.1
      · -- both values cannot be that of the new entry, which is a number
        have hge : g.1 ≠ e.1 := by
          intro hge
          have := hfg.2 (hfe.trans hge.symm)
          rw [hfe, hnan] at this
          cases this
        rw [if_pos hfe, if_neg hge]
        exact ⟨hfg.1.union_left (he g hg).symm, hfg.2⟩
      · rw [if_neg hfe]
        split
        · exact ⟨(hfg.1.symm.union_left (he f hf).symm).symm, hfg.2⟩
        · exact hfg
    · rename_i hnot
      refine List.pairwise_append.2 ⟨hes, List.pairwise_singleton _ _, ?_⟩
      intro f hf g hg
      obtain rfl := List.mem_singleton.1 hg
      refine ⟨he f hf, fun hvalue => ?_⟩
      by_contra hnan
      refine hnot ?_
      rw [hvalue] at hnan
      simp only [Bool.and_eq_true, Bool.not_eq_true', List.any_eq_true, beq_iff_eq]
      exact ⟨by simpa using hnan, f, hf, hvalue⟩

/-- Adding entries with disjoint regions one by one keeps entries apart. -/
lemma pairwise_foldl_addEntry {es acc : List Entry} (hacc : acc.Pairwise Apart)
    (hes : es.Pairwise fun e f => e.2.Disjoint f.2) (hboth : ∀ e ∈ acc, ∀ f ∈ es, e.2.Disjoint f.2) :
    (es.foldl addEntry acc).Pairwise Apart := by
  induction es generalizing acc with
  | nil => exact hacc
  | cons e es ih =>
    obtain ⟨he, hes⟩ := List.pairwise_cons.1 hes
    refine ih (pairwise_addEntry hacc fun f hf => hboth f hf e List.mem_cons_self) hes ?_
    intro f hf g hg
    rcases mem_addEntry hf with hf | ⟨_, rfl | ⟨k, hk, _, rfl⟩⟩
    · exact hboth f hf g (List.mem_cons_of_mem _ hg)
    · exact he g hg
    · exact (hboth k hk g (List.mem_cons_of_mem _ hg)).union_left (he g hg)

/-- Rounded values on disjoint regions make a well-formed diagram. -/
theorem wellFormed_ofEntries {owner : Owner} {es : List Entry} (hnormal : ∀ e ∈ es, owner.normalize e.1 = e.1)
    (hinhabited : ∀ e ∈ es, e.2 ≠ .empty) (hdisjoint : es.Pairwise fun e f => e.2.Disjoint f.2) :
    (ofEntries owner es).WellFormed := by
  have hkept : ∀ e ∈ es.foldl addEntry [], e.1 ≠ .zero ∧ owner.normalize e.1 = e.1 ∧ e.2 ≠ .empty := by
    refine forall_foldl_addEntry ?_ (by simp) fun e he hzero => ⟨hzero, hnormal e he, hinhabited e he⟩
    rintro e f ⟨hzero, hnorm, hne⟩ _
    refine ⟨hzero, hnorm, ?_⟩
    obtain ⟨x, hx⟩ := Region.exists_holds hne
    exact Region.ne_empty_of_holds (x := x) (by simp [hx])
  have hmem : ∀ e ∈ (ofEntries owner es).regions, e ∈ es.foldl addEntry [] := fun e he =>
    (arrange_perm _).mem_iff.1 he
  exact
    { nonzero := fun e he => (hkept e (hmem e he)).1
      normal := fun e he => (hkept e (hmem e he)).2.1
      inhabited := fun e he => (hkept e (hmem e he)).2.2
      apart := ((arrange_perm _).pairwise_iff Apart.symm).2
        (pairwise_foldl_addEntry .nil hdisjoint (by simp)) }

end Diagram

end ProductLine
