import Mathlib.Tactic.Common
import ProductLine.Formula.Basic

/-!
# Levels that decide regions

Operations on regions whose membership is decided by some levels make regions that these levels decide
(`Region.DecidedBy`), and the region of a formula is decided by the levels of the features it names
(`Formula.decidedBy_region`). The regions of a feature space are decided by the levels below a bound, the number of
its features (`Region.Within`).
-/

namespace ProductLine

namespace Region

/-- Whether membership is decided by the features at some levels. -/
def DecidedBy (levels : Nat → Prop) (r : Region) : Prop :=
  ∀ x y : Nat → Bool, (∀ level, levels level → x level = y level) → r.holds x = r.holds y

section DecidedBy

variable {levels more : Nat → Prop} {r s : Region}

/-- Levels that decide a region do so together with more levels. -/
lemma DecidedBy.mono (h : r.DecidedBy levels) (hmore : ∀ level, levels level → more level) : r.DecidedBy more :=
  fun x y hxy => h x y fun level hlevel => hxy level (hmore level hlevel)

/-- The constant regions are decided by any levels. -/
lemma decidedBy_const (levels : Nat → Prop) (b : Bool) : (const b).DecidedBy levels := fun _ _ _ => rfl

/-- The region of a feature is decided by its level. -/
lemma decidedBy_feature {level : Nat} (h : levels level) : (feature level).DecidedBy levels := by
  intro x y hxy
  rw [holds_feature, holds_feature]
  exact hxy level h

/-- What decides a region decides its complement. -/
lemma DecidedBy.compl (h : r.DecidedBy levels) : r.compl.DecidedBy levels := by
  intro x y hxy
  rw [holds_compl, holds_compl, h x y hxy]

/-- What decides two regions decides every combination of them. -/
lemma DecidedBy.combine (op : Bool → Bool → Bool) (hr : r.DecidedBy levels) (hs : s.DecidedBy levels) :
    (Region.combine op r s).DecidedBy levels := by
  intro x y hxy
  rw [holds_combine, holds_combine, hr x y hxy, hs x y hxy]

/-- What decides two regions decides their intersection. -/
lemma DecidedBy.inter (hr : r.DecidedBy levels) (hs : s.DecidedBy levels) : (r.inter s).DecidedBy levels :=
  hr.combine _ hs

/-- What decides two regions decides their union. -/
lemma DecidedBy.union (hr : r.DecidedBy levels) (hs : s.DecidedBy levels) : (r.union s).DecidedBy levels :=
  hr.combine _ hs

end DecidedBy

/-- Whether membership is decided by the features at the levels below a bound. -/
def Within (bound : Nat) (r : Region) : Prop :=
  ∀ x y : Nat → Bool, (∀ level < bound, x level = y level) → r.holds x = r.holds y

variable {bound : Nat} {r s : Region}

/-- A region stays within a bound exactly if the levels below it decide the region. -/
lemma within_iff : r.Within bound ↔ r.DecidedBy (· < bound) := Iff.rfl

/-- A region within a bound is within a larger one. -/
lemma Within.mono {more : Nat} (h : r.Within bound) (hmore : bound ≤ more) : r.Within more :=
  (within_iff.1 h).mono fun _ hlevel => Nat.lt_of_lt_of_le hlevel hmore

/-- The constant regions are within any bound. -/
lemma within_const (bound : Nat) (b : Bool) : (const b).Within bound := within_iff.2 (decidedBy_const _ b)

/-- The region of a feature is within every bound above its level. -/
lemma within_feature {level : Nat} (h : level < bound) : (feature level).Within bound :=
  within_iff.2 (decidedBy_feature h)

/-- The complement of a region is within the same bound. -/
lemma Within.compl (h : r.Within bound) : r.compl.Within bound := within_iff.2 (within_iff.1 h).compl

/-- The intersection of regions within a bound is within it. -/
lemma Within.inter (hr : r.Within bound) (hs : s.Within bound) : (r.inter s).Within bound :=
  within_iff.2 ((within_iff.1 hr).inter (within_iff.1 hs))

/-- The union of regions within a bound is within it. -/
lemma Within.union (hr : r.Within bound) (hs : s.Within bound) : (r.union s).Within bound :=
  within_iff.2 ((within_iff.1 hr).union (within_iff.1 hs))

end Region

namespace Formula

/-- The region of a formula is decided by the levels of its names. -/
lemma decidedBy_region {level : String → Nat} {levels : Nat → Prop} {f : Formula}
    (h : ∀ n ∈ f.names, levels (level n)) : (f.region level).DecidedBy levels := by
  induction f with
  | feature name => exact Region.decidedBy_feature (h name List.mem_cons_self)
  | truth b => exact Region.decidedBy_const levels b
  | not f ih => exact (ih h).compl
  | binary c f g ihf ihg =>
    simp only [names, List.mem_append] at h
    exact (ihf fun n hn => h n (.inl hn)).combine _ (ihg fun n hn => h n (.inr hn))
  | choice c f g ihc ihf ihg =>
    simp only [names, List.mem_append] at h
    have hc := ihc fun n hn => h n (.inl (.inl hn))
    have hf := ihf fun n hn => h n (.inl (.inr hn))
    have hg := ihg fun n hn => h n (.inr hn)
    exact (hc.inter hf).union (hc.compl.inter hg)

/-- The region of a formula lies below every bound that the levels of its names are below. -/
lemma within_region {level : String → Nat} {bound : Nat} {f : Formula} (h : ∀ n ∈ f.names, level n < bound) :
    (f.region level).Within bound :=
  Region.within_iff.2 (decidedBy_region h)

end Formula

end ProductLine
