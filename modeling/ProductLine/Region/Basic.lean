import ProductLine.Decision.Text

/-!
# Regions

A region is a set of products, a product being an assignment of the feature levels. It is stored as its
canonical decision tree, so two regions are equal exactly if they hold the same products (`Region.ext_iff`).
-/

namespace ProductLine

/-- A set of products. -/
structure Region where
  tree : Decision
  canonical : tree.Above 0
deriving DecidableEq

namespace Region

/-- Whether a product lies in the region. -/
def holds (r : Region) (x : Nat → Bool) : Bool := r.tree.eval x

/-- The region of all products or of none. -/
def const (b : Bool) : Region := ⟨.leaf b, trivial⟩

/-- The region of no product. -/
def empty : Region := const false

/-- The region of all products. -/
def full : Region := const true

/-- The empty region, where some region is needed. -/
instance : Inhabited Region := ⟨empty⟩

/-- The region of the products with the feature at a level. -/
def feature (level : Nat) : Region :=
  ⟨.node level (.leaf false) (.leaf true), Nat.zero_le _, by simp, trivial, trivial⟩

/-- The products outside a region. -/
def compl (r : Region) : Region := ⟨r.tree.negate, r.canonical.negate⟩

/-- The products for which an operation on membership in two regions is true. -/
def combine (op : Bool → Bool → Bool) (r s : Region) : Region :=
  ⟨.combine op r.tree s.tree, Decision.Above.combine op r.canonical s.canonical⟩

/-- The products in both regions. -/
def inter (r s : Region) : Region := combine (· && ·) r s

/-- The products in one of two regions. -/
def union (r s : Region) : Region := combine (· || ·) r s

/-- The products whose membership does not change if the feature at a level is given or taken. -/
def restrict (level : Nat) (answer : Bool) (r : Region) : Region :=
  ⟨r.tree.restrict level answer, r.canonical.restrict⟩

/-- Whether membership depends on the feature at a level. -/
def dependsOn (r : Region) (level : Nat) : Bool := r.tree.asks level

/-- The number of assignments of the given levels in the region, which depends on no other level. -/
def count : (levels : List Nat) → Region → Nat
  | [], r => if r = full then 1 else 0
  | level :: levels, r =>
    if r.dependsOn level then count levels (r.restrict level false) + count levels (r.restrict level true)
    else 2 * count levels r

/-- The assignments of the given levels in the region, which depends on no other level; those without
the first feature come first. -/
def products : (levels : List Nat) → Region → List (List Bool)
  | [], r => if r = full then [[]] else []
  | level :: levels, r =>
    if r = empty then []
    else (products levels (r.restrict level false)).map (false :: ·) ++
      (products levels (r.restrict level true)).map (true :: ·)

/-- The text of a region over named features. -/
def text (feature : Nat → String) (r : Region) : String := r.tree.text feature

/-- Everything or nothing is in a constant region. -/
@[simp] theorem holds_const (b : Bool) (x : Nat → Bool) : (const b).holds x = b := rfl

/-- Nothing is in the empty region. -/
@[simp] theorem holds_empty (x : Nat → Bool) : empty.holds x = false := rfl

/-- Everything is in the full region. -/
@[simp] theorem holds_full (x : Nat → Bool) : full.holds x = true := rfl

/-- The region of a feature has the products with the feature. -/
@[simp] theorem holds_feature (level : Nat) (x : Nat → Bool) : (feature level).holds x = x level := by
  cases h : x level <;> simp [feature, holds, Decision.eval, h]

/-- The complement has what the region has not. -/
@[simp] theorem holds_compl (r : Region) (x : Nat → Bool) : r.compl.holds x = !r.holds x :=
  Decision.eval_negate x r.tree

/-- A product is in a combination as its being in either region says. -/
@[simp] theorem holds_combine (op : Bool → Bool → Bool) (r s : Region) (x : Nat → Bool) :
    (combine op r s).holds x = op (r.holds x) (s.holds x) :=
  Decision.eval_combine op x r.tree s.tree

/-- An intersection has what both regions have. -/
@[simp] theorem holds_inter (r s : Region) (x : Nat → Bool) : (inter r s).holds x = (r.holds x && s.holds x) :=
  holds_combine _ r s x

/-- A union has what one of the regions has. -/
@[simp] theorem holds_union (r s : Region) (x : Nat → Bool) : (union r s).holds x = (r.holds x || s.holds x) :=
  holds_combine _ r s x

/-- Regions with the same products are equal. -/
theorem ext {r s : Region} (h : ∀ x, r.holds x = s.holds x) : r = s := by
  obtain ⟨t, ht⟩ := r
  obtain ⟨u, hu⟩ := s
  have : t = u := ht.ext hu h
  subst this
  rfl

/-- Regions are equal exactly if they have the same products. -/
theorem ext_iff {r s : Region} : r = s ↔ ∀ x, r.holds x = s.holds x :=
  ⟨fun h _ => by rw [h], ext⟩

end Region

end ProductLine
