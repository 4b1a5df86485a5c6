import ProductLine.Region.Basic

/-!
# Formulas

Boolean formulas over feature names, what they say about a product, and the region of the products for
which they hold. Main statement: `holds_region`, the region holds exactly those products.
-/

namespace ProductLine

/-- A binary connective, weakest first. -/
inductive Connective where
  | iff
  | implies
  | minus
  | xor
  | or
  | and
deriving DecidableEq

namespace Connective

/-- The truth value of a compound. -/
def apply : Connective → Bool → Bool → Bool
  | iff, a, b => a == b
  | implies, a, b => !a || b
  | minus, a, b => a && !b
  | xor, a, b => a != b
  | or, a, b => a || b
  | and, a, b => a && b

/-- How tightly a connective binds. -/
def strength : Connective → Nat
  | iff => 1
  | implies => 2
  | minus => 3
  | xor => 4
  | or => 5
  | and => 6

end Connective

/-- A formula over feature names. -/
inductive Formula where
  | feature (name : String)
  | truth (value : Bool)
  | not (f : Formula)
  | binary (c : Connective) (f g : Formula)
  | choice (c f g : Formula)
deriving DecidableEq

namespace Formula

/-- Whether a formula holds for a product. -/
def holds (x : String → Bool) : Formula → Bool
  | feature name => x name
  | truth b => b
  | not f => !f.holds x
  | binary c f g => c.apply (f.holds x) (g.holds x)
  | choice c f g => if c.holds x then f.holds x else g.holds x

/-- The region of a formula whose features have the given levels. -/
def region (level : String → Nat) : Formula → Region
  | feature name => .feature (level name)
  | truth b => .const b
  | not f => (f.region level).compl
  | binary c f g => .combine c.apply (f.region level) (g.region level)
  | choice c f g =>
    .union (.inter (c.region level) (f.region level)) (.inter (c.region level).compl (g.region level))

/-- The feature names of a formula, with repetitions. -/
def names : Formula → List String
  | feature name => [name]
  | truth _ => []
  | not f => f.names
  | binary _ f g => f.names ++ g.names
  | choice c f g => c.names ++ f.names ++ g.names

/-- The region of a formula holds the products for which the formula holds. -/
theorem holds_region (level : String → Nat) (x : Nat → Bool) (f : Formula) :
    (f.region level).holds x = f.holds (fun name => x (level name)) := by
  induction f with
  | feature name => simp [region, holds]
  | truth b => simp [region, holds]
  | not f ih => simp [region, holds, ih]
  | binary c f g ihf ihg => simp [region, holds, ihf, ihg]
  | choice c f g ihc ihf ihg =>
    simp only [region, holds, Region.holds_union, Region.holds_inter, Region.holds_compl, ihc, ihf, ihg]
    split <;> simp [*]

end Formula

end ProductLine
