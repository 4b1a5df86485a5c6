import ProductLine.Decision.Basic

/-!
# Texts of decision trees

A tree is written as nested choices. Only the tree for the answer no may be written as a negation, so a
tree that is false where all features hold is written as the negation of the opposite tree.
-/

namespace ProductLine

namespace Decision

/-- The truth value where all features hold. -/
def atAllTrue : Decision → Bool
  | leaf b => b
  | node _ _ high => high.atAllTrue

/-- A choice by a feature; just the feature if that is what the choice says. -/
def choiceText (feature low high : String) : String :=
  if low = "FALSE" ∧ high = "TRUE" then feature
  else "ite(" ++ feature ++ ", " ++ high ++ ", " ++ low ++ ")"

/-- The text of a tree, or of its negation if `flip` is set. -/
def write (feature : Nat → String) : (flip : Bool) → Decision → String
  | flip, leaf b => if b != flip then "TRUE" else "FALSE"
  | flip, node n low high =>
    if high.atAllTrue != flip then choiceText (feature n) (low.write feature flip) (high.write feature flip)
    else "(~ " ++ choiceText (feature n) (low.write feature !flip) (high.write feature !flip) ++ ")"

/-- The text of a tree over named features. -/
def text (feature : Nat → String) (t : Decision) : String := t.write feature false

end Decision

end ProductLine
