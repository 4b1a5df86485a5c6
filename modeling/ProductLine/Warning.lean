import ProductLine.Text.Quoted

/-!
# Warnings

What is allowed but hardly meant. A warning does not stop anything.
-/

namespace ProductLine

/-- Something allowed that is hardly meant. -/
inductive Warning where
  | noProduct
  | neverPresent (condition id : String)
deriving DecidableEq

/-- The wording of a warning. -/
def Warning.message : Warning → String
  | noProduct => "Feature model admits no valid product"
  | neverPresent condition id =>
    "Presence condition " ++ Text.quoted condition ++ " of " ++ id ++ " holds in no valid product"

end ProductLine
