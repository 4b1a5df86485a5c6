import ProductLine.Diagram.Basic
import ProductLine.Warning

/-!
# Feature models

A feature model is a formula that says which products are valid. It speaks about the features it names,
whatever else its space declares.
-/

namespace ProductLine

/-- The formula of the valid products, its diagram with value one on them, and the features it names. -/
structure FeatureModel where
  source : String
  diagram : Diagram
  features : List String
deriving DecidableEq, Inhabited

namespace FeatureModel

/-- The feature model of a formula, its features declared on the way. -/
def build (space : FeatureSpace) (source : String) : Except Error FeatureModel × FeatureSpace :=
  match space.encode source with
  | (.error e, space) => (.error e, space)
  | (.ok r, space) =>
    match Formula.normalize source with
    | .error e => (.error e, space)
    | .ok normal => (.ok ⟨source, .ofRegion space.owner r, Formula.features normal⟩, space)

/-- The valid products. -/
def region (m : FeatureModel) : Region := m.diagram.nonzero

/-- What to warn about: that there is no valid product. -/
def warnings (m : FeatureModel) : List Warning := if m.region = .empty then [.noProduct] else []

/-- Whether a product is valid. -/
def isValid (m : FeatureModel) (space : FeatureSpace) (x : String → Bool) : Bool :=
  m.diagram.evaluate space x == .one

/-- The number of valid assignments of the features named. -/
def count (m : FeatureModel) (space : FeatureSpace) : Nat := m.region.count (m.features.map space.level)

/-- The valid assignments of the features named, each once, absent before present. -/
def products (m : FeatureModel) (space : FeatureSpace) : List (List Bool) :=
  m.region.products (m.features.map space.level)

end FeatureModel

end ProductLine
