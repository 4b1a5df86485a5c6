import ProductLine.Formula.Parser

/-!
# Feature spaces

A feature space owns the features declared so far, in the order of their levels, and fixes to how many
places numbers are rounded in it. Features are only ever appended, so regions keep their meaning. Main
statement: `declare_extends`, the old features are a beginning of the new ones.
-/

namespace ProductLine

/-- What is fixed about a feature space: which one it is and the places of its numbers. -/
structure Owner where
  serial : Nat
  places : Option Nat
deriving DecidableEq, Inhabited

/-- The number as it is kept by an owner. -/
def Owner.normalize (owner : Owner) (value : Binary64) : Binary64 := value.normalize owner.places

/-- A feature space: its owner and the declared features, the one of level 0 first. -/
structure FeatureSpace where
  owner : Owner
  features : List String
deriving DecidableEq, Inhabited

namespace FeatureSpace

/-- The level of a feature; one not declared has the next free level. -/
def level (space : FeatureSpace) (name : String) : Nat := space.features.idxOf name

/-- The feature of a level. -/
def nameOf (space : FeatureSpace) (level : Nat) : String := space.features.getD level ""

/-- Appends the features that are not declared yet. -/
def declare (space : FeatureSpace) (names : List String) : FeatureSpace :=
  { space with features := space.features ++ Formula.distinct space.features names }

/-- The product in which a feature is present as `x` says. -/
def product (space : FeatureSpace) (x : String → Bool) (level : Nat) : Bool :=
  match space.features[level]? with
  | some name => x name
  | none => false

/-- The region of a formula, its features declared on the way. They stay declared if the formula turns out
to be none. -/
def encode (space : FeatureSpace) (text : String) : Except Error Region × FeatureSpace :=
  match Formula.normalize text with
  | .error e => (.error e, space)
  | .ok normal =>
    let space := space.declare (Formula.features normal)
    match Formula.parse normal with
    | .error reason => (.error (.malformed text reason), space)
    | .ok f => (.ok (f.region space.level), space)

/-- Declaring only appends. -/
theorem declare_extends (space : FeatureSpace) (names : List String) :
    space.features <+: (space.declare names).features := List.prefix_append _ _

end FeatureSpace

end ProductLine
