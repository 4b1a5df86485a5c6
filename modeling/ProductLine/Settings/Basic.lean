import ProductLine.FeatureSpace

/-!
# Settings

What is chosen for a session: the features declared first, to how many places numbers are rounded, and the
label of exported charts. Whether the order of the features may change later is kept as well; it never
shows.
-/

namespace ProductLine

/-- The choices for a session. -/
structure Settings where
  order : List String
  places : Option Nat
  reordering : Bool
  label : String
deriving DecidableEq, Inhabited

namespace Settings

/-- The settings where nothing is chosen. -/
def standard : Settings := ⟨[], some 12, false, "Family Reliability"⟩

/-- The fresh space of some settings. -/
def space (settings : Settings) (serial : Nat) : FeatureSpace :=
  (FeatureSpace.mk ⟨serial, settings.places⟩ []).declare settings.order

end Settings

end ProductLine
