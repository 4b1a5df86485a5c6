import ProductLine.Diagram.Arithmetic

/-!
# Diagrams as objects

A diagram that was made is an object of its own: making an equal one later gives another object. This
matters for values that are no number, which differ even from themselves, so a diagram that takes one is
equal to nothing but the same object.
-/

namespace ProductLine

/-- A diagram and the number under which it was made. -/
structure Handle where
  serial : Nat
  diagram : Diagram
deriving DecidableEq, Inhabited

namespace Handle

/-- Whether two handles are one object. -/
def same (a b : Handle) : Bool := a.serial == b.serial

/-- Whether two handles are equal as diagrams. -/
def equal (a b : Handle) : Bool := a.same b || (!a.diagram.hasNaN && a.diagram == b.diagram)

end Handle

end ProductLine
