import ProductLine.Binary64.Power
import ProductLine.Datum.Basic
import ProductLine.Diagram.Basic

/-!
# Arithmetic of diagrams

Two diagrams are combined pointwise: wherever a region of the one meets a region of the other, the operation
is applied to the two values once, and the result is rounded. Values that no product has together never
meet, so they cause no error. In a product a zero makes the result zero, whatever the other factor is.
-/

namespace ProductLine

/-- A binary arithmetic operation. -/
inductive Operation where
  | add
  | sub
  | mul
  | div
  | pow
deriving DecidableEq

/-- The quotient of two numbers; zero over zero is zero. -/
def Binary64.quotient (a b : Binary64) : Except Error Binary64 :=
  if b = .zero then
    if a = .zero then .ok .zero else .error (.divisionByZero a)
  else .ok (a / b)

/-- The power of two numbers. -/
def Binary64.power (a b : Binary64) : Except Error Binary64 :=
  if a = .zero ∧ lt b .zero then .error (.zeroToNegative b)
  else if lt a .zero ∧ !b.isInteger then .error (.negativeToFraction a b)
  else match power? a b with
    | some c => .ok c
    | none => .error .beyondRange

/-- The result of an operation on two numbers, before rounding. -/
def Operation.compute : Operation → Binary64 → Binary64 → Except Error Binary64
  | add, a, b => .ok (a + b)
  | sub, a, b => .ok (a - b)
  | mul, a, b => .ok (a * b)
  | div, a, b => a.quotient b
  | pow, a, b => a.power b

namespace Diagram

/-- The pairs of values that meet, with the regions where they do. -/
def overlaps (es fs : List Entry) : List (Binary64 × Binary64 × Region) :=
  es.flatMap fun (v, r) => fs.filterMap fun (w, s) =>
    let both := r.inter s
    if both = .empty then none else some (v, w, both)

/-- The diagram of an operation applied to the pairs of values that meet. -/
def applyTo (owner : Owner) (op : Binary64 → Binary64 → Except Error Binary64)
    (pairs : List (Binary64 × Binary64 × Region)) : Except Error Diagram :=
  (pairs.mapM fun pair => (op pair.1 pair.2.1).map fun u => (owner.normalize u, pair.2.2)).map
    (ofEntries owner)

/-- The pointwise combination of two diagrams of one owner. -/
def apply (op : Binary64 → Binary64 → Except Error Binary64) (a b : Diagram) : Except Error Diagram :=
  applyTo a.owner op (overlaps a.cover b.cover)

/-- The pointwise product of two diagrams of one owner; zero where either is zero. -/
def mul (a b : Diagram) : Diagram :=
  ofEntries a.owner ((overlaps a.regions b.regions).map fun (v, w, r) => (a.owner.normalize (v * w), r))

/-- The diagram with the sign of every value turned around. -/
def neg (d : Diagram) : Diagram :=
  ⟨d.owner, arrange (d.regions.map fun (v, r) => (d.owner.normalize (-v), r))⟩

/-- A binary operation on diagrams, which must have one owner. -/
def operate (op : Operation) (a b : Diagram) : Except Error Diagram :=
  if a.owner = b.owner then
    match op with
    | .mul => .ok (mul a b)
    | op => apply op.compute a b
  else .error .foreignDiagram

/-- The number of a datum that is one. A truth value is a number only where `truths` allows it. -/
def numberOf? (truths : Bool) : Datum → Option (Except Error Binary64)
  | .int n => some (match Binary64.ofInt? n with
    | some x => .ok x
    | none => .error .integerTooLarge)
  | .float x => some (.ok x)
  | .bool b => if truths then some (.ok (if b then .one else .zero)) else none
  | _ => none

end Diagram

/-- An operand: a diagram or any datum. -/
inductive Operand where
  | diagram (d : Diagram)
  | datum (value : Datum)
deriving Inhabited

namespace Operand

/-- The operand as a diagram of an owner. -/
def toDiagram (owner : Owner) : Operand → Except Error Diagram
  | diagram d => if d.owner = owner then .ok d else .error .foreignDiagram
  | datum value =>
    match Diagram.numberOf? false value with
    | some number => number.map (Diagram.constant owner)
    | none => .error (.notOperand value.kind)

/-- The owner of an operand that is a diagram. -/
def owner? : Operand → Option Owner
  | diagram d => some d.owner
  | datum _ => none

/-- A binary operation on operands, in the space of the first that is a diagram. -/
def operate (op : Operation) (a b : Operand) : Except Error Diagram :=
  let owner := (a.owner?.or b.owner?).getD default
  match a.toDiagram owner with
  | .error e => .error e
  | .ok x =>
    match b.toDiagram owner with
    | .error e => .error e
    | .ok y => Diagram.operate op x y

end Operand

end ProductLine
