import ProductLine.Diagram.Arithmetic

/-!
# Expressions

Arithmetic over numbers and named diagrams. An expression is solved by replacing each name by the operand
bound to it and carrying the arithmetic out pointwise, the left operand first.
-/

namespace ProductLine

/-- An arithmetic expression. -/
inductive Expression where
  | int (value : Nat)
  | float (value : Binary64)
  | name (text : String)
  | neg (e : Expression)
  | pos (e : Expression)
  | binary (op : Operation) (left right : Expression)
deriving DecidableEq

namespace Expression

/-- What names stand for, each name once. -/
abbrev Bindings := List (String × Operand)

/-- The operand bound to a name. -/
def Bindings.get? (bindings : Bindings) (name : String) : Option Operand := bindings.lookup name

/-- The bindings with a name bound anew, in the place it had. -/
def Bindings.put (bindings : Bindings) (name : String) (value : Operand) : Bindings :=
  if bindings.any (·.1 == name) then bindings.map fun b => if b.1 = name then (name, value) else b
  else bindings ++ [(name, value)]

/-- The bound names in ascending order. -/
def Bindings.names (bindings : Bindings) : List String := (bindings.map Prod.fst).mergeSort

/-- The names of an expression from left to right, with repetitions. -/
def names : Expression → List String
  | int _ => []
  | float _ => []
  | name text => [text]
  | neg e => e.names
  | pos e => e.names
  | binary _ left right => left.names ++ right.names

/-- The distinct names of an expression, in order of first appearance. -/
def freeNames (e : Expression) : List String := Formula.distinct [] e.names

/-- The diagram of an expression whose names are bound. -/
def solve (owner : Owner) (bindings : Bindings) : Expression → Except Error Diagram
  | int n => (Operand.datum (.int n)).toDiagram owner
  | float x => .ok (.constant owner x)
  | name text =>
    match bindings.get? text with
    | some operand => operand.toDiagram owner
    | none => .error (.unbound text bindings.names)
  | neg e => (e.solve owner bindings).map Diagram.neg
  | pos e => e.solve owner bindings
  | binary op left right =>
    match left.solve owner bindings with
    | .error e => .error e
    | .ok a =>
      match right.solve owner bindings with
      | .error e => .error e
      | .ok b => Diagram.operate op a b

/-- The name that an expression consists of, apart from plus signs. -/
def alias? : Expression → Option String
  | name text => some text
  | pos e => e.alias?
  | _ => none

end Expression

end ProductLine
