import ProductLine.Expression.Basic
import ProductLine.Expression.Outline

/-!
# Reading expressions

Tokens are read from left to right, as for formulas: operands that wait stand on a stack of frames, and an
operator first completes what binds at least as tightly. A power binds more tightly than a sign before
it, less tightly than a sign behind it, and groups to the right.
-/

namespace ProductLine

namespace Expression

/-- What waits for an operand to be complete. -/
inductive Frame where
  | group
  | signed (negative : Bool)
  | binary (op : Operation) (left : Expression)

/-- How tightly an operation binds; a sign binds with strength 3. -/
def strengthOf : Operation → Nat
  | .add => 1
  | .sub => 1
  | .mul => 2
  | .div => 2
  | .pow => 4

/-- Completes the frames that bind at least with the given strength. -/
def complete (strength : Nat) : Expression → List Frame → Expression × List Frame
  | e, .signed negative :: stack =>
    if strength ≤ 3 then complete strength (if negative then .neg e else .pos e) stack
    else (e, .signed negative :: stack)
  | e, .binary op left :: stack =>
    if strength ≤ strengthOf op then complete strength (.binary op left e) stack
    else (e, .binary op left :: stack)
  | e, stack => (e, stack)

/-- The operation that a sign between operands is. -/
def operation? : Token → Option Operation
  | .sign ['+'] => some .add
  | .sign ['-'] => some .sub
  | .sign ['*'] => some .mul
  | .sign ['/'] => some .div
  | .sign ['*', '*'] => some .pow
  | _ => none

/-- The strength with which an operation completes what stands before it: a power nothing. -/
def claims : Operation → Nat
  | .pow => 5
  | op => strengthOf op

/-- Reads the tokens that follow an operand, or that begin one if there is none. -/
def read : Option Expression → List Frame → List Token → Option Expression
  | some e, stack, [] =>
    match complete 0 e stack with
    | (e, []) => some e
    | _ => none
  | none, _, [] => none
  | none, stack, token :: rest =>
    match token with
    | .int n => read (some (.int n)) stack rest
    | .float x => read (some (.float x)) stack rest
    | .word chars =>
      if isKeyword chars then none
      else read (some (.name (String.ofList (Text.normalName chars)))) stack rest
    | .sign ['('] => read none (.group :: stack) rest
    | .sign ['-'] => read none (.signed true :: stack) rest
    | .sign ['+'] => read none (.signed false :: stack) rest
    | _ => none
  | some e, stack, token :: rest =>
    match operation? token with
    | some op =>
      match complete (claims op) e stack with
      | (e, stack) => read none (.binary op e :: stack) rest
    | none =>
      if token = .sign [')'] then
        match complete 0 e stack with
        | (e, .group :: stack) => read (some e) stack rest
        | _ => none
      else none

/-- A text with every caret written as a power sign. -/
def expandCarets (cs : List Char) : List Char := cs.flatMap fun c => if c = '^' then ['*', '*'] else [c]

/-- The expression of a text, or why the text is none. A text consists of Unicode characters: code points that
are none, as surrogates that stand alone, are not read here. -/
def parse (s : String) : Except Error Expression :=
  let text := expandCarets (Text.trim s.toList)
  if text = [] then .error (.malformed s .emptyExpression)
  else if text.contains '\x00' then .error .nullCharacter
  else match tokens text with
    | none => .error (.malformed s .notExpression)
    | some ts =>
      match read none [] ts with
      | some e => .ok e
      | none => .error (.malformed s (diagnose ts))

/-- The distinct names of the expression of a text. -/
def freeVariables (s : String) : Except Error (List String) := (parse s).map freeNames

end Expression

end ProductLine
