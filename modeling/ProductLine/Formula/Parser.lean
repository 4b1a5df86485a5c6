import ProductLine.Formula.Token

/-!
# Reading formulas

Tokens are read from left to right. Operands that wait for what follows stand on a stack of frames, the
innermost first; before a connective is put on the stack, everything that binds at least as tightly is
completed. The first token that cannot continue is reported with all that follow it, unless a character
after it begins no token, which is then the error. An equation can be read but has no meaning.
-/

namespace ProductLine

namespace Formula

/-- What waits for an operand to be complete. -/
inductive Frame where
  | group
  | not
  | binary (c : Connective) (left : Formula)
  | equation (left : Formula)
  | condition
  | positive (c : Formula)
  | negative (c f : Formula)

/-- What may come next: an operand, a connective after an operand, or a part of a construct. -/
inductive Expect where
  | operand
  | connective (value : Formula)
  | choiceOpening
  | boundName
  | boundSeparator
  | renamedName
  | renameSlash
  | newName
  | renameSeparator

/-- Completes the frames that bind at least with the given strength. -/
def complete (strength : Nat) : Formula → List Frame → Except Reason (Formula × List Frame)
  | f, .not :: stack => complete strength (.not f) stack
  | f, .binary c left :: stack =>
    if strength ≤ c.strength then complete strength (.binary c left f) stack
    else .ok (f, .binary c left :: stack)
  | _, .equation _ :: _ => .error (.unknownOperator "=")
  | f, stack => .ok (f, stack)

/-- The error of a token that cannot continue, followed by others and perhaps a character that begins
none. -/
def refuse (bad : Option Char) (token : Token) (rest : List Token) : Reason :=
  match bad with
  | some c => .illegalToken c
  | none => .unexpected token.text (rest.map Token.text)

/-- The error of tokens that end too early. -/
def refuseEnd (bad : Option Char) : Reason :=
  match bad with
  | some c => .illegalToken c
  | none => .unexpectedEnd

/-- Reads the tokens that follow, given what is expected and what waits. -/
def read (bad : Option Char) : Expect → List Frame → List Token → Except Reason Formula
  | .connective f, stack, [] =>
    match bad with
    | some c => .error (.illegalToken c)
    | none =>
      match complete 0 f stack with
      | .error e => .error e
      | .ok (f, []) => .ok f
      | .ok _ => .error .unexpectedEnd
  | _, _, [] => .error (refuseEnd bad)
  | expect, stack, token :: rest =>
    match expect, token with
    | .operand, .name text => read bad (.connective (.feature text)) stack rest
    | .operand, .truth b => read bad (.connective (.truth b)) stack rest
    | .operand, .not => read bad .operand (.not :: stack) rest
    | .operand, .opening => read bad .operand (.group :: stack) rest
    | .operand, .choice => read bad .choiceOpening stack rest
    | .operand, .forAll => read bad .boundName stack rest
    | .operand, .forSome => read bad .boundName stack rest
    | .operand, .rename => read bad .renamedName stack rest
    | .choiceOpening, .opening => read bad .operand (.condition :: stack) rest
    | .boundName, .name _ => read bad .boundSeparator stack rest
    | .boundSeparator, .comma => read bad .boundName stack rest
    | .renamedName, .name _ => read bad .renameSlash stack rest
    | .renameSlash, .slash => read bad .newName stack rest
    | .newName, .name _ => read bad .renameSeparator stack rest
    | .renameSeparator, .comma => read bad .renamedName stack rest
    | .connective f, .connective c =>
      match complete c.strength f stack with
      | .error e => .error e
      | .ok (f, stack) => read bad .operand (.binary c f :: stack) rest
    | .connective f, .equal =>
      match complete (Connective.and.strength + 1) f stack with
      | .error e => .error e
      | .ok (f, stack) => read bad .operand (.equation f :: stack) rest
    | .connective f, .closing =>
      match complete 0 f stack with
      | .error e => .error e
      | .ok (f, .group :: stack) => read bad (.connective f) stack rest
      | .ok (g, .negative c f :: stack) => read bad (.connective (.choice c f g)) stack rest
      | .ok _ => .error (refuse bad token rest)
    | .connective f, .comma =>
      match complete 0 f stack with
      | .error e => .error e
      | .ok (c, .condition :: stack) => read bad .operand (.positive c :: stack) rest
      | .ok (f, .positive c :: stack) => read bad .operand (.negative c f :: stack) rest
      | .ok _ => .error (refuse bad token rest)
    | _, _ => .error (refuse bad token rest)

/-- The formula of a normal text. -/
def parse (s : String) : Except Reason Formula :=
  let (tokens, bad) := Token.scan s.toList
  read bad .operand [] tokens

end Formula

end ProductLine
