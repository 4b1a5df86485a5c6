import ProductLine.Error
import ProductLine.Expression.Token

/-!
# Outlines of expressions

A text that is no arithmetic may still be an expression of the wider language in which models are written.
An outline says of such an expression only what decides the error: where the first construct or constant
stands that arithmetic does not have, counted level by level. Inside such a construct only the form is
checked.
-/

namespace ProductLine

namespace Expression

/-- The outline of an expression. Operators are parts like operands. -/
inductive Outline where
  | name
  | number
  | operator
  | constant (text : String)
  | construct (name : String)
  | compound (parts : List Outline)
deriving Inhabited

namespace Outline

/-- The unsupported part that an outline itself is. -/
def fault? : Outline → Option Reason
  | constant text => some (.unsupportedConstant text)
  | construct kind => some (.unsupportedConstruct kind)
  | _ => none

/-- The parts of an outline. -/
def parts : Outline → List Outline
  | compound ps => ps
  | _ => []

/-- The first unsupported part, level by level. -/
def firstFault? : (depth : Nat) → List Outline → Option Reason
  | 0, _ => none
  | _, [] => none
  | depth + 1, level =>
    match level.findSome? fault? with
    | some reason => some reason
    | none => firstFault? depth (level.flatMap parts)

/-- A binary operation; one that arithmetic does not have is named. -/
def binary (operatorName : Option String) (left right : Outline) : Outline :=
  compound [left, (operatorName.map construct).getD operator, right]

/-- A unary operation; one that arithmetic does not have is named. -/
def unary (operatorName : Option String) (operand : Outline) : Outline :=
  compound [(operatorName.map construct).getD operator, operand]

end Outline

/-- The words that cannot be names. -/
def keywords : List String :=
  ["False", "None", "True", "and", "as", "assert", "async", "await", "break", "class", "continue", "def", "del",
   "elif", "else", "except", "finally", "for", "from", "global", "if", "import", "in", "is", "lambda",
   "nonlocal", "not", "or", "pass", "raise", "return", "try", "while", "with", "yield"]

/-- Whether a word cannot be a name. -/
def isKeyword (word : List Char) : Bool := keywords.contains (String.ofList word)

namespace Outline

/-- Reads an outline at the start of tokens. -/
abbrev Reader := List Token → Option (Outline × List Token)

/-- Whether a token is a given sign. -/
def isSign (s : String) : Token → Bool
  | .sign chars => chars == s.toList
  | _ => false

/-- Whether a token is a given word. -/
def isWord (s : String) : Token → Bool
  | .word chars => chars == s.toList
  | _ => false

/-- Whether a token is a name. -/
def isNameToken : Token → Bool
  | .word chars => !isKeyword chars
  | _ => false

/-- The tokens after a given sign. -/
def afterSign (s : String) : List Token → Option (List Token)
  | t :: rest => if isSign s t then some rest else none
  | [] => none

/-- The tokens after a given word. -/
def afterWord (s : String) : List Token → Option (List Token)
  | t :: rest => if isWord s t then some rest else none
  | [] => none

/-- The name of the binary operator that a sign is, with how tightly it binds; no name for arithmetic. -/
def operatorOf? : Token → Option (Nat × Option String)
  | .sign ['|'] => some (1, some "BitOr")
  | .sign ['&'] => some (3, some "BitAnd")
  | .sign ['<', '<'] => some (4, some "LShift")
  | .sign ['>', '>'] => some (4, some "RShift")
  | .sign ['+'] => some (5, none)
  | .sign ['-'] => some (5, none)
  | .sign ['*'] => some (6, none)
  | .sign ['/'] => some (6, none)
  | .sign ['/', '/'] => some (6, some "FloorDiv")
  | .sign ['%'] => some (6, some "Mod")
  | .sign ['@'] => some (6, some "MatMult")
  | _ => none

/-- The tokens after a comparison sign. -/
def afterComparison : List Token → Option (List Token)
  | t :: rest =>
    if ["==", "!=", "<=", "<", ">=", ">"].any (isSign · t) then some rest
    else if isWord "in" t then some rest
    else if isWord "is" t then some ((afterWord "not" rest).getD rest)
    else if isWord "not" t then afterWord "in" rest
    else none
  | [] => none

/-- The text of bytes between quotes. -/
def bytesText (points : List Nat) : String :=
  let quote := Text.quoteFor points
  String.ofList ('b' :: quote :: points.flatMap (fun n =>
    if 128 ≤ n then '\\' :: 'x' :: Text.hexDigits 2 n else Text.escape quote n) ++ [quote])

/-- The text of an imaginary number. -/
def imaginaryText (x : Binary64) : String :=
  String.ofList (Binary64.write ⟨16, false⟩ Decimal.shortest x) ++ "j"

/-- The tokens of texts that stand side by side, and the rest. -/
def texts : List Token → List Token × List Token
  | t :: rest =>
    match t with
    | .text _ | .bytes _ | .template _ _ =>
      let (ts, rest) := texts rest
      (t :: ts, rest)
    | _ => ([], t :: rest)
  | [] => ([], [])

/-- A part of a template text: plain characters or a field with the tokens of its expression and those of
the fields nested in its layout. -/
inductive Piece where
  | plain
  | field (tokens : List Token) (nested : List (List Token))

/-- The characters of the expression of a field up to its end at a sign outside brackets and quotes, `open_`
being the closing brackets that must come. -/
def fieldExpression : (fuel : Nat) → (open_ : List Char) → List Char → Option (List Char × List Char)
  | 0, _, _ => none
  | _, _, [] => none
  | fuel + 1, open_, c :: rest =>
    let keep (more : List Char) (open_ : List Char) (rest : List Char) :=
      (fieldExpression fuel open_ rest).map fun (e, rest) => (more ++ e, rest)
    if c = '\\' || c = '#' then none
    else if c = '"' || c = '\'' then
      let tripled := [c, c].isPrefixOf rest
      match Token.body c tripled (if tripled then rest.drop 2 else rest) with
      | some (_, after) =>
        let text := (c :: rest).take (rest.length + 1 - after.length)
        if text.contains '\\' then none else keep text open_ after
      | none => none
    else if open_ = [] && c = '!' && ['='].isPrefixOf rest then keep ['!', '='] open_ (rest.drop 1)
    else if open_ = [] && (c = '=' || c = '<' || c = '>') && ['='].isPrefixOf rest then
      keep [c, '='] open_ (rest.drop 1)
    else if open_ = [] && (c = '<' || c = '>') then keep [c] open_ rest
    else if open_ = [] && [':', '!', '=', '\x7d'].contains c then some ([], c :: rest)
    else match Token.closerOf? c with
      | some closer => keep [c] (closer :: open_) rest
      | none =>
        if [')', ']', '\x7d'].contains c then
          match open_ with
          | d :: outer => if c = d then keep [c] outer rest else none
          | [] => none
        else keep [c] open_ rest

/-- The pieces of a template text; fields nest at most `depth` times. The layout of a field ends at its
closing brace. -/
def pieces : (fuel : Nat) → (depth : Nat) → (inLayout raw : Bool) → List Char → Option (List Piece × List Char)
  | 0, _, _, _, _ => none
  | _, _, inLayout, _, [] => if inLayout then none else some ([], [])
  | fuel + 1, depth, inLayout, raw, c :: rest =>
    if c = '\x7b' then
      if !inLayout && ['\x7b'].isPrefixOf rest then pieces fuel depth inLayout raw (rest.drop 1)
      else match depth with
        | 0 => none
        | depth' + 1 => do
          let (chars, rest) ← fieldExpression (rest.length + 1) [] rest
          if chars.all Text.isBlank then none
          let ts ← Expression.tokens ('(' :: chars ++ [')'])
          let rest := match rest with
            | '=' :: more => more.dropWhile Text.isBlank
            | _ => rest
          let rest ← match rest with
            | '!' :: k :: more => if ['s', 'r', 'a'].contains k then some more else none
            | _ => some rest
          let (nested, rest) ← match rest with
            | ':' :: more => pieces fuel depth' true raw more
            | '\x7d' :: more => some ([], more)
            | _ => none
          let (others, rest) ← pieces fuel depth inLayout raw rest
          some (.field ts (nested.filterMap fun
            | .field ts _ => some ts
            | .plain => none) :: others, rest)
    else if c = '\x7d' then
      if inLayout then some ([], rest)
      else if ['\x7d'].isPrefixOf rest then pieces fuel depth inLayout raw (rest.drop 1)
      else none
    else if c = '\\' && !raw then
      match rest with
      | d :: more =>
        if d = '\x7b' || d = '\x7d' then pieces fuel depth inLayout raw rest
        else if Token.escapeFits d more then pieces fuel depth inLayout raw more
        else none
      | [] => none
    else pieces fuel depth inLayout raw rest

/-- The token lists of all expressions in a template text. -/
def templateExpressions (raw : Bool) (chars : List Char) : Option (List (List Token)) :=
  (pieces (chars.length + 1) 2 false raw chars).map fun (ps, _) => ps.flatMap fun
    | .field ts nested => ts :: nested
    | .plain => []

mutual

/-- An expression: a choice between two, a function without a name, or a disjunction. -/
def expression : (fuel : Nat) → Reader
  | 0, _ => none
  | fuel + 1, ts =>
    match afterWord "lambda" ts with
    | some rest => do
      let rest ← parameters fuel rest
      let rest ← afterSign ":" rest
      let (_, rest) ← expression fuel rest
      some (construct "Lambda", rest)
    | none => do
      let (first, rest) ← disjunction fuel ts
      match afterWord "if" rest with
      | some rest => do
        let (_, rest) ← disjunction fuel rest
        let rest ← afterWord "else" rest
        let (_, rest) ← expression fuel rest
        some (construct "IfExp", rest)
      | none => some (first, rest)

/-- The parameters of a function without a name, up to the colon. -/
def parameters : (fuel : Nat) → List Token → Option (List Token)
  | 0, _ => none
  | fuel + 1, ts => parameterList fuel false false false false ts

/-- The parameters that remain: whether some stand before, one has a default, a slash or a star was read. -/
def parameterList : (fuel : Nat) → (some_ defaulted slashed starred : Bool) → List Token → Option (List Token)
  | 0, _, _, _, _, _ => none
  | fuel + 1, some_, defaulted, slashed, starred, ts =>
    let continue_ (defaulted slashed starred : Bool) (rest : List Token) : Option (List Token) :=
      match afterSign "," rest with
      | some rest => parameterList fuel true defaulted slashed starred rest
      | none => if (afterSign ":" rest).isSome then some rest else none
    match ts with
    | [] => none
    | t :: rest =>
      if isSign ":" t then some ts
      else if isSign "/" t then
        if some_ && !slashed && !starred then continue_ defaulted true starred rest else none
      else if isSign "*" t then
        if starred then none
        else match rest with
          | n :: more =>
            if isNameToken n then continue_ false slashed true more
            else match afterSign "," rest with
              | some (n :: _) =>
                if isNameToken n then continue_ false slashed true rest else none
              | _ => none
          | [] => none
      else if isSign "**" t then
        match rest with
        | n :: more =>
          if isNameToken n then
            let more := (afterSign "," more).getD more
            if (afterSign ":" more).isSome then some more else none
          else none
        | [] => none
      else if isNameToken t then
        match afterSign "=" rest with
        | some rest =>
          match expression fuel rest with
          | some (_, rest) => continue_ true slashed starred rest
          | none => none
        | none => if defaulted && !starred then none else continue_ defaulted slashed starred rest
      else none

/-- Conjunctions joined by `or`. -/
def disjunction : (fuel : Nat) → Reader
  | 0, _ => none
  | fuel + 1, ts => do
    let (first, rest) ← conjunction fuel ts
    match afterWord "or" rest with
    | some rest => do
      let (_, rest) ← disjunction fuel rest
      some (construct "BoolOp", rest)
    | none => some (first, rest)

/-- Inversions joined by `and`. -/
def conjunction : (fuel : Nat) → Reader
  | 0, _ => none
  | fuel + 1, ts => do
    let (first, rest) ← inversion fuel ts
    match afterWord "and" rest with
    | some rest => do
      let (_, rest) ← conjunction fuel rest
      some (construct "BoolOp", rest)
    | none => some (first, rest)

/-- A comparison, negated or not. -/
def inversion : (fuel : Nat) → Reader
  | 0, _ => none
  | fuel + 1, ts =>
    match afterWord "not" ts with
    | some rest => do
      let (inner, rest) ← inversion fuel rest
      some (unary (some "Not") inner, rest)
    | none => do
      let (first, rest) ← operations fuel 1 ts
      match afterComparison rest with
      | some rest => do
        let rest ← comparisons fuel rest
        some (construct "Compare", rest)
      | none => some (first, rest)

/-- The sides of a comparison after its first sign. -/
def comparisons : (fuel : Nat) → List Token → Option (List Token)
  | 0, _ => none
  | fuel + 1, ts => do
    let (_, rest) ← operations fuel 1 ts
    match afterComparison rest with
    | some rest => comparisons fuel rest
    | none => some rest

/-- Operations that bind at least with the given strength. -/
def operations : (fuel : Nat) → (strength : Nat) → Reader
  | 0, _, _ => none
  | fuel + 1, strength, ts => do
    let (first, rest) ← factor fuel ts
    operationsAfter fuel strength first rest

/-- The operations of at least the given strength that continue a left operand. -/
def operationsAfter : (fuel : Nat) → (strength : Nat) → Outline → Reader
  | 0, _, _, _ => none
  | _, _, left, [] => some (left, [])
  | fuel + 1, strength, left, t :: rest =>
    match operatorOf? t with
    | some (s, operatorName) =>
      if strength ≤ s then do
        let (right, rest) ← operations fuel (s + 1) rest
        operationsAfter fuel strength (binary operatorName left right) rest
      else some (left, t :: rest)
    | none => some (left, t :: rest)

/-- A power with signs before it. -/
def factor : (fuel : Nat) → Reader
  | 0, _ => none
  | fuel + 1, ts =>
    match ts with
    | .sign ['+'] :: rest => (factor fuel rest).map fun (e, rest) => (unary none e, rest)
    | .sign ['-'] :: rest => (factor fuel rest).map fun (e, rest) => (unary none e, rest)
    | .sign ['~'] :: rest => (factor fuel rest).map fun (e, rest) => (unary (some "Invert") e, rest)
    | _ => do
      let (base, rest) ← match afterWord "await" ts with
        | some rest => (primary fuel rest).map fun (_, rest) => (construct "Await", rest)
        | none => primary fuel ts
      match afterSign "**" rest with
      | some rest => do
        let (exponent, rest) ← factor fuel rest
        some (binary none base exponent, rest)
      | none => some (base, rest)

/-- An atom with attributes, calls and subscripts behind it. -/
def primary : (fuel : Nat) → Reader
  | 0, _ => none
  | fuel + 1, ts => do
    let (first, rest) ← atom fuel ts
    trailers fuel first rest

/-- The attributes, calls and subscripts behind a primary. -/
def trailers : (fuel : Nat) → Outline → Reader
  | 0, _, _ => none
  | _, e, [] => some (e, [])
  | fuel + 1, e, t :: rest =>
    if isSign "." t then
      match rest with
      | n :: rest => if isNameToken n then trailers fuel (construct "Attribute") rest else none
      | [] => none
    else if isSign "(" t then do
      let rest ← arguments fuel 0 true rest
      trailers fuel (construct "Call") rest
    else if isSign "[" t then do
      let rest ← slices fuel rest
      trailers fuel (construct "Subscript") rest
    else some (e, t :: rest)

/-- The arguments of a call up to its closing bracket. The stage is 0 where all kinds may follow, 1 after a
named argument and 2 after a double star; `first` says that no argument was read yet. -/
def arguments : (fuel : Nat) → (stage : Nat) → (first : Bool) → List Token → Option (List Token)
  | 0, _, _, _ => none
  | fuel + 1, stage, first, ts =>
    let more (stage : Nat) (rest : List Token) : Option (List Token) :=
      match afterSign "," rest with
      | some rest => arguments fuel stage false rest
      | none => afterSign ")" rest
    match afterSign ")" ts with
    | some rest => some rest
    | none =>
      match afterSign "**" ts with
      | some rest => do
        let (_, rest) ← expression fuel rest
        more 2 rest
      | none =>
        match afterSign "*" ts with
        | some rest =>
          if stage = 2 then none
          else do
            let (_, rest) ← expression fuel rest
            more stage rest
        | none =>
          match ts with
          | n :: rest =>
            match (if isNameToken n then afterSign "=" rest else none) with
            | some rest => do
              let (_, rest) ← expression fuel rest
              more (max stage 1) rest
            | none =>
              if stage ≠ 0 then none
              else do
                let (_, rest) ← named fuel ts
                if first && startsClause rest then do
                  let rest ← clauses fuel rest
                  afterSign ")" rest
                else more 0 rest
          | [] => none

/-- The slices of a subscript up to its closing bracket. -/
def slices : (fuel : Nat) → List Token → Option (List Token)
  | 0, _ => none
  | fuel + 1, ts => do
    let rest ← match afterSign "*" ts with
      | some rest => (expression fuel rest).map Prod.snd
      | none => slice fuel ts
    match afterSign "," rest with
    | some rest =>
      match afterSign "]" rest with
      | some rest => some rest
      | none => slices fuel rest
    | none => afterSign "]" rest

/-- A slice or an index. -/
def slice : (fuel : Nat) → List Token → Option (List Token)
  | 0, _ => none
  | fuel + 1, ts =>
    let bound (ts : List Token) : Option (List Token) :=
      match ts with
      | t :: _ =>
        if isSign ":" t || isSign "," t || isSign "]" t then some ts else (expression fuel ts).map Prod.snd
      | [] => none
    match afterSign ":" ts with
    | some rest => do
      let rest ← bound rest
      match afterSign ":" rest with
      | some rest => bound rest
      | none => some rest
    | none => do
      let (e, rest) ← named fuel ts
      match e, afterSign ":" rest with
      | construct "NamedExpr", some _ =>
        match ts with
        | .sign ['('] :: _ => do
          let rest ← bound ((afterSign ":" rest).getD [])
          match afterSign ":" rest with
          | some rest => bound rest
          | none => some rest
        | _ => none
      | _, some rest => do
        let rest ← bound rest
        match afterSign ":" rest with
        | some rest => bound rest
        | none => some rest
      | _, none => some rest

/-- An expression that may be given a name. -/
def named : (fuel : Nat) → Reader
  | 0, _ => none
  | fuel + 1, ts =>
    match ts with
    | n :: t :: rest =>
      if isNameToken n && isSign ":=" t then do
        let (_, rest) ← expression fuel rest
        some (construct "NamedExpr", rest)
      else expression fuel ts
    | _ => expression fuel ts

/-- An item of a display: a starred operation or an expression that may be given a name. -/
def item : (fuel : Nat) → Reader
  | 0, _ => none
  | fuel + 1, ts =>
    match afterSign "*" ts with
    | some rest => do
      let (_, rest) ← operations fuel 1 rest
      some (construct "Starred", rest)
    | none => named fuel ts

/-- The items of a display up to its closing bracket, of which one was read. -/
def items : (fuel : Nat) → (closer : String) → List Token → Option (List Token)
  | 0, _, _ => none
  | fuel + 1, closer, ts =>
    match afterSign closer ts with
    | some rest => some rest
    | none => do
      let rest ← afterSign "," ts
      match afterSign closer rest with
      | some rest => some rest
      | none => do
        let (_, rest) ← item fuel rest
        items fuel closer rest

/-- Whether a generating clause begins. -/
def startsClause : List Token → Bool
  | t :: rest =>
    isWord "for" t || (isWord "async" t && (match rest with | u :: _ => isWord "for" u | [] => false))
  | [] => false

/-- The generating clauses of a comprehension. -/
def clauses : (fuel : Nat) → List Token → Option (List Token)
  | 0, _ => none
  | fuel + 1, ts => do
    let rest ← afterWord "for" ((afterWord "async" ts).getD ts)
    let rest ← targets fuel rest
    let rest ← afterWord "in" rest
    let (_, rest) ← disjunction fuel rest
    let rest ← conditions fuel rest
    if startsClause rest then clauses fuel rest else some rest

/-- The conditions of a generating clause. -/
def conditions : (fuel : Nat) → List Token → Option (List Token)
  | 0, _ => none
  | fuel + 1, ts =>
    match afterWord "if" ts with
    | some rest => do
      let (_, rest) ← disjunction fuel rest
      conditions fuel rest
    | none => some ts

/-- The targets of a generating clause. -/
def targets : (fuel : Nat) → List Token → Option (List Token)
  | 0, _ => none
  | fuel + 1, ts => do
    let rest ← starTarget fuel ts
    match afterSign "," rest with
    | some rest =>
      match afterWord "in" rest with
      | some _ => some rest
      | none => targets fuel rest
    | none => some rest

/-- A target, starred or not. -/
def starTarget : (fuel : Nat) → List Token → Option (List Token)
  | 0, _ => none
  | fuel + 1, ts => target fuel ((afterSign "*" ts).getD ts)

/-- A target: a name, an attribute, a subscript or bracketed targets. -/
def target : (fuel : Nat) → List Token → Option (List Token)
  | 0, _ => none
  | fuel + 1, ts =>
    match primary fuel ts with
    | some (.name, rest) => some rest
    | some (construct "Attribute", rest) => some rest
    | some (construct "Subscript", rest) => some rest
    | some (construct "Tuple", rest) =>
      match afterSign "(" ts with
      | some inner => if (bracketedTargets fuel ")" inner).isSome then some rest else none
      | none => none
    | some (construct "List", rest) =>
      match afterSign "[" ts with
      | some inner => if (bracketedTargets fuel "]" inner).isSome then some rest else none
      | none => none
    | _ => none

/-- Targets up to a closing bracket. -/
def bracketedTargets : (fuel : Nat) → (closer : String) → List Token → Option (List Token)
  | 0, _, _ => none
  | fuel + 1, closer, ts =>
    match afterSign closer ts with
    | some rest => some rest
    | none => do
      let rest ← starTarget fuel ts
      match afterSign "," rest with
      | some rest => bracketedTargets fuel closer rest
      | none => afterSign closer rest

/-- A name, a constant, or something in brackets. -/
def atom : (fuel : Nat) → Reader
  | 0, _ => none
  | fuel + 1, ts =>
    match ts with
    | [] => none
    | t :: rest =>
      match t with
      | .int _ => some (number, rest)
      | .float _ => some (number, rest)
      | .imaginary x => some (constant (imaginaryText x), rest)
      | .word chars =>
        if isKeyword chars then
          if isWord "True" t || isWord "False" t || isWord "None" t then
            some (constant (String.ofList chars), rest)
          else none
        else some (name, rest)
      | .text _ | .bytes _ | .template _ _ =>
        let (run, rest) := texts ts
        (textConstant fuel run).map (·, rest)
      | .sign ['.', '.', '.'] => some (constant "Ellipsis", rest)
      | .sign ['('] => parenthesized fuel rest
      | .sign ['['] => bracketed fuel rest
      | .sign ['\x7b'] => braced fuel rest
      | _ => none

/-- Texts that stand side by side: all bytes, or none. -/
def textConstant : (fuel : Nat) → List Token → Option Outline
  | 0, _ => none
  | fuel + 1, run =>
    let byteRuns := run.filterMap fun
      | .bytes points => some points
      | _ => none
    if byteRuns.length = run.length then some (constant (bytesText byteRuns.flatten))
    else if byteRuns ≠ [] then none
    else if run.any (fun | .template _ _ => true | _ => false) then
      match templates fuel run with
      | true => some (construct "JoinedStr")
      | false => none
    else some (constant (String.ofList (Text.quotePoints (run.flatMap fun
      | .text points => points
      | _ => []))))

/-- Whether the expressions in all template texts are well formed. -/
def templates : (fuel : Nat) → List Token → Bool
  | 0, _ => false
  | _, [] => true
  | fuel + 1, t :: rest =>
    match t with
    | .template raw content =>
      match templateExpressions raw content with
      | some lists =>
        lists.all (fun ts => (match atom fuel ts with | some (_, []) => true | _ => false)) && templates fuel rest
      | none => false
    | _ => templates fuel rest

/-- What follows an opening parenthesis. -/
def parenthesized : (fuel : Nat) → Reader
  | 0, _ => none
  | fuel + 1, ts =>
    match afterSign ")" ts with
    | some rest => some (construct "Tuple", rest)
    | none =>
      match afterWord "yield" ts with
      | some rest => do
        let (e, rest) ← yielded fuel rest
        let rest ← afterSign ")" rest
        some (e, rest)
      | none => do
        let (e, rest) ← item fuel ts
        let starred := (afterSign "*" ts).isSome
        if startsClause rest && !starred then do
          let rest ← clauses fuel rest
          let rest ← afterSign ")" rest
          some (construct "GeneratorExp", rest)
        else match afterSign ")" rest with
          | some rest => if starred then none else some (e, rest)
          | none => (items fuel ")" rest).map fun rest => (construct "Tuple", rest)

/-- What is yielded. -/
def yielded : (fuel : Nat) → Reader
  | 0, _ => none
  | fuel + 1, ts =>
    match afterWord "from" ts with
    | some rest => (expression fuel rest).map fun (_, rest) => (construct "YieldFrom", rest)
    | none =>
      match afterSign ")" ts with
      | some _ => some (construct "Yield", ts)
      | none => (yieldedItems fuel ts).map fun rest => (construct "Yield", rest)

/-- Expressions, starred or not, up to a closing parenthesis. -/
def yieldedItems : (fuel : Nat) → List Token → Option (List Token)
  | 0, _ => none
  | fuel + 1, ts => do
    let rest ← match afterSign "*" ts with
      | some rest => (operations fuel 1 rest).map Prod.snd
      | none => (expression fuel ts).map Prod.snd
    match afterSign "," rest with
    | some rest => if (afterSign ")" rest).isSome then some rest else yieldedItems fuel rest
    | none => some rest

/-- What follows an opening bracket. -/
def bracketed : (fuel : Nat) → Reader
  | 0, _ => none
  | fuel + 1, ts =>
    match afterSign "]" ts with
    | some rest => some (construct "List", rest)
    | none => do
      let (_, rest) ← item fuel ts
      if startsClause rest && (afterSign "*" ts).isNone then do
        let rest ← clauses fuel rest
        let rest ← afterSign "]" rest
        some (construct "ListComp", rest)
      else (items fuel "]" rest).map fun rest => (construct "List", rest)

/-- What follows an opening brace. -/
def braced : (fuel : Nat) → Reader
  | 0, _ => none
  | fuel + 1, ts =>
    match afterSign "\x7d" ts with
    | some rest => some (construct "Dict", rest)
    | none =>
      match afterSign "**" ts with
      | some _ => (entries fuel ts).map fun rest => (construct "Dict", rest)
      | none => do
        let (_, rest) ← item fuel ts
        let plainKey := (expression fuel ts).any fun (_, after) => after == rest
        match (if plainKey then afterSign ":" rest else none) with
        | some rest => do
          let (_, rest) ← expression fuel rest
          if startsClause rest then do
            let rest ← clauses fuel rest
            let rest ← afterSign "\x7d" rest
            some (construct "DictComp", rest)
          else match afterSign "," rest with
            | some rest => (entries fuel rest).map fun rest => (construct "Dict", rest)
            | none => (afterSign "\x7d" rest).map fun rest => (construct "Dict", rest)
        | none =>
          if startsClause rest && (afterSign "*" ts).isNone then do
            let rest ← clauses fuel rest
            let rest ← afterSign "\x7d" rest
            some (construct "SetComp", rest)
          else (items fuel "\x7d" rest).map fun rest => (construct "Set", rest)

/-- The entries of a mapping up to its closing brace. -/
def entries : (fuel : Nat) → List Token → Option (List Token)
  | 0, _ => none
  | fuel + 1, ts =>
    match afterSign "\x7d" ts with
    | some rest => some rest
    | none => do
      let rest ← match afterSign "**" ts with
        | some rest => (operations fuel 1 rest).map Prod.snd
        | none => do
          let (_, rest) ← expression fuel ts
          let rest ← afterSign ":" rest
          (expression fuel rest).map Prod.snd
      match afterSign "," rest with
      | some rest => entries fuel rest
      | none => afterSign "\x7d" rest

end

/-- Expressions separated by commas, to the end. -/
def expressions : (fuel : Nat) → (first : Bool) → List Token → Option Outline
  | 0, _, _ => none
  | fuel + 1, first, ts => do
    let (e, rest) ← expression fuel ts
    match rest with
    | [] => some (if first then e else construct "Tuple")
    | _ =>
      let rest ← afterSign "," rest
      match rest with
      | [] => some (construct "Tuple")
      | _ => expressions fuel false rest

end Outline

/-- Why the tokens of a text are no arithmetic. -/
def diagnose (ts : List Token) : Reason :=
  match Outline.expressions (40 * ts.length + 100) true ts with
  | none => .notExpression
  | some outline => (Outline.firstFault? (ts.length + 2) [outline]).getD .notExpression

end Expression

end ProductLine
