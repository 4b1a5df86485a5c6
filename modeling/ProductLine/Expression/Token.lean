import ProductLine.Binary64.Basic
import ProductLine.Text.Blank
import ProductLine.Text.Form.Normal
import ProductLine.Text.Name

/-!
# Tokens of expressions

The numbers, words, texts and signs that the lines of an expression consist of. Line ends separate lines
only outside brackets. Texts and signs beyond arithmetic are read too, so that it can be told whether an
expression asks for something unsupported or is none at all.
-/

namespace ProductLine

namespace Expression

/-- A token of an expression. -/
inductive Token where
  | int (value : Nat)
  | float (value : Binary64)
  | imaginary (value : Binary64)
  | word (chars : List Char)
  | text (points : List Nat)
  | bytes (points : List Nat)
  | template (raw : Bool) (body : List Char)
  | sign (chars : List Char)
  | lineEnd
deriving DecidableEq

namespace Token

/-- Whether a character can be part of a word. -/
def isWordChar (c : Char) : Bool := c.isAlphanum || c == '_' || 128 ≤ c.toNat

/-- The value of digits in a base. -/
def value (base : Nat) (digits : List Char) : Nat :=
  digits.foldl (fun n c => n * base + (if c.isDigit then c.toNat - 48 else c.toLower.toNat - 87)) 0

/-- A run of digits with single underscores before or between them, and the rest; nothing if an underscore is
not followed by a digit. -/
def digitRun (isDigit : Char → Bool) : List Char → Option (List Char × List Char)
  | [] => some ([], [])
  | c :: rest =>
    if isDigit c then (digitRun isDigit rest).map fun (run, rest) => (c :: run, rest)
    else if c = '_' then
      match rest with
      | d :: _ => if isDigit d then digitRun isDigit rest else none
      | [] => none
    else some ([], c :: rest)

/-- The words that may follow a number without a blank. -/
def followers : List (List Char) :=
  [['a', 'n', 'd'], ['e', 'l', 's', 'e'], ['f', 'o', 'r'], ['i', 'f'], ['i', 'n'], ['i', 's'], ['o', 'r'],
   ['n', 'o', 't']]

/-- Whether a number may end before a text. -/
def endsNumber (rest : List Char) : Bool :=
  followers.any (·.isPrefixOf rest) ||
    match rest with
    | c :: _ => !isWordChar c
    | [] => true

/-- The exponent of a number: its value and the rest, nothing of it if no digits follow. -/
def exponent (cs : List Char) : Option (Option Int × List Char) :=
  match cs with
  | e :: rest =>
    if e = 'e' || e = 'E' then
      let (negative, signed, digits) := match rest with
        | '-' :: more => (true, true, more)
        | '+' :: more => (false, true, more)
        | more => (false, false, more)
      match digits with
      | d :: _ =>
        if d.isDigit then
          (digitRun Char.isDigit digits).map fun (run, rest) =>
            (some (if negative then -(value 10 run : Int) else value 10 run), rest)
        else if signed then none else some (none, cs)
      | [] => if signed then none else some (none, cs)
    else some (none, cs)
  | [] => some (none, cs)

/-- Ends a number at the rest of a text: an imaginary unit may follow. -/
def finish (plain : Option Token) (imaginaryPart : Binary64) (rest : List Char) : Option (Token × List Char) :=
  match rest with
  | c :: more =>
    if c = 'j' || c = 'J' then
      if endsNumber more then some (imaginary imaginaryPart, more) else none
    else if endsNumber rest then plain.map (·, rest) else none
  | [] => plain.map (·, rest)

/-- The whole digits that a number may have at most. -/
def maxDigits : Nat := 4300

/-- The rest of a number after its whole digits. -/
def decimal (whole : List Char) (rest : List Char) : Option (Token × List Char) := do
  let (isFloat, fraction, rest) ← match rest with
    | '.' :: more => (digitRun Char.isDigit (match more with | '_' :: _ => [] | _ => more)).map fun (run, tail) =>
        (true, run, match more with | '_' :: _ => more | _ => tail)
    | _ => some (false, [], rest)
  let (power, rest) ← exponent rest
  let digits := value 10 (whole ++ fraction)
  let x := Binary64.ofDecimal false digits (power.getD 0 - fraction.length)
  let plain :=
    if isFloat || power.isSome then some (float x)
    else if (whole.head? = some '0' && whole.any (· != '0')) || maxDigits < whole.length then none
    else some (int digits)
  finish plain x rest

/-- A whole number in another base, whose mark was read. Its first digit may have an underscore before it. -/
def based (base : Nat) (isDigit : Char → Bool) (cs : List Char) : Option (Token × List Char) := do
  let (run, rest) ← digitRun isDigit cs
  if run = [] || !endsNumber rest then none else some (int (value base run), rest)

/-- Whether a character is a digit in base 16. -/
def isHexDigit (c : Char) : Bool := c.isDigit || ('a' ≤ c && c ≤ 'f') || ('A' ≤ c && c ≤ 'F')

/-- The number at the start of a text, and the rest. -/
def number (cs : List Char) : Option (Token × List Char) :=
  match cs with
  | '0' :: m :: rest =>
    if m = 'x' || m = 'X' then based 16 isHexDigit rest
    else if m = 'o' || m = 'O' then based 8 (fun c => '0' ≤ c && c ≤ '7') rest
    else if m = 'b' || m = 'B' then based 2 (fun c => c == '0' || c == '1') rest
    else (digitRun Char.isDigit cs).bind fun (whole, rest) => decimal whole rest
  | '.' :: _ => decimal [] cs
  | _ => (digitRun Char.isDigit cs).bind fun (whole, rest) => decimal whole rest

/-- The body of a text up to its closing quotes, escapes left as they are, and the rest. -/
def body (quote : Char) (tripled : Bool) : List Char → Option (List Char × List Char)
  | [] => none
  | '\\' :: c :: rest => (body quote tripled rest).map fun (b, rest) => ('\\' :: c :: b, rest)
  | c :: rest =>
    if tripled then
      if c = quote && [quote, quote].isPrefixOf rest then some ([], rest.drop 2)
      else (body quote tripled rest).map fun (b, rest) => (c :: b, rest)
    else if c = quote then some ([], rest)
    else if c = '\n' then none
    else (body quote tripled rest).map fun (b, rest) => (c :: b, rest)

/-- The value of up to `most` octal digits at the start of a text, and the rest. -/
def octal : (most : Nat) → (sum : Nat) → List Char → Nat × List Char
  | most + 1, sum, c :: rest =>
    if '0' ≤ c && c ≤ '7' then octal most (sum * 8 + (c.toNat - 48)) rest else (sum, c :: rest)
  | _, sum, rest => (sum, rest)

/-- Behind octal digits no more is left than there was. -/
theorem octal_length (most sum : Nat) (cs : List Char) : (octal most sum cs).2.length ≤ cs.length := by
  fun_induction octal most sum cs <;> simp_all
  omega

/-- The escapes of one letter, with the code points they stand for. -/
def letterEscapes : List (Char × Nat) :=
  [('\\', 92), ('\'', 39), ('"', 34), ('a', 7), ('b', 8), ('f', 12), ('n', 10), ('r', 13), ('t', 9), ('v', 11)]

/-- Whether that many digits of a code point in base 16 follow. -/
def hasHex (count : Nat) (rest : List Char) : Bool :=
  let digits := rest.take count
  digits.length == count && digits.all isHexDigit && value 16 digits < 0x110000

/-- Whether the escape of a character, which stands before `rest`, is one. -/
def escapeFits (c : Char) (rest : List Char) : Bool :=
  match c with
  | 'x' => hasHex 2 rest
  | 'u' => hasHex 4 rest
  | 'U' => hasHex 8 rest
  | 'N' => false
  | _ => true

/-- The code points of a body with its escapes resolved; in bytes only ASCII and short escapes count. -/
def unescape (inBytes : Bool) : List Char → Option (List Nat)
  | [] => some []
  | '\\' :: c :: rest =>
    let hex (count : Nat) : Option (List Nat) :=
      if hasHex count rest then (unescape inBytes (rest.drop count)).map (value 16 (rest.take count) :: ·) else none
    if c = '\n' then unescape inBytes rest
    else if '0' ≤ c && c ≤ '7' then
      have := octal_length 2 (c.toNat - 48) rest
      (unescape inBytes (octal 2 (c.toNat - 48) rest).2).map
        ((if inBytes then (octal 2 (c.toNat - 48) rest).1 % 256 else (octal 2 (c.toNat - 48) rest).1) :: ·)
    else if c = 'x' then hex 2
    else if c = 'u' && !inBytes then hex 4
    else if c = 'U' && !inBytes then hex 8
    else if c = 'N' && !inBytes then none
    else match letterEscapes.lookup c with
      | some n => (unescape inBytes rest).map (n :: ·)
      | none =>
        if inBytes && 128 ≤ c.toNat then none
        else (unescape inBytes rest).map (92 :: c.toNat :: ·)
  | c :: rest =>
    if inBytes && 128 ≤ c.toNat then none else (unescape inBytes rest).map (c.toNat :: ·)
termination_by cs => cs.length
decreasing_by
  all_goals simp only [List.length_cons, List.length_drop]
  all_goals omega

/-- The marks that may stand before a text: whether it is raw, bytes and a template. -/
def marks (word : List Char) : Option (Bool × Bool × Bool) :=
  match word.map Char.toLower with
  | [] => some (false, false, false)
  | ['u'] => some (false, false, false)
  | ['r'] => some (true, false, false)
  | ['b'] => some (false, true, false)
  | ['f'] => some (false, false, true)
  | ['b', 'r'] => some (true, true, false)
  | ['r', 'b'] => some (true, true, false)
  | ['f', 'r'] => some (true, false, true)
  | ['r', 'f'] => some (true, false, true)
  | _ => none

/-- The text that begins with a quote, and the rest. -/
def quoted (raw inBytes isTemplate : Bool) (quote : Char) (rest : List Char) : Option (Token × List Char) := do
  let tripled := [quote, quote].isPrefixOf rest
  let (content, rest) ← body quote tripled (if tripled then rest.drop 2 else rest)
  if isTemplate then some (template raw content, rest)
  else if inBytes then
    if raw then if content.all (·.toNat < 128) then some (bytes (content.map Char.toNat), rest) else none
    else (unescape true content).map fun points => (bytes points, rest)
  else if raw then some (text (content.map Char.toNat), rest)
  else (unescape false content).map fun points => (text points, rest)

/-- The signs of several characters, longest first. -/
def longSigns : List (List Char) :=
  [['*', '*', '='], ['/', '/', '='], ['>', '>', '='], ['<', '<', '='], ['.', '.', '.'],
   ['*', '*'], ['/', '/'], ['>', '>'], ['<', '<'], ['<', '='], ['>', '='], ['=', '='], ['!', '='], ['-', '>'],
   ['+', '='], ['-', '='], ['*', '='], ['/', '='], ['%', '='], ['&', '='], ['|', '='], ['@', '='], [':', '=']]

/-- The characters that are signs alone. -/
def shortSigns : List Char :=
  ['+', '-', '*', '/', '%', '@', '&', '|', '~', '<', '>', '(', ')', '[', ']', '\x7b', '\x7d',
    ',', ':', '.', ';', '=']

/-- The sign at the start of a text, and the rest. -/
def signAt (cs : List Char) : Option (Token × List Char) :=
  match longSigns.find? (·.isPrefixOf cs) with
  | some s => some (sign s, cs.drop s.length)
  | none =>
    match cs with
    | c :: rest => if shortSigns.contains c then some (sign [c], rest) else none
    | [] => none

/-- The number, word, text or sign at the start of a text, and the rest. -/
def next (cs : List Char) : Option (Token × List Char) :=
  match cs with
  | [] => none
  | c :: rest =>
    if c.isDigit || (c = '.' && (match rest with | d :: _ => d.isDigit | [] => false)) then number cs
    else if c = '"' || c = '\'' then quoted false false false c rest
    else if isWordChar c then
      let chars := cs.takeWhile isWordChar
      let rest := cs.dropWhile isWordChar
      match rest with
      | q :: more =>
        if q = '"' || q = '\'' then
          match marks chars with
          | some (raw, inBytes, isTemplate) => quoted raw inBytes isTemplate q more
          | none => if Text.isName chars then some (word chars, rest) else none
        else if Text.isName chars then some (word chars, rest) else none
      | [] => if Text.isName chars then some (word chars, rest) else none
    else signAt cs

/-- The bracket that closes another. -/
def closerOf? (c : Char) : Option Char :=
  if c = '(' then some ')' else if c = '[' then some ']' else if c = '\x7b' then some '\x7d' else none

/-- The brackets that are open after a token, the innermost first, if the token fits. -/
def nest (open_ : List Char) : Token → Option (List Char)
  | sign [c] =>
    match closerOf? c with
    | some closer => if open_.length < 200 then some (closer :: open_) else none
    | none =>
      if [')', ']', '\x7d'].contains c then
        match open_ with
        | d :: rest => if c = d then some rest else none
        | [] => none
      else some open_
  | _ => some open_

/-- The tokens of a text, `open_` being the closing brackets that must come, `fresh` saying that no token
stands on the line yet and `indented` that a blank stands before. -/
def scan : (fuel : Nat) → (open_ : List Char) → (fresh indented : Bool) → List Char → Option (List Token)
  | 0, _, _, _, _ => none
  | _, open_, _, _, [] => if open_ = [] then some [] else none
  | fuel + 1, open_, fresh, indented, c :: rest =>
    if c = ' ' || c = '\t' then scan fuel open_ fresh true rest
    else if c = '\x0c' then scan fuel open_ fresh false rest
    else if c = '#' then scan fuel open_ fresh false (rest.dropWhile (· != '\n'))
    else if c = '\n' then
      if open_ = [] then
        if fresh then scan fuel open_ true false rest
        else (scan fuel open_ true false rest).map (lineEnd :: ·)
      else scan fuel open_ fresh false rest
    else if c = '\\' then
      match rest with
      | '\n' :: d :: more => scan fuel open_ fresh indented (d :: more)
      | _ => none
    else if fresh && indented && open_ = [] then none
    else
      match next (c :: rest) with
      | none => none
      | some (token, rest) =>
        match nest open_ token with
        | none => none
        | some open_ => (scan fuel open_ false false rest).map (token :: ·)

end Token

/-- The tokens of an expression, without line ends behind the last one. -/
def tokens (cs : List Char) : Option (List Token) :=
  let lines := Text.unifyLines cs
  (Token.scan (lines.length + 1) [] true false lines).map fun ts =>
    (ts.reverse.dropWhile (· == .lineEnd)).reverse

end Expression

end ProductLine
