import ProductLine.Formula.Basic
import ProductLine.Formula.Normal

/-!
# Tokens of formulas

The words and signs that a normal text consists of. A connective has several spellings; each token has one
text, by which an error names it.
-/

namespace ProductLine

namespace Formula

/-- A word or sign of a formula. -/
inductive Token where
  | name (text : String)
  | number (text : String)
  | truth (value : Bool)
  | choice
  | connective (c : Connective)
  | equal
  | not
  | opening
  | closing
  | comma
  | slash
  | forAll
  | forSome
  | rename
deriving DecidableEq

namespace Token

/-- The text by which an error names a token. -/
def text : Token → String
  | name text => text
  | number text => text
  | truth true => "TRUE"
  | truth false => "FALSE"
  | choice => "ite"
  | connective .iff => "<->"
  | connective .implies => "=>"
  | connective .minus => "-"
  | connective .xor => "^"
  | connective .or => "|"
  | connective .and => "&"
  | equal => "="
  | not => "!"
  | opening => "("
  | closing => ")"
  | comma => ","
  | slash => "/"
  | forAll => "\\A"
  | forSome => "\\E"
  | rename => "\\S"

/-- The token of a word that begins with a letter or an underscore. -/
def ofWord (word : List Char) : Token :=
  if word = ['i', 't', 'e'] then choice
  else if word = ['T', 'R', 'U', 'E'] then truth true
  else if word = ['F', 'A', 'L', 'S', 'E'] then truth false
  else name (String.ofList word)

/-- The sign that begins with a character, and how many of the following characters belong to it. -/
def sign? : Char → List Char → Option (Token × Nat)
  | '&', '&' :: _ => some (connective .and, 1)
  | '&', _ => some (connective .and, 0)
  | '/', '\\' :: _ => some (connective .and, 1)
  | '|', '|' :: _ => some (connective .or, 1)
  | '|', _ => some (connective .or, 0)
  | '\\', '/' :: _ => some (connective .or, 1)
  | '~', _ => some (not, 0)
  | '!', _ => some (not, 0)
  | '=', '>' :: _ => some (connective .implies, 1)
  | '-', '>' :: _ => some (connective .implies, 1)
  | '<', '=' :: '>' :: _ => some (connective .iff, 2)
  | '<', '-' :: '>' :: _ => some (connective .iff, 2)
  | '\\', 'A' :: _ => some (forAll, 1)
  | '\\', 'E' :: _ => some (forSome, 1)
  | '\\', 'S' :: _ => some (rename, 1)
  | '^', _ => some (connective .xor, 0)
  | '=', _ => some (equal, 0)
  | '(', _ => some (opening, 0)
  | ')', _ => some (closing, 0)
  | '-', _ => some (connective .minus, 0)
  | ',', _ => some (comma, 0)
  | '/', _ => some (slash, 0)
  | _, _ => none

/-- Whether a character begins a name. -/
def isNameStart (c : Char) : Bool := c.isAlpha || c == '_'

/-- The tokens of a text up to the first character that begins none, and that character. -/
def scan : List Char → List Token × Option Char
  | [] => ([], none)
  | c :: rest =>
    if c = ' ' then scan rest
    else if isNameStart c then
      let (tokens, bad) := scan (rest.dropWhile isWord)
      (ofWord (c :: rest.takeWhile isWord) :: tokens, bad)
    else if c.isDigit then
      let (tokens, bad) := scan (rest.dropWhile Char.isDigit)
      (number (String.ofList (c :: rest.takeWhile Char.isDigit)) :: tokens, bad)
    else
      match sign? c rest with
      | some (token, more) =>
        let (tokens, bad) := scan (rest.drop more)
        (token :: tokens, bad)
      | none => ([], some c)
termination_by cs => cs.length
decreasing_by
  all_goals simp only [List.length_cons, List.length_drop]
  · omega
  · exact Nat.lt_succ_of_le (List.dropWhile_sublist _).length_le
  · exact Nat.lt_succ_of_le (List.dropWhile_sublist _).length_le
  · omega

end Token

end Formula

end ProductLine
