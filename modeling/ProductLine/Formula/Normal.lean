import ProductLine.Error
import ProductLine.Text.Blank

/-!
# Normal texts of formulas

A formula may be written with doubled operators, an exclamation mark for negation and truth values in any
case. Its normal text has single operators, a tilde, truth values in capitals and single spaces. A text
without any word, with a character outside the alphabet or with unbalanced parentheses is refused.
-/

namespace ProductLine

namespace Formula

/-- Whether a character belongs to words: names, numbers and truth values. -/
def isWord (c : Char) : Bool := c.isAlphanum || c == '_'

/-- Whether a character may stand in a formula. -/
def isAllowed (c : Char) : Bool :=
  isWord c || Text.isBlank c || ['(', ')', '&', '|', '!', '~', '/', '\\', '<', '>', '=', '^', ',', '-'].contains c

/-- Whether parentheses are balanced, `depth` of them being open. -/
def balanced : (depth : Nat) → List Char → Bool
  | depth, [] => depth == 0
  | depth, c :: rest =>
    if c = '(' then balanced (depth + 1) rest
    else if c = ')' then
      match depth with
      | 0 => false
      | depth + 1 => balanced depth rest
    else balanced depth rest

/-- Each two neighbouring copies of a character, read from the left, become one. -/
def halve (c : Char) : List Char → List Char
  | [] => []
  | [d] => [d]
  | d :: e :: rest => if d = c ∧ e = c then c :: halve c rest else d :: halve c (e :: rest)

/-- A word, a truth value put into capitals. -/
def capitalize (word : List Char) : List Char :=
  if word.map Char.toLower = ['t', 'r', 'u', 'e'] ∨ word.map Char.toLower = ['f', 'a', 'l', 's', 'e'] then
    word.map Char.toUpper
  else word

/-- Changes every word of a text by `f`, `word` being the one that was begun, read backwards. -/
def mapWords (f : List Char → List Char) : (word : List Char) → List Char → List Char
  | word, [] => f word.reverse
  | word, c :: rest =>
    if isWord c then mapWords f (c :: word) rest
    else f word.reverse ++ c :: mapWords f [] rest

/-- The normal text of a text that may be a formula. -/
def respell (cs : List Char) : List Char :=
  mapWords capitalize []
    (((halve '|' (halve '&' (Text.squeeze cs))).map fun c => if c = '!' then '~' else c))

/-- The normal text of a formula, or why the text is none. -/
def normalize (s : String) : Except Error String :=
  let stripped := Text.trim s.toList
  if stripped = [] then .error (.malformed s .emptyFormula)
  else match stripped.find? (!isAllowed ·) with
    | some c => .error (.malformed s (.illegalCharacter c))
    | none =>
      if balanced 0 stripped then .ok (String.ofList (respell stripped))
      else .error (.malformed (String.ofList stripped) .unbalanced)

/-- The words of a text, `word` being the one that was begun, read backwards. -/
def words : (word : List Char) → List Char → List (List Char)
  | word, [] => if word = [] then [] else [word.reverse]
  | word, c :: rest =>
    if isWord c then words (c :: word) rest
    else (if word = [] then [] else [word.reverse]) ++ words [] rest

/-- The words that are no feature names. -/
def reserved : List String := ["ite", "TRUE", "FALSE"]

/-- The list without the texts that stand earlier in it or in `seen`. -/
def distinct : (seen : List String) → List String → List String
  | _, [] => []
  | seen, s :: rest => if seen.contains s then distinct seen rest else s :: distinct (s :: seen) rest

/-- The feature names in a text, in order of first appearance. Digits before a name do not belong to it. -/
def features (s : String) : List String :=
  distinct [] (((words [] s.toList).map fun w => String.ofList (w.dropWhile Char.isDigit)).filter fun w =>
    w ≠ "" ∧ !reserved.contains w)

end Formula

end ProductLine
