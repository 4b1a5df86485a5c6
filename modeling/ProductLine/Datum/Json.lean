import ProductLine.Datum.Basic

/-!
# Data as JSON text

A JSON text stands for one datum. A number without point and exponent is an integer, any other number is
binary64; the words for infinities and for no number are accepted. Tokens are read from left to right, and
lists and mappings that are open stand on a stack, the innermost first.
-/

namespace ProductLine

namespace Json

/-- A token: a scalar or a mark. -/
inductive Token where
  | scalar (value : Datum)
  | mark (c : Char)
deriving Inhabited

/-- The value of a hexadecimal digit. -/
def hexValue? (c : Char) : Option Nat :=
  if c.isDigit then some (c.toNat - 48)
  else if 'a' ≤ c ∧ c ≤ 'f' then some (c.toNat - 87)
  else if 'A' ≤ c ∧ c ≤ 'F' then some (c.toNat - 55)
  else none

/-- The number of some hexadecimal digits. -/
def hexNumber? (cs : List Char) : Option Nat :=
  cs.foldl (fun sum c => sum.bind fun n => (hexValue? c).map (n * 16 + ·)) (some 0)

/-- The characters that an escaped letter stands for. -/
def letterEscapes : List (Char × Nat) :=
  [('"', 34), ('\\', 92), ('/', 47), ('b', 8), ('f', 12), ('n', 10), ('r', 13), ('t', 9)]

/-- The code units of a text up to its closing quote, and what follows. -/
def body : List Char → Option (List Nat × List Char)
  | [] => none
  | '"' :: rest => some ([], rest)
  | '\\' :: 'u' :: a :: b :: c :: d :: rest => do
    let n ← hexNumber? [a, b, c, d]
    let (units, rest) ← body rest
    return (n :: units, rest)
  | '\\' :: c :: rest => do
    let n ← letterEscapes.lookup c
    let (units, rest) ← body rest
    return (n :: units, rest)
  | c :: rest =>
    if c = '\\' ∨ c.toNat < 32 then none
    else do
      let (units, rest) ← body rest
      return (c.toNat :: units, rest)

/-- Joins each pair of code units that stand for one character. -/
def joinPairs : List Nat → List Char
  | [] => []
  | [n] => [Char.ofNat n]
  | n :: m :: rest =>
    if 0xd800 ≤ n ∧ n < 0xdc00 ∧ 0xdc00 ≤ m ∧ m < 0xe000 then
      Char.ofNat (0x10000 + (n - 0xd800) * 1024 + (m - 0xdc00)) :: joinPairs rest
    else Char.ofNat n :: joinPairs (m :: rest)

/-- The number of some digits. -/
def natural (digits : List Char) : Nat := digits.foldl (fun n c => n * 10 + (c.toNat - 48)) 0

/-- The digits of a fraction if one follows, and what comes after it. -/
def fraction? : List Char → Option (List Char × List Char)
  | '.' :: c :: rest =>
    if c.isDigit then some (c :: rest.takeWhile Char.isDigit, rest.dropWhile Char.isDigit) else none
  | _ => none

/-- An exponent if one follows, and what comes after it. -/
def exponent? (cs : List Char) : Option (Int × List Char) :=
  let number (negative : Bool) (cs : List Char) : Option (Int × List Char) :=
    match cs with
    | c :: rest =>
      if c.isDigit then
        let n : Int := natural (c :: rest.takeWhile Char.isDigit)
        some (if negative then -n else n, rest.dropWhile Char.isDigit)
      else none
    | [] => none
  match cs with
  | 'e' :: '+' :: rest => number false rest
  | 'E' :: '+' :: rest => number false rest
  | 'e' :: '-' :: rest => number true rest
  | 'E' :: '-' :: rest => number true rest
  | 'e' :: rest => number false rest
  | 'E' :: rest => number false rest
  | _ => none

/-- The number that begins a text, without its sign. -/
def number (negative : Bool) (cs : List Char) : Option (Datum × List Char) :=
  let digits := cs.takeWhile Char.isDigit
  let whole := if digits.head? = some '0' then ['0'] else digits
  let rest := cs.drop whole.length
  if whole = [] then none
  else
    let (places, afterFraction) := (fraction? rest).getD ([], rest)
    let (power, after) := (exponent? afterFraction).getD (0, afterFraction)
    if afterFraction.length = rest.length ∧ after.length = rest.length then
      some (.int (if negative then -(natural whole : Int) else natural whole), rest)
    else some (.float (.ofDecimal negative (natural (whole ++ places)) (power - places.length)), after)

/-- The words that are scalars. -/
def words : List (String × Datum) :=
  [("null", .null), ("true", .bool true), ("false", .bool false), ("NaN", .float .nan),
    ("Infinity", .float (.infinite false)), ("-Infinity", .float (.infinite true))]

/-- The token that begins a text, and what follows. -/
def next (cs : List Char) : Option (Token × List Char) :=
  match words.find? fun w => w.1.toList.isPrefixOf cs with
  | some (w, value) => some (.scalar value, cs.drop w.length)
  | none =>
    match cs with
    | '"' :: rest => (body rest).map fun (units, rest) => (.scalar (.text (String.ofList (joinPairs units))), rest)
    | '-' :: rest => (number true rest).map fun (d, rest) => (.scalar d, rest)
    | c :: rest =>
      if ['[', ']', '\x7b', '\x7d', ',', ':'].contains c then some (.mark c, rest)
      else (number false cs).map fun (d, rest) => (.scalar d, rest)
    | [] => none

/-- Whether a character may stand between tokens. -/
def isSpace (c : Char) : Bool := c = ' ' || c = '\t' || c = '\n' || c = '\r'

/-- The tokens of a text that has at most `fuel` of them. -/
def tokens : (fuel : Nat) → List Char → Option (List Token)
  | 0, _ => none
  | fuel + 1, cs =>
    match cs.dropWhile isSpace with
    | [] => some []
    | cs => do
      let (token, rest) ← next cs
      return token :: (← tokens fuel rest)

/-- A list or mapping that is open, what it holds read backwards. -/
inductive Frame where
  | list (items : List Datum)
  | map (entries : List (Datum × Datum)) (key : String)

/-- What may come next. -/
inductive Expect where
  | value
  | firstItem
  | firstKey
  | key (entries : List (Datum × Datum))
  | colon (entries : List (Datum × Datum)) (key : String)
  | after (value : Datum)

/-- Reads the tokens that follow, given what is expected and what is open. -/
def read : Expect → List Frame → List Token → Option Datum
  | .after d, [], [] => some d
  | _, _, [] => none
  | expect, stack, token :: rest =>
    match expect, stack, token with
    | .value, _, .scalar d => read (.after d) stack rest
    | .value, _, .mark '[' => read .firstItem stack rest
    | .value, _, .mark '\x7b' => read .firstKey stack rest
    | .firstItem, _, .mark ']' => read (.after (.list [])) stack rest
    | .firstItem, _, .scalar d => read (.after d) (.list [] :: stack) rest
    | .firstItem, _, .mark '[' => read .firstItem (.list [] :: stack) rest
    | .firstItem, _, .mark '\x7b' => read .firstKey (.list [] :: stack) rest
    | .firstKey, _, .mark '\x7d' => read (.after (.map [])) stack rest
    | .firstKey, _, .scalar (.text key) => read (.colon [] key) stack rest
    | .key entries, _, .scalar (.text key) => read (.colon entries key) stack rest
    | .colon entries key, _, .mark ':' => read .value (.map entries key :: stack) rest
    | .after d, .list items :: stack, .mark ',' => read .value (.list (d :: items) :: stack) rest
    | .after d, .list items :: stack, .mark ']' => read (.after (.list (d :: items).reverse)) stack rest
    | .after d, .map entries key :: stack, .mark ',' => read (.key ((.text key, d) :: entries)) stack rest
    | .after d, .map entries key :: stack, .mark '\x7d' =>
      read (.after (.map ((.text key, d) :: entries).reverse)) stack rest
    | _, _, _ => none

end Json

/-- The datum of a JSON text. -/
def Datum.ofJson? (s : String) : Option Datum :=
  (Json.tokens (s.length + 1) s.toList).bind (Json.read .value [])

end ProductLine
