import ProductLine.Binary64.Basic

/-!
# Kinds of YAML nodes

Every node has a tag that says what it stands for. A plain scalar without a tag gets one from its text: it
may be a number, a truth value, a date or nothing, and is a text otherwise.
-/

namespace ProductLine

namespace Yaml

/-- What a node stands for. -/
inductive Tag where
  | null
  | truth
  | integer
  | float
  | bytes
  | date
  | orderedMap
  | pairs
  | set
  | text
  | list
  | map
  | merge
  | value
  | unknown
deriving DecidableEq, Inhabited

namespace Tag

/-- How the names of the common tags begin. -/
def common : String := "tag:yaml.org,2002:"

/-- The common tags. -/
def named : List (String × Tag) :=
  [("null", null), ("bool", truth), ("int", integer), ("float", float), ("binary", bytes), ("timestamp", date),
    ("omap", orderedMap), ("pairs", pairs), ("set", set), ("str", text), ("seq", list), ("map", map),
    ("merge", merge), ("value", value)]

/-- The tag with a name. -/
def ofName (name : List Char) : Tag :=
  match named.find? fun (short, _) => (common ++ short).toList == name with
  | some (_, tag) => tag
  | none => unknown

/-- The words for truth values. -/
def truthWords : List (String × Bool) :=
  [("yes", true), ("no", false), ("true", true), ("false", false), ("on", true), ("off", false)]

/-- A word in small letters, unless its letters are neither all small, nor all large, nor large only at the
beginning. -/
def smallWord? (cs : List Char) : Option String :=
  let small := cs.map Char.toLower
  if cs = small ∨ cs = cs.map Char.toUpper ∨ cs = small.head?.toList.map Char.toUpper ++ small.tail then
    some (String.ofList small)
  else none

/-- The truth value of a word. -/
def truth? (cs : List Char) : Option Bool := (smallWord? cs).bind fun word => truthWords.lookup word

/-- Whether a plain text stands for nothing. -/
def isNull (cs : List Char) : Bool := cs = [] || cs = ['~'] || smallWord? cs == some "null"

/-- A sign and what follows it. -/
def signed : List Char → Bool × List Char
  | '-' :: rest => (true, rest)
  | '+' :: rest => (false, rest)
  | cs => (false, cs)

/-- The number of digits in a base, underscores left out. -/
def digits (base : Nat) (cs : List Char) : Nat :=
  (cs.filter (· ≠ '_')).foldl (fun n c =>
    n * base + (if c.isDigit then c.toNat - 48 else if c.isLower then c.toNat - 87 else c.toNat - 55)) 0

/-- Whether a text is a digit followed by digits and underscores. -/
def isDigits : List Char → Bool
  | c :: rest => c.isDigit && rest.all fun d => d.isDigit || d == '_'
  | [] => false

/-- The parts of a text between colons. -/
def colonParts (cs : List Char) : List (List Char) :=
  cs.foldr (fun c parts => if c = ':' then [] :: parts else
    match parts with
    | part :: more => (c :: part) :: more
    | [] => [[c]]) [[]]

/-- Whether a text is a number of minutes or seconds. -/
def isSixtieth : List Char → Bool
  | [c] => c.isDigit
  | [c, d] => '0' ≤ c && c ≤ '5' && d.isDigit
  | _ => false

/-- The number in base sixty of a text with colons. -/
def sixties? (cs : List Char) : Option Nat :=
  match colonParts cs with
  | first :: more =>
    if isDigits first ∧ more ≠ [] ∧ more.all isSixtieth then
      some (more.foldl (fun n part => n * 60 + digits 10 part) (digits 10 first))
    else none
  | [] => none

/-- The natural number that a plain text writes. -/
def natural? (cs : List Char) : Option Nat :=
  let some_ (cs : List Char) (isDigit : Char → Bool) : Bool := cs ≠ [] && cs.all fun c => isDigit c || c == '_'
  match cs with
  | ['0'] => some 0
  | '0' :: 'b' :: rest => if some_ rest fun c => c == '0' || c == '1' then some (digits 2 rest) else none
  | '0' :: 'x' :: rest =>
    if some_ rest fun c => c.isDigit || ('a' ≤ c && c ≤ 'f') || ('A' ≤ c && c ≤ 'F') then
      some (digits 16 rest)
    else none
  | '0' :: rest => if some_ rest fun c => '0' ≤ c && c ≤ '7' then some (digits 8 rest) else none
  | cs => if isDigits cs then some (digits 10 cs) else sixties? cs

/-- The integer that a plain text writes. -/
def integer? (cs : List Char) : Option Int :=
  let (negative, cs) := signed cs
  (natural? cs).map fun n => if negative then -(n : Int) else n

/-- The exponent that ends a float: nothing, or a signed number. -/
def exponent? : List Char → Option Int
  | [] => some 0
  | e :: sign :: rest =>
    if (e = 'e' ∨ e = 'E') ∧ (sign = '+' ∨ sign = '-') ∧ rest ≠ [] ∧ rest.all Char.isDigit then
      some (if sign = '-' then -(digits 10 rest : Int) else digits 10 rest)
    else none
  | _ => none

/-- The float that a plain text writes. -/
def float? (cs : List Char) : Option Binary64 :=
  let (negative, rest) := signed cs
  let whole := rest.takeWhile (· ≠ '.')
  match rest.dropWhile (· ≠ '.') with
  | '.' :: behind =>
    let places := behind.takeWhile fun c => c.isDigit || c == '_'
    let tail := behind.dropWhile fun c => c.isDigit || c == '_'
    let decimal (whole : Nat) (power : Int) : Binary64 :=
      let kept := places.filter (· ≠ '_')
      .ofDecimal negative (whole * Binary64.tenTo kept.length + digits 10 kept) (power - kept.length)
    if whole = [] then
      if smallWord? tail = some "inf" ∧ places = [] then some (.infinite negative)
      else if (tail = ['n', 'a', 'n'] ∨ tail = ['N', 'a', 'N'] ∨ tail = ['N', 'A', 'N']) ∧
          places = [] ∧ rest = cs then
        some .nan
      else if rest = cs ∧ isDigits places then (exponent? tail).map (decimal 0)
      else none
    else if isDigits whole then (exponent? tail).map (decimal (digits 10 whole))
    else if tail = [] then (sixties? whole).map fun n => decimal n 0
    else none
  | _ => none

/-- Takes between `least` and `most` digits from the front of a text. -/
def takeDigits (least most : Nat) (cs : List Char) : Option (List Char) :=
  let n := ((cs.take most).takeWhile Char.isDigit).length
  if least ≤ n then some (cs.drop n) else none

/-- Takes a character from the front of a text. -/
def takeChar (c : Char) : List Char → Option (List Char)
  | d :: rest => if c = d then some rest else none
  | [] => none

/-- Whether a text is a zone of time, or nothing. -/
def isZone (cs : List Char) : Bool :=
  match cs.dropWhile fun c => c == ' ' || c == '\t' with
  | [] => cs = []
  | ['Z'] => true
  | c :: rest =>
    (c == '-' || c == '+') &&
      match takeDigits 1 2 rest with
      | some [] => true
      | some more => ((takeChar ':' more).bind (takeDigits 2 2)) == some []
      | none => false

/-- Whether a text is a time of day with what may follow it. -/
def isTime (cs : List Char) : Bool :=
  let behind := do
    let cs ← takeDigits 1 2 cs
    let cs ← takeDigits 2 2 (← takeChar ':' cs)
    takeDigits 2 2 (← takeChar ':' cs)
  match behind with
  | some ('.' :: rest) => isZone (rest.dropWhile Char.isDigit)
  | some rest => isZone rest
  | none => false

/-- Whether a plain text is a date, perhaps with a time. -/
def isDate (cs : List Char) : Bool :=
  let day (least : Nat) : Option (List Char) := do
    let cs ← takeDigits 4 4 cs
    let cs ← takeDigits least 2 (← takeChar '-' cs)
    takeDigits least 2 (← takeChar '-' cs)
  day 2 == some [] ||
    match day 1 with
    | some (c :: rest) =>
      if c = 'T' ∨ c = 't' then isTime rest
      else (c == ' ' || c == '\t') && isTime (rest.dropWhile fun c => c == ' ' || c == '\t')
    | _ => false

/-- The tag of a plain scalar. -/
def ofPlain (cs : List Char) : Tag :=
  if (truth? cs).isSome then truth
  else if (float? cs).isSome then float
  else if (integer? cs).isSome then integer
  else if cs = ['<', '<'] then merge
  else if isNull cs then null
  else if isDate cs then date
  else if cs = ['='] then value
  else text

end Tag

end Yaml

end ProductLine
