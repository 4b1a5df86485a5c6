import ProductLine.Datum.Basic
import ProductLine.Yaml.Node

/-!
# Data as YAML text

A YAML text stands for one datum. The entries of mappings under a merge key come before those of the
mapping itself, so that its own entries win, and of several merged mappings the first one wins.
-/

namespace ProductLine

namespace Yaml

/-- The letters of base 64, in the order of their values. -/
def base64Value? (c : Char) : Option Nat :=
  if c.isUpper then some (c.toNat - 65)
  else if c.isLower then some (c.toNat - 71)
  else if c.isDigit then some (c.toNat + 4)
  else if c = '+' then some 62
  else if c = '/' then some 63
  else none

/-- The bytes that groups of up to four values in base 64 give. -/
def base64Bytes : List Nat → List Nat
  | a :: b :: c :: d :: rest =>
    let n := ((a * 64 + b) * 64 + c) * 64 + d
    n / 65536 :: n / 256 % 256 :: n % 256 :: base64Bytes rest
  | [a, b, c] => [(a * 64 + b) / 16, ((a * 64 + b) * 64 + c) / 4 % 256]
  | [a, b] => [(a * 64 + b) / 16]
  | _ => []

/-- The text that a text in base 64 encodes. -/
def base64? (cs : List Char) : Option (List Char) :=
  let values := (cs.takeWhile (· ≠ '=')).filterMap base64Value?
  let padding := cs.count '='
  if values.length % 4 = 1 ∨ (4 - values.length % 4) % 4 > padding then none
  else decode? (base64Bytes values)

/-- The float that a text writes, its exponent with or without a sign and its point left out or not. -/
def looseFloat? (cs : List Char) : Option Binary64 :=
  let isMark (c : Char) : Bool := c == 'e' || c == 'E'
  let whole := cs.takeWhile (!isMark ·)
  let mantissa := if whole.contains '.' then whole else whole ++ ['.']
  match cs.dropWhile (!isMark ·) with
  | _ :: c :: rest =>
    Tag.float? (mantissa ++ 'e' :: (if c = '+' ∨ c = '-' then c :: rest else '+' :: c :: rest))
  | _ => Tag.float? mantissa

/-- The datum of a scalar. -/
def scalarDatum? (tag : Tag) (text : List Char) : Option Datum :=
  match tag with
  | .null => some .null
  | .truth => (Tag.truthWords.lookup (String.ofList (text.map Char.toLower))).map .bool
  | .integer => (Tag.integer? text).map .int
  | .float => ((Tag.float? text).or (looseFloat? text)).map .float
  | .bytes => (base64? text).map fun cs => .text (String.ofList cs)
  | .date => if Tag.isDate text then some .date else none
  | .text => some (.text (String.ofList text))
  | _ => none

/-- The datum of a key; the mark of a value is a text there. -/
def keyTag : Tag → Tag
  | .value => .text
  | tag => tag

mutual

/-- The datum of a node. -/
def Node.toDatum? : Node → Option Datum
  | .scalar tag text => scalarDatum? tag text
  | .sequence .list items => (toData? items).map .list
  | .sequence .orderedMap items => (toPairs? items).map .list
  | .sequence .pairs items => (toPairs? items).map .list
  | .sequence _ _ => none
  | .mapping .map entries => (toEntries? entries).map fun (merged, own) => .map (merged ++ own)
  | .mapping .set entries => (toEntries? entries).map fun (merged, own) => .list ((merged ++ own).map Prod.fst)
  | .mapping _ _ => none

/-- The data of several nodes. -/
def toData? : List Node → Option (List Datum)
  | [] => some []
  | n :: rest => do return (← n.toDatum?) :: (← toData? rest)

/-- The data of nodes that are mappings with a single entry, each as a list of two. -/
def toPairs? : List Node → Option (List Datum)
  | [] => some []
  | .mapping _ [(key, value)] :: rest => do
    return .list [← key.toDatum?, ← value.toDatum?] :: (← toPairs? rest)
  | _ => none

/-- The entries that are merged into a mapping, and its own. -/
def toEntries? : List (Node × Node) → Option (List (Datum × Datum) × List (Datum × Datum))
  | [] => some ([], [])
  | (key, value) :: rest => do
    let (merged, own) ← toEntries? rest
    match key with
    | .scalar .merge _ =>
      match value with
      | .mapping _ entries =>
        let (deeper, direct) ← toEntries? entries
        return (deeper ++ direct ++ merged, own)
      | .sequence _ items => return ((← toMerged? items) ++ merged, own)
      | .scalar _ _ => none
    | .scalar tag text =>
      let k ← scalarDatum? (keyTag tag) text
      return (merged, (k, ← value.toDatum?) :: own)
    | .sequence _ _ => none
    | .mapping _ _ => none

/-- The entries of several mappings, those of the first one last. -/
def toMerged? : List Node → Option (List (Datum × Datum))
  | [] => some []
  | .mapping _ entries :: rest => do
    let later ← toMerged? rest
    let (merged, own) ← toEntries? entries
    return later ++ merged ++ own
  | _ => none

end

end Yaml

/-- The datum of a YAML text; an empty text stands for nothing. -/
def Datum.ofYaml? (s : String) : Option Datum := do
  match ← Yaml.ofText? s.toList with
  | some n => n.toDatum?
  | none => some .null

end ProductLine
