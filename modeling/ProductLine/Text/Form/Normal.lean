import ProductLine.Text.Form.Composite
import ProductLine.Text.Form.Variant

/-!
# The normal form of names

Two names are the same if they differ only in the way their letters are written. The normal form replaces
variants by plain letters, takes composed characters apart, orders the marks after each base and joins
what can be joined.
-/

namespace ProductLine

namespace Text

/-- The value of the first range that holds a code point, counted on from the range's first member. -/
def countOn? (table : List (Nat × Nat × Nat)) (n : Nat) : Option Nat :=
  (table.find? fun (first, last, _) => first ≤ n && n ≤ last).map fun (first, _, image) => image + (n - first)

/-- The variants of the part of the code space that holds a code point. -/
def variantTable (n : Nat) : List (Nat × Nat × Nat) :=
  if n < 0x600 then latinVariants
  else if n < 0xf900 then scriptVariants
  else if n < 0xfb00 then ideographVariants
  else if n < 0x1d400 then presentationVariants
  else if n < 0x2f800 then mathematicalVariants
  else supplementVariants

/-- The plain letters that a code point is a way to write. -/
def plain (n : Nat) : List Nat :=
  if n < 0xaa then [n]
  else match countOn? (variantTable n) n with
    | some m => [m]
    | none => match sharedVariants.find? fun (first, last, _) => first ≤ n && n ≤ last with
      | some (_, _, m) => [m]
      | none => match ligatures.find? fun (m, _) => m == n with
        | some (_, ms) => ms
        | none => [n]

/-- A syllable of Hangul taken apart into its letters. -/
def syllableParts (n : Nat) : List Nat :=
  let i := n - 0xac00
  let tail := i % 28
  [0x1100 + i / 588, 0x1161 + i % 588 / 28] ++ (if tail = 0 then [] else [0x11a7 + tail])

/-- A code point taken apart, at most `depth` times over. -/
def parts : (depth : Nat) → Nat → List Nat
  | 0, n => [n]
  | depth + 1, n =>
    if n < 0xc0 then [n]
    else if 0xac00 ≤ n && n ≤ 0xd7a3 then syllableParts n
    else match compositeTable.find? fun (_, _, joined) => joined == n with
      | some (base, mark, _) => parts depth base ++ parts depth mark
      | none => [n]

/-- The class that orders a mark, 0 for any other code point. -/
def markClass (n : Nat) : Nat :=
  if n < 0x300 then 0
  else match markClasses.find? fun (first, last, _) => first ≤ n && n ≤ last with
    | some (_, _, k) => k
    | none => 0

/-- Puts a mark before the marks of higher class at the start of a text. -/
def insertMark (n : Nat) : List Nat → List Nat
  | [] => [n]
  | m :: rest => if markClass m ≠ 0 && markClass m < markClass n then m :: insertMark n rest else n :: m :: rest

/-- Orders the marks after each base by class, equal classes as they stand. -/
def orderMarks (ns : List Nat) : List Nat :=
  ns.foldr (fun n rest => if markClass n = 0 then n :: rest else insertMark n rest) []

/-- The code point that joins two. -/
def join? (base mark : Nat) : Option Nat :=
  if 0x1100 ≤ base && base < 0x1113 && 0x1161 ≤ mark && mark < 0x1176 then
    some (0xac00 + ((base - 0x1100) * 21 + (mark - 0x1161)) * 28)
  else if 0xac00 ≤ base && base ≤ 0xd7a3 && (base - 0xac00) % 28 == 0 && 0x11a7 < mark && mark < 0x11c3 then
    some (base + (mark - 0x11a7))
  else (compositeTable.find? fun (b, m, _) => b == base && m == mark).map fun (_, _, joined) => joined

/-- Joins the rest of a text to a base, behind which `kept` marks stand that could not be joined. -/
def joinRest (base : Nat) (kept : List Nat) : List Nat → List Nat
  | [] => base :: kept.reverse
  | n :: rest =>
    let blocked := match kept with
      | [] => false
      | k :: _ => markClass k = 0 || markClass n ≤ markClass k
    match (if blocked then none else join? base n) with
    | some joined => joinRest joined kept rest
    | none =>
      if markClass n = 0 then base :: kept.reverse ++ joinRest n [] rest
      else joinRest base (n :: kept) rest

/-- Joins what can be joined. -/
def joinMarks : List Nat → List Nat
  | [] => []
  | n :: rest => if markClass n = 0 then joinRest n [] rest else n :: joinMarks rest

/-- The normal form of a text of code points. -/
def normalPoints (ns : List Nat) : List Nat := joinMarks (orderMarks (ns.flatMap plain |>.flatMap (parts 4)))

/-- The normal form of a name; a name of ASCII characters is in normal form. -/
def normalName (cs : List Char) : List Char :=
  if cs.all (·.toNat < 128) then cs else (normalPoints (cs.map Char.toNat)).map Char.ofNat

end Text

end ProductLine
