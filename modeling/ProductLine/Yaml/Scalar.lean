import ProductLine.Yaml.Cursor

/-!
# Scalars in YAML texts

A scalar is written plainly, between quotes, or as a block of lines. Line ends inside a plain or quoted
scalar are folded: a single one becomes a space, of several all but the first stay.
-/

namespace ProductLine

namespace Yaml

namespace Scalar

/-- The text for a line end followed by further ones. -/
def fold (first more : List Char) : List Char :=
  if first ≠ ['\n'] then first ++ more else if more = [] then [' '] else more

/-- A word of a plain scalar. A colon ends it only before the end of a word. -/
def word (flow : Bool) : List Char → List Char
  | [] => []
  | ch :: rest =>
    let after := rest.headD '\x00'
    if endsWord ch || (ch == ':' && (endsWord after || (flow && [',', '[', ']', '\x7b', '\x7d'].contains after))) ||
        (flow && [',', '?', '[', ']', '\x7b', '\x7d'].contains ch) then []
    else ch :: word flow rest

/-- The line ends among spaces and line ends, unless a document mark comes, and the cursor behind them. -/
def gap : (fuel : Nat) → Cursor → Option (List Char) × Cursor
  | 0, c => (some [], c)
  | fuel + 1, c =>
    if c.peek = ' ' then gap fuel c.next
    else
      match c.lineBreak with
      | ([], c) => (some [], c)
      | (ends, c) =>
        if c.atSeparator then (none, c)
        else
          match gap fuel c with
          | (some more, c) => (some (ends ++ more), c)
          | (none, c) => (none, c)

/-- What stands between the words of a plain scalar, whether it crosses a line end, and the cursor behind
it. There is nothing between them where a document mark comes. -/
def plainGap (c : Cursor) : List Char × Bool × Cursor :=
  let (spaces, c) := c.takeWhile (· == ' ')
  match c.lineBreak with
  | ([], c) => (spaces, false, c)
  | (first, c) =>
    if c.atSeparator then ([], true, c)
    else
      match gap (c.left + 1) c with
      | (some more, c) => (fold first more, true, c)
      | (none, c) => ([], true, c)

/-- The words of a plain scalar behind `text` and a gap, whether a line end was crossed last, and the cursor
behind them. Outside flow collections the scalar must stay indented. -/
def plainWords (flow : Bool) (indent : Int) :
    (fuel : Nat) → (text between : List Char) → (crossed : Bool) → Cursor →
    List Char × Bool × Cursor
  | 0, text, _, crossed, c => (text, crossed, c)
  | fuel + 1, text, between, crossed, c =>
    let next := if c.peek = '#' then [] else word flow c.rest
    if next = [] then (text, crossed, c)
    else
      let text := text ++ between ++ next
      let (between, crossed, c) := plainGap (c.skip next.length)
      if between = [] ∨ c.peek = '#' ∨ (¬flow ∧ c.column < indent) then (text, crossed, c)
      else plainWords flow indent fuel text between crossed c

/-- A plain scalar, whether a line end was crossed after it, and the cursor behind it. -/
def plain (flow : Bool) (indent : Int) (c : Cursor) : List Char × Bool × Cursor :=
  plainWords flow indent (c.left + 1) [] [] false c

/-- The characters that a backslash and a letter stand for. -/
def letterEscapes : List (Char × Char) :=
  [('0', '\x00'), ('a', '\x07'), ('b', '\x08'), ('t', '\x09'), ('\t', '\x09'), ('n', '\x0a'), ('v', '\x0b'),
    ('f', '\x0c'), ('r', '\x0d'), ('e', '\x1b'), (' ', ' '), ('"', '"'), ('\\', '\\'), ('/', '/'), ('N', '\x85'),
    ('_', '\xa0'), ('L', '\u2028'), ('P', '\u2029')]

/-- How many hexadecimal digits follow a letter behind a backslash. -/
def digitEscapes : List (Char × Nat) := [('x', 2), ('u', 4), ('U', 8)]

/-- The value of a hexadecimal digit. -/
def hexDigit? (c : Char) : Option Nat :=
  if c.isDigit then some (c.toNat - 48)
  else if 'a' ≤ c ∧ c ≤ 'f' then some (c.toNat - 87)
  else if 'A' ≤ c ∧ c ≤ 'F' then some (c.toNat - 55)
  else none

/-- The character with the code that `n` hexadecimal digits give. -/
def coded? (n : Nat) (cs : List Char) : Option Char :=
  let digits := cs.take n
  if digits.length < n then none
  else
    match digits.foldl (fun sum c => sum.bind fun k => (hexDigit? c).map (k * 16 + ·)) (some 0) with
    | some k => if k < 0x110000 then some (Char.ofNat k) else none
    | none => none

/-- The line ends among blanks inside quotes, and the cursor behind them. No document mark may come. -/
def quotedGap : (fuel : Nat) → Cursor → Option (List Char × Cursor)
  | 0, c => some ([], c)
  | fuel + 1, c =>
    if c.atSeparator then none
    else
      let (_, c) := c.takeWhile fun ch => ch == ' ' || ch == '\t'
      match c.lineBreak with
      | ([], c) => some ([], c)
      | (ends, c) => (quotedGap fuel c).map fun (more, c) => (ends ++ more, c)

/-- A word inside quotes, and the cursor behind it. -/
def quotedWord (double : Bool) : (fuel : Nat) → Cursor → Option (List Char × Cursor)
  | 0, c => some ([], c)
  | fuel + 1, c =>
    let ch := c.peek
    if endsWord ch then some ([], c)
    else if double ∧ ch = '\\' then
      let letter := c.peekAt 1
      match letterEscapes.lookup letter with
      | some d => (quotedWord double fuel (c.skip 2)).map fun (cs, c) => (d :: cs, c)
      | none =>
        match digitEscapes.lookup letter with
        | some n =>
          match coded? n (c.rest.drop 2) with
          | some d => (quotedWord double fuel (c.skip (n + 2))).map fun (cs, c) => (d :: cs, c)
          | none => none
        | none =>
          match c.next.lineBreak with
          | ([], _) => none
          | (_, c) => do
            let (ends, c) ← quotedGap (c.left + 1) c
            let (cs, c) ← quotedWord double fuel c
            return (ends ++ cs, c)
    else if ¬double ∧ ch = '\'' ∧ c.peekAt 1 = '\'' then
      (quotedWord double fuel (c.skip 2)).map fun (cs, c) => ('\'' :: cs, c)
    else if (double ∧ ch = '"') ∨ (¬double ∧ ch = '\'') then some ([], c)
    else (quotedWord double fuel c.next).map fun (cs, c) => (ch :: cs, c)

/-- The rest of a scalar up to its closing quote, and the cursor behind it. -/
def quotedRest (double : Bool) : (fuel : Nat) → Cursor → Option (List Char × Cursor)
  | 0, _ => none
  | fuel + 1, c => do
    let (cs, c) ← quotedWord double (c.left + 1) c
    if c.peek = (if double then '"' else '\'') then return (cs, c.next)
    let (blanks, c) := c.takeWhile fun ch => ch == ' ' || ch == '\t'
    match c.lineBreak with
    | ([], c) =>
      if c.rest = [] then none
      else
        let (more, c) ← quotedRest double fuel c
        return (cs ++ blanks ++ more, c)
    | (first, c) =>
      let (ends, c) ← quotedGap (c.left + 1) c
      let (more, c) ← quotedRest double fuel c
      return (cs ++ fold first ends ++ more, c)

/-- A quoted scalar, and the cursor behind it. -/
def quoted (double : Bool) (c : Cursor) : Option (List Char × Cursor) :=
  quotedRest double (c.left + 1) c.next

/-- Skips spaces up to a column. -/
def skipIndent (indent : Nat) (c : Cursor) : Cursor :=
  c.skip ((c.rest.takeWhile (· == ' ')).take (indent - c.column)).length

/-- The empty lines before a line of a block, and the cursor at that line. -/
def emptyLines (indent : Nat) : (fuel : Nat) → Cursor → List Char × Cursor
  | 0, c => ([], c)
  | fuel + 1, c =>
    let c := skipIndent indent c
    match c.lineBreak with
    | ([], c) => ([], c)
    | (ends, c) =>
      let (more, c) := emptyLines indent fuel c
      (ends ++ more, c)

/-- The empty lines before a block of unknown indentation, the deepest indentation met, and the cursor
behind them. -/
def measure : (fuel : Nat) → (deepest : Nat) → Cursor → List Char × Nat × Cursor
  | 0, deepest, c => ([], deepest, c)
  | fuel + 1, deepest, c =>
    if c.peek = ' ' then measure fuel (max deepest c.next.column) c.next
    else
      match c.lineBreak with
      | ([], c) => ([], deepest, c)
      | (ends, c) =>
        let (more, deepest, c) := measure fuel deepest c
        (ends ++ more, deepest, c)

/-- The lines of a block: their text, the last line end, the empty lines behind it, and the cursor there. -/
def blockLines (folded : Bool) (indent : Nat) : (fuel : Nat) → (empty : List Char) → Cursor →
    List Char × List Char × List Char × Cursor
  | 0, empty, c => ([], [], empty, c)
  | fuel + 1, empty, c =>
    if c.column = indent ∧ c.rest ≠ [] then
      let isText (ch : Char) : Bool := ch != ' ' && ch != '\t'
      let leads := isText c.peek
      let (line, c) := c.takeWhile (!endsLine ·)
      let (lineEnd, c) := c.lineBreak
      let (after, c) := emptyLines indent (c.left + 1) c
      if c.column = indent ∧ c.rest ≠ [] then
        let joint :=
          if folded ∧ lineEnd = ['\n'] ∧ leads ∧ isText c.peek then (if after = [] then [' '] else [])
          else lineEnd
        let (text, last, more, c) := blockLines folded indent fuel after c
        (empty ++ line ++ joint ++ text, last, more, c)
      else (empty ++ line, lineEnd, after, c)
    else ([], [], empty, c)

/-- What follows the mark of a block on its line: whether line ends at the end are kept or dropped, and how
far the block is indented. -/
def blockHeader (c : Cursor) : Option (Option Bool × Option Nat × Cursor) := do
  let keep? (c : Cursor) : Option Bool :=
    if c.peek = '+' then some true else if c.peek = '-' then some false else none
  let step? (c : Cursor) : Option Nat := if c.peek.isDigit then some (c.peek.toNat - 48) else none
  let behind {α : Type} (found : Option α) (c : Cursor) : Cursor := if found.isSome then c.next else c
  let early := keep? c
  let c := behind early c
  let step := step? c
  let c := behind step c
  let late := if early.isSome ∨ step.isNone then none else keep? c
  let c := behind late c
  if step = some 0 then none
  if !(c.peek = ' ' || endsLine c.peek) then none
  return (early.or late, step, c)

/-- The cursor behind a line that holds nothing but a comment. -/
def commentLine (c : Cursor) : Option Cursor :=
  let (_, c) := c.takeWhile (· == ' ')
  let c := if c.peek = '#' then (c.takeWhile (!endsLine ·)).2 else c
  if endsLine c.peek then some c.lineBreak.2 else none

/-- A block scalar inside a collection with the given indentation, and the cursor behind it. -/
def block (folded : Bool) (outer : Int) (c : Cursor) : Option (List Char × Cursor) := do
  let (keep, step, c) ← blockHeader c.next
  let c ← commentLine c
  let least := (max 1 (outer + 1)).toNat
  let fuel := c.left + 1
  let (empty, indent, c) := match step with
    | some n =>
      let (empty, c) := emptyLines (least + n - 1) fuel c
      (empty, least + n - 1, c)
    | none =>
      let (empty, deepest, c) := measure fuel 0 c
      (empty, max least deepest, c)
  let (text, last, after, c) := blockLines folded indent fuel empty c
  return (text ++ (if keep = some false then [] else last) ++ (if keep = some true then after else []), c)

end Scalar

end Yaml

end ProductLine
