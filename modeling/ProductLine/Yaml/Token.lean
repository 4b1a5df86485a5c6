import ProductLine.Yaml.Scalar

/-!
# YAML tokens

The tokens of a text say where collections begin and end, what is a key and what a value. Outside flow
collections the indentation says it: a deeper line opens a collection, a less deep one closes some. A key
before a colon is recognised only when the colon comes, and its mark is then put in before it.
-/

namespace ProductLine

namespace Yaml

/-- A part of a YAML text. -/
inductive Token where
  | version (major : List Char)
  | shorthand (handle target : List Char)
  | remark
  | documentStart
  | documentEnd
  | sequence
  | mapping
  | blockEnd
  | flowSequence
  | flowSequenceEnd
  | flowMapping
  | flowMappingEnd
  | entry
  | flowEntry
  | key
  | value
  | alias (name : List Char)
  | anchor (name : List Char)
  | tag (handle : Option (List Char)) (suffix : List Char)
  | scalar (text : List Char) (isPlain : Bool)
deriving DecidableEq, Inhabited

/-- Whether a character may stand in a name. -/
def isNameChar (c : Char) : Bool := c.isAlphanum || c == '-' || c == '_'

/-- Whether a character may stand in the name of a tag. -/
def isTagChar (c : Char) : Bool :=
  c.isAlphanum || ['-', ';', '/', '?', ':', '@', '&', '=', '+', '$', ',', '_', '.', '!', '~', '*', '\'', '(', ')',
    '[', ']', '%'].contains c

/-- Whether a character ends a line or is a space. -/
def endsPart (c : Char) : Bool := c = ' ' || endsLine c

/-- The bytes that percent signs and two hexadecimal digits give. -/
def escapedBytes : List Char → Option (List Nat × List Char)
  | '%' :: a :: b :: rest => do
    let high ← Scalar.hexDigit? a
    let low ← Scalar.hexDigit? b
    let (bytes, rest) ← escapedBytes rest
    return ((high * 16 + low) :: bytes, rest)
  | '%' :: _ => none
  | cs => some ([], cs)

/-- The text that bytes encode. -/
def decode? (bytes : List Nat) : Option (List Char) :=
  (String.fromUTF8? (ByteArray.mk (bytes.map (·.toUInt8)).toArray)).map String.toList

/-- The name of a tag with its escapes resolved. -/
def tagName : (fuel : Nat) → List Char → Option (List Char)
  | 0, _ => some []
  | _, [] => some []
  | fuel + 1, '%' :: rest => do
    let (bytes, rest) ← escapedBytes ('%' :: rest)
    return (← decode? bytes) ++ (← tagName fuel rest)
  | fuel + 1, c :: rest => (tagName fuel rest).map (c :: ·)

/-- The name of a tag that follows, and the cursor behind it. -/
def readTagName (c : Cursor) : Option (List Char × Cursor) :=
  let (cs, c) := c.takeWhile isTagChar
  if cs = [] then none else (tagName (cs.length + 1) cs).map fun name => (name, c)

/-- The shorthand of a tag that follows, between exclamation marks, and the cursor behind it. -/
def readHandle (c : Cursor) : Option (List Char × Cursor) :=
  if c.peek ≠ '!' then none
  else if c.peekAt 1 = ' ' then some (['!'], c.next)
  else
    let (name, d) := c.next.takeWhile isNameChar
    if d.peek = '!' then some ('!' :: name ++ ['!'], d.next) else none

/-- The name behind the mark of an anchor or an alias, and the cursor behind it. -/
def readName (c : Cursor) : Option (List Char × Cursor) :=
  let (name, c) := c.next.takeWhile isNameChar
  if name ≠ [] ∧ (endsWord c.peek ∨ ['?', ':', ',', ']', '\x7d', '%', '@', '\x60'].contains c.peek) then
    some (name, c)
  else none

/-- A tag, and the cursor behind it. -/
def readTag (c : Cursor) : Option (Token × Cursor) := do
  let (token, c) ← (
    if c.peekAt 1 = '<' then do
      let (name, c) ← readTagName (c.skip 2)
      if c.peek = '>' then some (Token.tag none name, c.next) else none
    else if endsWord (c.peekAt 1) then some (Token.tag none ['!'], c.next)
    else
      let part := (c.rest.drop 1).takeWhile (!endsPart ·)
      do
        let (handle, c) ← if part.contains '!' then readHandle c else some (['!'], c.next)
        let (name, c) ← readTagName c
        return (Token.tag (some handle) name, c))
  if endsPart c.peek then some (token, c) else none

/-- A line that says something about the document, and the cursor behind it. -/
def readDirective (c : Cursor) : Option (Token × Cursor) := do
  let (name, c) := c.next.takeWhile isNameChar
  if name = [] ∨ !endsPart c.peek then none
  let blanks (c : Cursor) : Cursor := (c.takeWhile (· == ' ')).2
  let (token, c) ← (
    if name = ['Y', 'A', 'M', 'L'] then
      let (major, c) := (blanks c).takeWhile Char.isDigit
      let (minor, d) := c.next.takeWhile Char.isDigit
      if major = [] ∨ c.peek ≠ '.' ∨ minor = [] ∨ !endsPart d.peek then none else some (Token.version major, d)
    else if name = ['T', 'A', 'G'] then do
      let (handle, c) ← readHandle (blanks c)
      if c.peek ≠ ' ' then none
      let (target, c) ← readTagName (blanks c)
      if endsPart c.peek then some (Token.shorthand handle target, c) else none
    else some (Token.remark, (c.takeWhile (!endsLine ·)).2))
  return (token, ← Scalar.commentLine c)

/-- Where a key may have begun: before which token, whether a colon has to come, and the place. -/
structure KeyStart where
  token : Nat
  required : Bool
  index : Nat
  line : Nat
  column : Nat

/-- The state of reading: the tokens so far, how many flow collections are open, the indentations of the
open block collections, whether a key may begin, and where keys may have begun, by flow depth. -/
structure Scan where
  cursor : Cursor
  tokens : Array Token
  depth : Nat
  indents : List Int
  allowsKey : Bool
  keys : List (Nat × KeyStart)

namespace Scan

/-- The indentation of the innermost block collection. -/
def indent (s : Scan) : Int := s.indents.headD (-1)

/-- Adds a token. -/
def push (s : Scan) (t : Token) : Scan := { s with tokens := s.tokens.push t }

/-- Closes the block collections indented deeper than a column. -/
def unwind (column : Int) (s : Scan) : Scan :=
  if s.depth ≠ 0 then s
  else
    let closed := (s.indents.takeWhile (column < ·)).length
    { s with indents := s.indents.drop closed, tokens := s.tokens ++ Array.replicate closed Token.blockEnd }

/-- Whether a column opens a block collection. -/
def opens (s : Scan) (column : Nat) : Bool := s.depth == 0 && decide (s.indent < column)

/-- Opens a block collection at a column if it is deeper than the innermost one. -/
def openBlock (t : Token) (s : Scan) : Scan :=
  if s.opens s.cursor.column then
    { s.push t with indents := (s.cursor.column : Int) :: s.indents }
  else s

/-- Gives up the key that may have begun at this depth; it must not be required. -/
def dropKey (s : Scan) : Option Scan :=
  match s.keys.lookup s.depth with
  | some k => if k.required then none else some { s with keys := s.keys.filter (·.1 ≠ s.depth) }
  | none => some s

/-- Notes that a key may begin here. -/
def noteKey (s : Scan) : Option Scan :=
  if s.allowsKey then do
    let s ← s.dropKey
    let c := s.cursor
    let key : KeyStart := ⟨s.tokens.size, s.depth == 0 && s.indent == c.column, c.index, c.line, c.column⟩
    return { s with keys := (s.depth, key) :: s.keys }
  else some s

/-- Gives up the keys that would not end on their line or would be too long; none may be required. -/
def dropStale (s : Scan) : Option Scan :=
  let isStale (k : KeyStart) : Bool := k.line != s.cursor.line || 1024 + k.index < s.cursor.index
  if s.keys.any fun k => isStale k.2 && k.2.required then none
  else some { s with keys := s.keys.filter fun k => !isStale k.2 }

/-- Skips spaces, comments and line ends before a token. A key may begin on a new line of a block. -/
def skipBlanks : (fuel : Nat) → Scan → Scan
  | 0, s => s
  | fuel + 1, s =>
    let (_, c) := s.cursor.takeWhile (· == ' ')
    let c := if c.peek = '#' then (c.takeWhile (!endsLine ·)).2 else c
    match c.lineBreak with
    | ([], c) => { s with cursor := c }
    | (_, c) => skipBlanks fuel { s with cursor := c, allowsKey := s.allowsKey || s.depth == 0 }

/-- Moves behind the next `n` characters and adds a token. -/
def take (n : Nat) (t : Token) (s : Scan) : Scan := { s with cursor := s.cursor.skip n }.push t

/-- A token that stands outside all collections. -/
def outermost (s : Scan) : Option Scan := do
  let s ← (s.unwind (-1)).dropKey
  return { s with allowsKey := false }

/-- The beginning of a flow collection. -/
def openFlow (t : Token) (s : Scan) : Option Scan := do
  let s ← s.noteKey
  return { s with depth := s.depth + 1, allowsKey := true }.take 1 t

/-- The end of a flow collection. -/
def closeFlow (t : Token) (s : Scan) : Option Scan := do
  let s ← s.dropKey
  return { s with depth := s.depth - 1, allowsKey := false }.take 1 t

/-- The mark of an item or of a key that is set apart. In a block a key must be allowed there. -/
def mark (t collection : Token) (allowed : Bool) (s : Scan) : Option Scan := do
  if s.depth = 0 ∧ !s.allowsKey then none
  let s ← { s.openBlock collection with allowsKey := allowed }.dropKey
  return s.take 1 t

/-- The mark of a value. It turns what may have been a key into one. -/
def valueMark (s : Scan) : Option Scan :=
  match s.keys.lookup s.depth with
  | some k =>
    let tokens := s.tokens.insertIdxIfInBounds k.token .key
    let s := { s with keys := s.keys.filter (·.1 ≠ s.depth), allowsKey := false }
    some (if s.opens k.column then
      { s with
        tokens := tokens.insertIdxIfInBounds k.token .mapping
        indents := (k.column : Int) :: s.indents }.take 1 .value
    else { s with tokens := tokens }.take 1 .value)
  | none => s.mark .value .mapping (s.depth == 0)

/-- A token at which a key may begin, and behind which none may. -/
def word (read : Cursor → Option (Token × Cursor)) (s : Scan) : Option Scan := do
  let s ← s.noteKey
  let (t, c) ← read s.cursor
  return { s with cursor := c, allowsKey := false }.push t

/-- A block scalar. -/
def block (folded : Bool) (s : Scan) : Option Scan := do
  let s ← { s with allowsKey := true }.dropKey
  let (text, c) ← Scalar.block folded s.indent s.cursor
  return { s with cursor := c }.push (.scalar text false)

/-- A plain scalar. -/
def plain (s : Scan) : Option Scan := do
  let s ← s.noteKey
  let (text, crossed, c) := Scalar.plain (s.depth ≠ 0) (s.indent + 1) s.cursor
  return { s with cursor := c, allowsKey := crossed }.push (.scalar text true)

/-- Whether a plain scalar begins here. -/
def startsPlain (s : Scan) : Bool :=
  let c := s.cursor.peek
  !(endsWord c || ['-', '?', ':', ',', '[', ']', '\x7b', '\x7d', '#', '&', '*', '!', '|', '>', '\'', '"', '%', '@',
    '\x60'].contains c) ||
    (!endsWord (s.cursor.peekAt 1) && (c == '-' || (s.depth == 0 && (c == '?' || c == ':'))))

/-- Reads the token that begins here; the text does not end here. -/
def step (s : Scan) : Option Scan :=
  let c := s.cursor
  let first := c.peek
  let ends := endsWord (c.peekAt 1)
  let atMark := c.column == 0 && c.atSeparator
  if first = '%' ∧ c.column = 0 then do
    let s ← s.outermost
    let (t, c) ← readDirective s.cursor
    return { s with cursor := c }.push t
  else if first = '-' ∧ atMark then s.outermost.map (take 3 .documentStart)
  else if first = '.' ∧ atMark then s.outermost.map (take 3 .documentEnd)
  else if first = '[' then s.openFlow .flowSequence
  else if first = '\x7b' then s.openFlow .flowMapping
  else if first = ']' then s.closeFlow .flowSequenceEnd
  else if first = '\x7d' then s.closeFlow .flowMappingEnd
  else if first = ',' then do
    let s ← s.dropKey
    return { s with allowsKey := true }.take 1 .flowEntry
  else if first = '-' ∧ ends then s.mark .entry .sequence true
  else if first = '?' ∧ (s.depth ≠ 0 ∨ ends) then s.mark .key .mapping (s.depth == 0)
  else if first = ':' ∧ (s.depth ≠ 0 ∨ ends) then s.valueMark
  else if first = '*' then s.word fun c => (readName c).map fun (name, c) => (.alias name, c)
  else if first = '&' then s.word fun c => (readName c).map fun (name, c) => (.anchor name, c)
  else if first = '!' then s.word readTag
  else if first = '|' ∧ s.depth = 0 then s.block false
  else if first = '>' ∧ s.depth = 0 then s.block true
  else if first = '\'' then s.word fun c => (Scalar.quoted false c).map fun (text, c) => (.scalar text false, c)
  else if first = '"' then s.word fun c => (Scalar.quoted true c).map fun (text, c) => (.scalar text false, c)
  else if s.startsPlain then s.plain
  else none

/-- Reads all tokens, at most `fuel` of them. -/
def run : (fuel : Nat) → Scan → Option (List Token)
  | 0, _ => none
  | fuel + 1, s => do
    let s ← (skipBlanks (s.cursor.left + 1) s).dropStale
    let s := s.unwind s.cursor.column
    if s.cursor.rest = [] then
      let s ← (s.unwind (-1)).dropKey
      return s.tokens.toList
    run fuel (← s.step)

end Scan

/-- The tokens of a text. -/
def tokens (cs : List Char) : Option (List Token) :=
  if cs.all isAllowed then
    let text := if cs.head? = some '\ufeff' then cs.drop 1 else cs
    Scan.run (text.length + 2) ⟨.start text, #[], 0, [], true, []⟩
  else none

end Yaml

end ProductLine
