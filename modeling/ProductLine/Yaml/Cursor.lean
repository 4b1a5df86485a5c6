/-!
# Places in a YAML text

A cursor stands somewhere in a text and knows its line and column, both counted from zero. Behind the end
it reads the character with code zero, which no YAML text holds.
-/

namespace ProductLine

namespace Yaml

/-- Whether a character ends a line. -/
def isBreak (c : Char) : Bool := ['\n', '\r', '\x85', '\u2028', '\u2029'].contains c

/-- Whether a character ends a line or the text. -/
def endsLine (c : Char) : Bool := c = '\x00' || isBreak c

/-- Whether a character ends a word. -/
def endsWord (c : Char) : Bool := c = ' ' || c = '\t' || endsLine c

/-- Whether a character may stand in a YAML text. -/
def isAllowed (c : Char) : Bool :=
  let n := c.toNat
  n == 9 || n == 10 || n == 13 || (0x20 ≤ n && n ≤ 0x7e) || n == 0x85 || (0xa0 ≤ n && n ≤ 0xfffd) || 0x10000 ≤ n

/-- The text that follows, its length, and where it begins. -/
structure Cursor where
  rest : List Char
  left : Nat
  index : Nat
  line : Nat
  column : Nat
  left_eq : left = rest.length

namespace Cursor

/-- The beginning of a text. -/
def start (cs : List Char) : Cursor := ⟨cs, cs.length, 0, 0, 0, rfl⟩

/-- The next character. -/
def peek (c : Cursor) : Char := c.rest.headD '\x00'

/-- The character after `n` others. -/
def peekAt (c : Cursor) (n : Nat) : Char := (c.rest.drop n).headD '\x00'

/-- The cursor behind the next character. -/
def next (c : Cursor) : Cursor :=
  match h : c.rest with
  | [] => c
  | ch :: rest =>
    have left_eq : c.left - 1 = rest.length := by simp [c.left_eq, h]
    if isBreak ch ∧ ¬(ch = '\r' ∧ rest.head? = some '\n') then
      ⟨rest, c.left - 1, c.index + 1, c.line + 1, 0, left_eq⟩
    else if ch = '\ufeff' then ⟨rest, c.left - 1, c.index + 1, c.line, c.column, left_eq⟩
    else ⟨rest, c.left - 1, c.index + 1, c.line, c.column + 1, left_eq⟩

/-- The cursor behind `n` characters. -/
def skip : Nat → Cursor → Cursor
  | 0, c => c
  | n + 1, c => skip n c.next

/-- The characters that follow as long as they satisfy a condition, and the cursor behind them. -/
def takeWhile (p : Char → Bool) (c : Cursor) : List Char × Cursor :=
  let cs := c.rest.takeWhile p
  (cs, c.skip cs.length)

/-- The line end that follows, as one character, and the cursor behind it; nothing if none follows. -/
def lineBreak (c : Cursor) : List Char × Cursor :=
  match c.rest with
  | '\r' :: '\n' :: _ => (['\n'], c.next.next)
  | ch :: _ =>
    if ch = '\u2028' ∨ ch = '\u2029' then ([ch], c.next)
    else if isBreak ch then (['\n'], c.next)
    else ([], c)
  | [] => ([], c)

/-- Whether a mark follows that separates documents, were the cursor at the beginning of a line. -/
def atSeparator (c : Cursor) : Bool :=
  let mark := c.rest.take 3
  (mark == ['-', '-', '-'] || mark == ['.', '.', '.']) && endsWord (c.peekAt 3)

end Cursor

end Yaml

end ProductLine
