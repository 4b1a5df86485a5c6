import Mathlib.Tactic.Common
import ProductLine.Proofs.Expression.Literal
import ProductLine.Proofs.Expression.Names
import ProductLine.Proofs.Formula.Written

/-!
# Expressions that are parsed

A text renders an expression if it consists of the tokens of a way to write it, with blanks between them and
around them, and with either sign for each power (`Renders`). Taking the carets and the outer blanks away
leaves a text of the same tokens, which the scanner finds (`Laid.scan`), so the text is parsed as the
expression, and its free names are those of the expression, in the order of the text (`parse_of_renders`).
-/

namespace ProductLine

namespace Expression

/-- The spellings of a token without carets. -/
inductive NormalSpelling : Token → List Char → Prop where
  | number {t text} :
    Literal t text →
    NormalSpelling t text
  | name {word} :
    IsName word →
    NormalSpelling (.word word) word
  | sign {s} :
    s ∈ [['+'], ['-'], ['*'], ['/'], ['*', '*'], ['('], [')']] →
    NormalSpelling (.sign s) s

/-- The spellings of a token: a power may be written with a caret. -/
inductive Spelling : Token → List Char → Prop where
  | normal {t text} :
    NormalSpelling t text →
    Spelling t text
  | caret :
    Spelling (.sign (signOf .pow)) ['^']

/-- Whether a character may stand between tokens. -/
def IsGap (c : Char) : Prop := c = ' ' ∨ c = '\t' ∨ c = '\x0c'

/-- The texts of tokens, each in one of its spellings, with gaps anywhere between them. -/
inductive Laid (spelling : Token → List Char → Prop) : List Token → List Char → Prop where
  | single {t word} :
    spelling t word →
    Laid spelling [t] word
  | cons {t word gap tokens rest} :
    spelling t word →
    (∀ c ∈ gap, IsGap c) →
    Laid spelling tokens rest →
    Laid spelling (t :: tokens) (word ++ (gap ++ rest))

/-- Whether a text renders an expression with some tokens: they are a way to write it, with no more than 200
parentheses open at a time, and the text is one of these tokens between blanks. -/
structure Renders (e : Expression) (tokens : List Token) (text : String) : Prop where
  writes : Writes 200 0 e tokens
  laid : ∃ front body back, text.toList = front ++ (body ++ back) ∧ Laid Spelling tokens body ∧
    (∀ c ∈ front, Text.isBlank c = true) ∧ ∀ c ∈ back, Text.isBlank c = true

/-! Characters -/

/-- What is known about each character of a token. -/
structure IsInk (c : Char) : Prop where
  not_blank : Text.isBlank c = false
  not_line : c ≠ '\r'
  not_null : c ≠ '\x00'
  not_comment : c ≠ '#'
  not_escape : c ≠ '\\'

/-- Ink is no blank and no end of a line. -/
lemma IsInk.not_gap {c : Char} (h : IsInk c) : c ≠ ' ' ∧ c ≠ '\t' ∧ c ≠ '\x0c' ∧ c ≠ '\n' := by
  refine ⟨?_, ?_, ?_, ?_⟩
  all_goals
    rintro rfl
    cases h.not_blank

/-- Letters and digits are ink. -/
lemma isInk_of_isAlphanum {c : Char} (h : c.isAlphanum = true) : IsInk c := by
  refine ⟨Formula.not_isBlank_of_isWord ?_, ?_, ?_, ?_, ?_⟩
  · rw [Formula.isWord, h]
    rfl
  all_goals
    rintro rfl
    cases h

/-- The other characters of tokens are ink. -/
lemma isInk_of_mem {c : Char} (h : c ∈ ['_', '.', '+', '-', '*', '/', '(', ')', '^']) : IsInk c := by
  simp only [List.mem_cons, List.not_mem_nil, or_false] at h
  rcases h with rfl | rfl | rfl | rfl | rfl | rfl | rfl | rfl | rfl
  all_goals exact ⟨by decide, by decide, by decide, by decide, by decide⟩

/-- The characters of numbers and names are ink. -/
lemma IsNumeral.isInk {c : Char} (h : IsNumeral c) : IsInk c := by
  rcases h with h | h
  · exact isInk_of_isAlphanum h
  · refine isInk_of_mem ?_
    simp only [List.mem_cons, List.not_mem_nil, or_false] at h ⊢
    tauto

/-- No character of a number or a name is a caret. -/
lemma IsNumeral.ne_caret {c : Char} (h : IsNumeral c) : c ≠ '^' := by
  rintro rfl
  rcases h with h | h
  · cases h
  · exact absurd h (by decide)

/-- What may stand between tokens is blank. -/
lemma IsGap.isBlank {c : Char} (h : IsGap c) : Text.isBlank c = true := by
  rcases h with rfl | rfl | rfl <;> rfl

namespace NormalSpelling

variable {t : Token} {word rest : List Char}

/-- A spelling without carets consists of ink. -/
lemma isInk (h : NormalSpelling t word) : ∀ c ∈ word, IsInk c ∧ c ≠ '^' := by
  intro c hc
  cases h with
  | number h => exact ⟨(h.isNumeral c hc).isInk, (h.isNumeral c hc).ne_caret⟩
  | name h => exact ⟨(h.isNumeral c hc).isInk, (h.isNumeral c hc).ne_caret⟩
  | sign h =>
    simp only [List.mem_cons, List.not_mem_nil, or_false] at h
    rcases h with rfl | rfl | rfl | rfl | rfl | rfl | rfl
    all_goals
      simp only [List.mem_cons, List.not_mem_nil, or_false, or_self] at hc
      subst hc
      exact ⟨isInk_of_mem (by decide), by decide⟩

/-- A spelling without carets is not empty. -/
lemma ne_nil (h : NormalSpelling t word) : word ≠ [] := by
  cases h with
  | number h =>
    obtain ⟨c, more, rfl, _⟩ := h.head
    exact List.cons_ne_nil _ _
  | name h =>
    obtain ⟨c, more, rfl, _⟩ := h.identifier
    exact List.cons_ne_nil _ _
  | sign h =>
    rintro rfl
    exact absurd h (by decide)

/-- A sign stops a number or a word before it. -/
lemma stops_of_follows (h : NormalSpelling t word) (ht : t.Follows) (rest : List Char) : Stops (word ++ rest) := by
  cases h with
  | number h => cases h <;> exact ht.elim
  | name h => exact ht.elim
  | sign h =>
    intro c hc
    simp only [List.mem_cons, List.not_mem_nil, or_false] at h
    rcases h with rfl | rfl | rfl | rfl | rfl | rfl | rfl
    all_goals
      cases Option.some.inj hc
      decide

/-- What begins an expression does not make a sign before it longer. -/
lemma head_of_begins (h : NormalSpelling t word) (ht : t.Begins) : ∀ c ∈ word.head?, c ∉ ['=', '*', '/', '>'] := by
  have hexclude {c : Char} (hc : c ∈ ['=', '*', '/', '>']) :
      (c.isAlpha || c == '_') = false ∧ c.isDigit = false ∧ c ≠ '.' := by
    simp only [List.mem_cons, List.not_mem_nil, or_false] at hc
    rcases hc with rfl | rfl | rfl | rfl
    all_goals decide
  intro c hc hmem
  obtain ⟨hletter, hdigit, hpoint⟩ := hexclude hmem
  cases h with
  | number h =>
    obtain ⟨d, more, rfl, hd⟩ := h.head
    cases Option.some.inj hc
    rcases hd with hd | hd
    · rw [hd] at hdigit
      cases hdigit
    · exact hpoint hd.1
  | name h =>
    obtain ⟨d, more, rfl, hd, _⟩ := h.identifier
    cases Option.some.inj hc
    rw [hd] at hletter
    cases hletter
  | sign =>
    rcases ht with rfl | rfl | rfl
    all_goals
      cases Option.some.inj hc
      exact absurd hmem (by decide)

end NormalSpelling

/-! Scanning -/

open Token (next nest scan)

/-- A written number is the next token before a text that stops there. -/
lemma next_number {t : Token} {text rest : List Char} (h : Literal t text) (hrest : Stops rest) :
    next (text ++ rest) = some (t, rest) := by
  have hnumber := number_literal h hrest
  obtain ⟨c, more, rfl, hc⟩ := h.head
  rw [List.cons_append] at hnumber ⊢
  rw [← hnumber]
  rcases hc with hc | ⟨rfl, d, more, rfl, hd⟩
  · simp [next, hc]
  · simp [next, hd]

/-- A letter or an underscore begins neither a number nor a text in quotes. -/
lemma begins_word_of_letter {c : Char} (h : (c.isAlpha || c == '_') = true) :
    c.isDigit = false ∧ c ≠ '.' ∧ c ≠ '"' ∧ c ≠ '\'' := by
  refine ⟨Formula.not_isDigit_of_isNameStart h, ?_, ?_, ?_⟩
  all_goals
    rintro rfl
    cases h

/-- A name of ASCII characters is a name of any script. -/
lemma IsName.isName {word : List Char} (h : IsName word) : Text.isName word = true := by
  have hlt := fun c hc => h.toNat_lt (c := c) hc
  obtain ⟨c, rest, rfl, hc, hrest⟩ := h.identifier
  rw [Text.isName, Bool.and_eq_true, Text.isNameStart, if_pos (hlt c List.mem_cons_self)]
  refine ⟨hc, List.all_eq_true.2 fun d hd => ?_⟩
  rw [Text.isNamePart, if_pos (hlt d (List.mem_cons_of_mem c hd))]
  exact hrest d hd

/-- What begins a name begins no number and no string. -/
lemma begins_word_of_isNameStart {c : Char} (h : Text.isNameStart c = true) :
    c.isDigit = false ∧ c ≠ '.' ∧ c ≠ '"' ∧ c ≠ '\'' := by
  rw [Text.isNameStart] at h
  split at h
  · exact begins_word_of_letter h
  · rename_i hbeyond
    refine ⟨?_, ?_, ?_, ?_⟩
    · rw [← Bool.not_eq_true]
      intro hdigit
      have hlow := (isAlphanum_iff c).1 (isAlphanum_of_isDigit hdigit)
      omega
    all_goals
      rintro rfl
      exact hbeyond (by decide)

/-- What can begin a name can continue it. -/
lemma isNamePart_of_isNameStart {c : Char} (h : Text.isNameStart c = true) : Text.isNamePart c = true := by
  rw [Text.isNameStart] at h
  rw [Text.isNamePart]
  split at h
  · rename_i hascii
    rw [if_pos hascii]
    exact Formula.isWord_of_isNameStart h
  · rename_i hbeyond
    rw [if_neg hbeyond, h, Bool.true_or]

/-- What goes on a name goes on a word. -/
lemma isWordChar_of_isNamePart {c : Char} (h : Text.isNamePart c = true) : Token.isWordChar c = true := by
  rw [Text.isNamePart] at h
  split at h
  · rw [Token.isWordChar, h, Bool.true_or]
  · rename_i hbeyond
    rw [Token.isWordChar, decide_eq_true (Nat.le_of_not_lt hbeyond), Bool.or_true]

/-- Every character of a name can stand in a name. -/
lemma isNamePart_of_mem {word : List Char} (h : Text.isName word = true) :
    ∀ c ∈ word, Text.isNamePart c = true := by
  cases word with
  | nil => cases h
  | cons c rest =>
    rw [Text.isName, Bool.and_eq_true, List.all_eq_true] at h
    exact List.forall_mem_cons.2 ⟨isNamePart_of_isNameStart h.1, h.2⟩

/-- A name of any script is found as one token. -/
lemma next_of_isName {word rest : List Char} (h : Text.isName word = true) (hrest : Stops rest) :
    next (word ++ rest) = some (.word word, rest) := by
  have hwords : ∀ c ∈ word, Token.isWordChar c = true := fun c hc =>
    isWordChar_of_isNamePart (isNamePart_of_mem h c hc)
  have htake : (word ++ rest).takeWhile Token.isWordChar = word := by
    rw [List.takeWhile_append_of_pos hwords]
    cases rest with
    | nil => exact List.append_nil _
    | cons d rest => rw [List.takeWhile_cons_of_neg (by simp [(hrest d rfl).1]), List.append_nil]
  have hdrop : (word ++ rest).dropWhile Token.isWordChar = rest := by
    rw [List.dropWhile_append_of_pos hwords]
    cases rest with
    | nil => rfl
    | cons d rest => rw [List.dropWhile_cons_of_neg (by simp [(hrest d rfl).1])]
  obtain ⟨c, more, rfl⟩ : ∃ c more, word = c :: more := by
    cases word with
    | nil => cases h
    | cons c more => exact ⟨c, more, rfl⟩
  have hstart : Text.isNameStart c = true := (Bool.and_eq_true_iff.1 h).1
  obtain ⟨hdigit, hpoint, hdouble, hsingle⟩ := begins_word_of_isNameStart hstart
  rw [List.cons_append] at htake hdrop ⊢
  simp only [next, hdigit, hpoint, hdouble, hsingle, hwords c List.mem_cons_self, htake, hdrop, decide_false,
     Bool.false_and, Bool.or_self, Bool.false_eq_true, if_false, if_true]
  cases rest with
  | nil => rw [if_pos h]
  | cons d rest =>
    obtain ⟨_, _, hd, hd'⟩ := hrest d rfl
    simp only [hd, hd', decide_false, Bool.or_self, Bool.false_eq_true, if_false, if_pos h]

/-- A name is the next token before a text that stops there. -/
lemma next_name {word rest : List Char} (h : IsName word) (hrest : Stops rest) :
    next (word ++ rest) = some (.word word, rest) := next_of_isName h.isName hrest

/-- A sign is found if nothing behind it makes it longer. -/
lemma next_sign {s rest : List Char} (hs : s ∈ [['+'], ['-'], ['*'], ['/'], ['*', '*'], ['('], [')']])
    (hrest : s = [')'] ∨ ∀ c ∈ rest.head?, c ∉ ['=', '*', '/', '>']) : next (s ++ rest) = some (.sign s, rest) := by
  simp only [List.mem_cons, List.not_mem_nil, or_false] at hs
  cases rest with
  | nil => rcases hs with rfl | rfl | rfl | rfl | rfl | rfl | rfl <;> rfl
  | cons d rest =>
    rcases hs with rfl | rfl | rfl | rfl | rfl | rfl | rfl
    case inr.inr.inr.inr.inr.inr => rfl
    all_goals
      have hd := hrest.resolve_left (by decide) d rfl
      simp only [List.mem_cons, List.not_mem_nil, or_false, not_or, eq_comm (a := d), ← ne_eq,
        ← beq_eq_false_iff_ne] at hd
      simp [next, Token.signAt, Token.longSigns, Token.shortSigns, Token.isWordChar, List.find?,
        List.isPrefixOf, hd]

/-- Whether a token is found as it is before a text: nothing there goes on with it. -/
def Fits (t : Token) (rest : List Char) : Prop :=
  (t.Finishes → Stops rest) ∧ (¬ t.Finishes → ∀ c ∈ rest.head?, c ∉ ['=', '*', '/', '>'])

/-- Every token fits at the end. -/
lemma fits_nil (t : Token) : Fits t [] := ⟨fun _ => nofun, fun _ => nofun⟩

/-- A spelled token is found before a text that does not go on with it. -/
lemma next_of_fits {t : Token} {word rest : List Char} (h : NormalSpelling t word) (hrest : Fits t rest) :
    next (word ++ rest) = some (t, rest) := by
  cases h with
  | number h => exact next_number h (hrest.1 (by cases h <;> trivial))
  | name h => exact next_name h (hrest.1 trivial)
  | sign hs =>
    by_cases hclosing : word = [')']
    · exact next_sign hs (.inl hclosing)
    · exact next_sign hs (.inr (hrest.2 hclosing))

namespace Laid

variable {spelling : Token → List Char → Prop} {t u : Token} {tokens : List Token} {cs gap : List Char}

/-- A text of tokens begins with the first of them. -/
lemma head (h : Laid spelling (t :: tokens) cs) : ∃ word more, cs = word ++ more ∧ spelling t word := by
  cases h with
  | single h => exact ⟨cs, [], (List.append_nil _).symm, h⟩
  | cons h => exact ⟨_, _, rfl, h⟩

/-- A token fits before a gap and a token that may follow it. -/
lemma fits (h : Laid NormalSpelling (u :: tokens) cs) (hgap : ∀ c ∈ gap, IsGap c) (hmeets : t.Meets u) :
    Fits t (gap ++ cs) := by
  cases gap with
  | cons c gap =>
    have hc : IsGap c := hgap c List.mem_cons_self
    constructor
    · intro _ d hd
      cases Option.some.inj hd
      rcases hc with rfl | rfl | rfl <;> decide
    · intro _ d hd
      cases Option.some.inj hd
      rcases hc with rfl | rfl | rfl <;> decide
  | nil =>
    obtain ⟨word, more, rfl, hword⟩ := h.head
    rw [List.nil_append]
    rcases hmeets with ⟨hfinishes, hfollows⟩ | ⟨hnot, hbegins⟩
    · exact ⟨fun _ => hword.stops_of_follows hfollows more, fun hnot => absurd hfinishes hnot⟩
    · refine ⟨fun hfinishes => absurd hfinishes hnot, fun _ c hc => hword.head_of_begins hbegins c ?_⟩
      obtain ⟨d, rest, rfl⟩ := List.exists_cons_of_ne_nil hword.ne_nil
      exact hc

end Laid

/-- Gaps after a token are passed over. -/
lemma scan_gap {gap : List Char} (hgap : ∀ c ∈ gap, IsGap c) (fuel : Nat) (opened : List Char) (indented : Bool)
    (rest : List Char) :
    ∃ indented',
      scan (gap.length + fuel) opened false indented (gap ++ rest) = scan fuel opened false indented' rest := by
  induction gap generalizing indented with
  | nil => exact ⟨indented, by rw [List.length_nil, Nat.zero_add, List.nil_append]⟩
  | cons c gap ih =>
    obtain ⟨hc, htail⟩ := List.forall_mem_cons.1 hgap
    have hlength : (c :: gap).length + fuel = gap.length + fuel + 1 := by
      rw [List.length_cons]
      omega
    rw [hlength, List.cons_append]
    rcases hc with rfl | rfl | rfl
    · exact ih htail true
    · exact ih htail true
    · exact ih htail false

/-- A token that is found goes before those that are found behind it. -/
lemma scan_token {c : Char} {cs rest opened opened' : List Char} {t : Token} {fresh indented : Bool} (hc : IsInk c)
    (hnext : next (c :: cs) = some (t, rest)) (hnest : nest opened t = some opened')
    (hfresh : (fresh && indented) = false) (fuel : Nat) :
    scan (fuel + 1) opened fresh indented (c :: cs) = (scan fuel opened' false false rest).map (t :: ·) := by
  obtain ⟨hspace, htab, hfeed, hline⟩ := hc.not_gap
  conv_lhs => unfold Token.scan
  rw [if_neg (by simp [hspace, htab]), if_neg hfeed, if_neg hc.not_comment, if_neg hline, if_neg hc.not_escape,
    if_neg (by simp [hfresh]), hnext]
  simp only [hnest]

/-- The scanner finds the tokens of a text without carets, if their parentheses fit. -/
lemma Laid.scan {tokens : List Token} {cs : List Char} (h : Laid NormalSpelling tokens cs)
    (hmeets : tokens.IsChain Token.Meets) {opened : List Char} (hnest : tokens.foldlM nest opened = some [])
    {fresh indented : Bool} (hfresh : (fresh && indented) = false) {fuel : Nat} (hfuel : cs.length < fuel) :
    scan fuel opened fresh indented cs = some tokens := by
  induction h generalizing opened fresh indented fuel with
  | @single t word hword =>
    have hnext := next_of_fits hword (fits_nil t)
    have hink := hword.isInk
    obtain ⟨c, more, rfl⟩ := List.exists_cons_of_ne_nil hword.ne_nil
    obtain ⟨fuel, rfl⟩ := Nat.exists_eq_succ_of_ne_zero (Nat.ne_zero_of_lt hfuel)
    replace hnest : nest opened t = some [] := by
      obtain ⟨opened', hopened, hnest⟩ := Option.bind_eq_some_iff.1 hnest
      rwa [Option.some.inj hnest] at hopened
    rw [List.append_nil] at hnext
    rw [scan_token (hink c List.mem_cons_self).1 hnext hnest hfresh]
    cases fuel with
    | zero => exact absurd hfuel (by simp)
    | succ fuel => rfl
  | @cons t word gap tokens rest hword hgap hrest ih =>
    obtain ⟨u, others, rfl⟩ : ∃ u others, tokens = u :: others := by
      cases hrest <;> exact ⟨_, _, rfl⟩
    obtain ⟨hmeet, hmeets⟩ := List.isChain_cons_cons.1 hmeets
    obtain ⟨opened', hopened, hnest⟩ := Option.bind_eq_some_iff.1 hnest
    have hnext := next_of_fits hword (hrest.fits hgap hmeet)
    have hink := hword.isInk
    obtain ⟨c, more, rfl⟩ := List.exists_cons_of_ne_nil hword.ne_nil
    -- one step reads the word, and one step each character of the gap
    obtain ⟨fuel, rfl⟩ : ∃ fuel', fuel = gap.length + fuel' + 1 := by
      simp only [List.length_append, List.length_cons] at hfuel
      exact ⟨fuel - gap.length - 1, by omega⟩
    obtain ⟨indented', hscan⟩ := scan_gap hgap fuel opened' false rest
    have hrest' : Token.scan fuel opened' false indented' rest = some (u :: others) := by
      refine ih hmeets hnest rfl ?_
      simp only [List.length_append, List.length_cons] at hfuel
      omega
    rw [List.cons_append] at hnext ⊢
    rw [scan_token (hink c List.mem_cons_self).1 hnext hopened hfresh, hscan, hrest']
    rfl

/-! Texts -/

/-- Carets are expanded one by one, wherever they stand. -/
lemma expandCarets_append (cs ds : List Char) : expandCarets (cs ++ ds) = expandCarets cs ++ expandCarets ds :=
  List.flatMap_append

/-- A text without carets stays as it is. -/
lemma expandCarets_eq_self {cs : List Char} (h : ∀ c ∈ cs, c ≠ '^') : expandCarets cs = cs := by
  induction cs with
  | nil => rfl
  | cons c cs ih =>
    obtain ⟨hc, hcs⟩ := List.forall_mem_cons.1 h
    rw [← List.singleton_append, expandCarets_append, ih hcs]
    simp [expandCarets, hc]

/-- A text that is not empty is not empty with carets expanded. -/
lemma expandCarets_ne_nil {cs : List Char} (h : cs ≠ []) : expandCarets cs ≠ [] := by
  obtain ⟨c, more, rfl⟩ := List.exists_cons_of_ne_nil h
  rw [expandCarets, List.flatMap_cons]
  split
  all_goals exact List.cons_ne_nil _ _

/-- A text with no carriage return has its lines ended alike. -/
lemma unifyLines_eq_self {cs : List Char} (h : ∀ c ∈ cs, c ≠ '\r') : Text.unifyLines cs = cs := by
  induction cs with
  | nil => rfl
  | cons c cs ih =>
    obtain ⟨hc, hcs⟩ := List.forall_mem_cons.1 h
    rw [Text.unifyLines, ih hcs]
    · rintro _ rfl
      exact absurd rfl hc
    · exact hc

namespace Spelling

variable {t : Token} {word : List Char}

/-- A spelling consists of ink. -/
lemma isInk (h : Spelling t word) : ∀ c ∈ word, IsInk c := by
  cases h with
  | normal h => exact fun c hc => (h.isInk c hc).1
  | caret => exact fun c hc => isInk_of_mem (by rw [List.mem_singleton.1 hc]; decide)

/-- A spelling is not empty. -/
lemma ne_nil (h : Spelling t word) : word ≠ [] := by
  cases h with
  | normal h => exact h.ne_nil
  | caret => exact List.cons_ne_nil _ _

/-- A caret becomes the sign of a power. -/
lemma expand (h : Spelling t word) : NormalSpelling t (expandCarets word) := by
  cases h with
  | normal h =>
    rw [expandCarets_eq_self fun c hc => (h.isInk c hc).2]
    exact h
  | caret => exact .sign (by decide)

end Spelling

namespace Laid

variable {tokens : List Token} {cs : List Char}

/-- With carets expanded, tokens laid out are laid out without carets. -/
lemma expand (h : Laid Spelling tokens cs) : Laid NormalSpelling tokens (expandCarets cs) := by
  induction h with
  | single h => exact .single h.expand
  | @cons t word gap tokens rest hword hgap _ ih =>
    have hsame : expandCarets gap = gap := by
      refine expandCarets_eq_self fun c hc => ?_
      rintro rfl
      cases (hgap _ hc).isBlank
    rw [expandCarets_append, expandCarets_append, hsame]
    exact .cons hword.expand hgap ih

/-- A text of tokens begins with a character of one. -/
lemma first (h : Laid Spelling tokens cs) : ∃ c more, cs = c :: more ∧ IsInk c := by
  obtain ⟨t, others, rfl⟩ : ∃ t others, tokens = t :: others := by
    cases h <;> exact ⟨_, _, rfl⟩
  obtain ⟨word, rest, rfl, hword⟩ := h.head
  have hink := hword.isInk
  obtain ⟨c, more, rfl⟩ := List.exists_cons_of_ne_nil hword.ne_nil
  exact ⟨c, more ++ rest, rfl, hink c List.mem_cons_self⟩

/-- A text of tokens ends with a character of one. -/
lemma last (h : Laid Spelling tokens cs) : ∃ front d, cs = front ++ [d] ∧ IsInk d := by
  induction h with
  | @single t word hword =>
    refine ⟨_, _, (List.dropLast_append_getLast hword.ne_nil).symm, ?_⟩
    exact hword.isInk _ (List.getLast_mem hword.ne_nil)
  | @cons t word gap tokens rest _ _ _ ih =>
    obtain ⟨front, d, rfl, hd⟩ := ih
    exact ⟨word ++ (gap ++ front), d, by simp only [List.append_assoc], hd⟩

/-- Tokens laid out consist of ink and gaps. -/
lemma isInk_or_isGap (h : Laid NormalSpelling tokens cs) : ∀ c ∈ cs, IsInk c ∨ IsGap c := by
  induction h with
  | single h => exact fun c hc => .inl (h.isInk c hc).1
  | cons hword hgap _ ih =>
    refine List.forall_mem_append.2 ⟨fun c hc => .inl (hword.isInk c hc).1, ?_⟩
    exact List.forall_mem_append.2 ⟨fun c hc => .inr (hgap c hc), ih⟩

/-- The tokens of a text without carets are those of which it consists. -/
lemma tokens_eq (h : Laid NormalSpelling tokens cs) (hspaced : Wellspaced tokens)
    (hnest : tokens.foldlM nest [] = some []) : Expression.tokens cs = some tokens := by
  have hlines : Text.unifyLines cs = cs := by
    refine unifyLines_eq_self fun c hc => ?_
    rcases h.isInk_or_isGap c hc with hink | hgap
    · exact hink.not_line
    · rintro rfl
      rcases hgap with hgap | hgap | hgap <;> cases hgap
  have hscan : Token.scan (cs.length + 1) [] true false cs = some tokens :=
    h.scan hspaced.meets hnest rfl (Nat.lt_succ_self cs.length)
  obtain ⟨front, t, rfl, ht⟩ := hspaced.finishes
  have hend : (t :: front.reverse).dropWhile (· == Token.lineEnd) = t :: front.reverse := by
    refine List.dropWhile_cons_of_neg ?_
    rw [beq_iff_eq]
    rintro rfl
    exact ht
  rw [Expression.tokens, hlines, hscan, Option.map_some, List.reverse_append, List.reverse_singleton,
    List.singleton_append, hend, List.reverse_cons, List.reverse_reverse]

end Laid

/-- A text that renders an expression is parsed as it, and its free names are those of the expression, in the
order in which they stand in the text. -/
theorem parse_of_renders {e : Expression} {tokens : List Token} {text : String} (h : e.Renders tokens text) :
    parse text = .ok e ∧ tokens.filterMap Token.name? = e.names ∧
    freeVariables text = .ok (tokens.filterMap Token.name?).eraseDups := by
  obtain ⟨front, body, back, htext, hlaid, hfront, hback⟩ := h.laid
  obtain ⟨c, more, hfirst, hc⟩ := hlaid.first
  obtain ⟨others, d, hlast, hd⟩ := hlaid.last
  have htrim : Text.trim text.toList = body := by
    rw [htext]
    exact Formula.trim_append hfront hback hfirst hc.not_blank hlast hd.not_blank
  have hnormal := hlaid.expand
  have htokens := hnormal.tokens_eq (wellspaced_of_writes h.writes) (nest_of_writes h.writes (Nat.le_refl 200))
  have hne : expandCarets body ≠ [] := by
    rw [hfirst]
    exact expandCarets_ne_nil (List.cons_ne_nil c more)
  have hnull : ¬ (expandCarets body).contains '\x00' = true := by
    rw [List.contains_iff_mem]
    intro hmem
    rcases hnormal.isInk_or_isGap _ hmem with hink | hgap
    · exact hink.not_null rfl
    · rcases hgap with hgap | hgap | hgap <;> cases hgap
  have hparse : parse text = .ok e := by
    rw [parse, htrim]
    simp only [if_neg hne, if_neg hnull, htokens, read_of_writes h.writes]
  have hnames := names_of_writes h.writes
  refine ⟨hparse, hnames, ?_⟩
  rw [freeVariables_of_parse hparse, freeNames, Formula.distinct_eq_eraseDups, hnames]
  simp

/-- The theorem applies, for example, to a text with both signs for a power, signs before and behind one, and
parentheses that are not needed. -/
theorem parse_of_renders_mixed :
    let e := binary .mul (neg (binary .pow (name "x") (binary .pow (int 10) (neg (float (.ofDecimal false 5 0))))))
      (name "y")
    (∃ tokens, e.Renders tokens " -x^(1_0 )** -.5e1\t*y") ∧ parse " -x^(1_0 )** -.5e1\t*y" = .ok e ∧
    freeVariables " -x^(1_0 )** -.5e1\t*y" = .ok ["x", "y"] := by
  intro e
  have hx : IsName ['x'] := ⟨⟨'x', [], rfl, rfl, nofun⟩, by decide⟩
  have hy : IsName ['y'] := ⟨⟨'y', [], rfl, rfl, nofun⟩, by decide⟩
  have hten : Literal (.int 10) ['1', '_', '0'] := by
    have hdigits : Digits Char.isDigit ['1', '_', '0'] ['1', '0'] := .spaced rfl (.single rfl)
    exact .decimal hdigits (by decide) (by decide)
  have hfive : Literal (.float (.ofDecimal false 5 0)) ['.', '5', 'e', '1'] := by
    have hplaces : Digits Char.isDigit ['5'] ['5'] := .single rfl
    have hpower : Exponent ['e', '1'] 1 := by
      have hdigits : Digits Char.isDigit ['1'] ['1'] := .single rfl
      exact .plain (.inl rfl) hdigits
    have hvalue : Token.value 10 ([] ++ ['5']) = 5 := rfl
    have hplace : (1 : Int) - (['5'] : List Char).length = 0 := rfl
    rw [← hvalue, ← hplace]
    exact .point .missing (.present hplaces) (by decide) (.present hpower)
  have hwrites : Writes 200 0 e _ :=
    .binary (by decide) (by decide)
      (.neg (by decide) (.pow (by decide) (.name hx)
        (.pow (by decide) (.group .int) (.neg (by decide) .float))))
      (.name hy)
  have htext : " -x^(1_0 )** -.5e1\t*y".toList =
      [' '] ++ ((['-'] ++ ([] ++ (['x'] ++ ([] ++ (['^'] ++ ([] ++ (['('] ++ ([] ++ (['1', '_', '0'] ++ ([' '] ++
        ([')'] ++ ([] ++ (['*', '*'] ++ ([' '] ++ (['-'] ++ ([] ++ (['.', '5', 'e', '1'] ++ (['\t'] ++
          (['*'] ++ ([] ++ ['y'])))))))))))))))))))) ++ []) := rfl
  have hnone : ∀ c ∈ ([] : List Char), IsGap c := List.forall_mem_nil _
  have hspace : ∀ c ∈ [' '], IsGap c := fun c hc => .inl (List.mem_singleton.1 hc)
  have htab : ∀ c ∈ ['\t'], IsGap c := fun c hc => .inr (.inl (List.mem_singleton.1 hc))
  have hrenders := Renders.mk hwrites ⟨[' '], _, [], htext,
    .cons (.normal (.sign (by decide))) hnone (.cons (.normal (.name hx)) hnone (.cons .caret hnone
      (.cons (.normal (.sign (by decide))) hnone (.cons (.normal (.number hten)) hspace
        (.cons (.normal (.sign (by decide))) hnone (.cons (.normal (.sign (by decide))) hspace
          (.cons (.normal (.sign (by decide))) hnone (.cons (.normal (.number hfive)) htab
            (.cons (.normal (.sign (by decide))) hnone (.single (.normal (.name hy)))))))))))),
    fun c hc => (hspace c hc).isBlank, List.forall_mem_nil _⟩
  obtain ⟨hparse, hnames, hfree⟩ := parse_of_renders hrenders
  rw [hnames] at hfree
  exact ⟨⟨_, hrenders⟩, hparse, hfree⟩

end Expression

end ProductLine
