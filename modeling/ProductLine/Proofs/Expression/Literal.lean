import Mathlib.Tactic.Common
import ProductLine.Proofs.Expression.Reading

/-!
# Literals

The ways to write a whole number (in one of four bases, underscores between the digits) and a number with a
point or an exponent (`Literal`), and that each is found as one token, with its value, at the start of a text
that goes on with nothing that a number could go on with (`number_literal`).
-/

namespace ProductLine

namespace Expression

open Token

/-- The ways to write a run of digits: single underscores may stand between them. -/
inductive Digits (isDigit : Char → Bool) : List Char → List Char → Prop where
  | single {c} :
    isDigit c = true →
    Digits isDigit [c] [c]
  | cons {c text digits} :
    isDigit c = true →
    Digits isDigit text digits →
    Digits isDigit (c :: text) (c :: digits)
  | spaced {c text digits} :
    isDigit c = true →
    Digits isDigit text digits →
    Digits isDigit (c :: '_' :: text) (c :: digits)

/-- The ways to write the exponent of a number. -/
inductive Exponent : List Char → Int → Prop where
  | plain {e text digits} :
    e = 'e' ∨ e = 'E' →
    Digits Char.isDigit text digits →
    Exponent (e :: text) (value 10 digits)
  | plus {e text digits} :
    e = 'e' ∨ e = 'E' →
    Digits Char.isDigit text digits →
    Exponent (e :: '+' :: text) (value 10 digits)
  | minus {e text digits} :
    e = 'e' ∨ e = 'E' →
    Digits Char.isDigit text digits →
    Exponent (e :: '-' :: text) (-(value 10 digits : Int))

/-- A part of a number that may be missing, which stands for `default`. -/
inductive Optional {α : Type} (part : List Char → α → Prop) (default : α) : List Char → α → Prop where
  | missing :
    Optional part default [] default
  | present {text a} :
    part text a →
    Optional part default text a

/-- The marks of the bases other than ten. -/
inductive Radix : Char → Nat → (Char → Bool) → Prop where
  | hexadecimal {mark} :
    mark = 'x' ∨ mark = 'X' →
    Radix mark 16 isHexDigit
  | octal {mark} :
    mark = 'o' ∨ mark = 'O' →
    Radix mark 8 fun c => '0' ≤ c && c ≤ '7'
  | binary {mark} :
    mark = 'b' ∨ mark = 'B' →
    Radix mark 2 fun c => c == '0' || c == '1'

/-- The ways to write a number. A whole number in base ten begins with a zero only if it is zero, and has no
more digits than fit. A number with a point has digits before or behind it. -/
inductive Literal : Token → List Char → Prop where
  | decimal {text digits} :
    Digits Char.isDigit text digits →
    (digits.head? = some '0' → ∀ d ∈ digits, d = '0') →
    digits.length ≤ maxDigits →
    Literal (.int (value 10 digits)) text
  | based {mark base isDigit text digits} :
    Radix mark base isDigit →
    Digits isDigit text digits →
    Literal (.int (value base digits)) ('0' :: mark :: text)
  | basedSpaced {mark base isDigit text digits} :
    Radix mark base isDigit →
    Digits isDigit text digits →
    Literal (.int (value base digits)) ('0' :: mark :: '_' :: text)
  | point {whole places power wholeDigits placeDigits exponent} :
    Optional (Digits Char.isDigit) [] whole wholeDigits →
    Optional (Digits Char.isDigit) [] places placeDigits →
    wholeDigits ++ placeDigits ≠ [] →
    Optional Exponent 0 power exponent →
    Literal (.float (.ofDecimal false (value 10 (wholeDigits ++ placeDigits)) (exponent - placeDigits.length)))
      (whole ++ '.' :: (places ++ power))
  | scientific {whole power wholeDigits exponent} :
    Digits Char.isDigit whole wholeDigits →
    Exponent power exponent →
    Literal (.float (.ofDecimal false (value 10 wholeDigits) exponent)) (whole ++ power)

/-- Whether a text goes on with nothing that a number or a word could go on with. -/
def Stops (rest : List Char) : Prop :=
  ∀ c ∈ rest.head?, isWordChar c = false ∧ c ≠ '.' ∧ c ≠ '"' ∧ c ≠ '\''

/-! Characters -/

/-- Letters and digits stand in words. -/
lemma isWordChar_of_isAlphanum {c : Char} (h : c.isAlphanum = true) : isWordChar c = true := by
  rw [isWordChar, h]
  rfl

/-- Decimal digits are letters or digits of ASCII. -/
lemma isAlphanum_of_isDigit {c : Char} (h : c.isDigit = true) : c.isAlphanum = true := by
  rw [Char.isAlphanum, h, Bool.or_true]

/-- The digits of every base are letters or digits of ASCII. -/
lemma Radix.isAlphanum {mark : Char} {base : Nat} {isDigit : Char → Bool} (h : Radix mark base isDigit) {c : Char}
    (hc : isDigit c = true) : c.isAlphanum = true := by
  have hnat : c.toNat = c.val.toNat := rfl
  rw [isAlphanum_iff]
  cases h with
  | hexadecimal =>
    simp only [isHexDigit, Char.isDigit, Bool.or_eq_true, Bool.and_eq_true, decide_eq_true_eq, Char.le_def,
      ge_iff_le, UInt32.le_iff_toNat_le, Char.reduceVal, UInt32.reduceToNat] at hc
    omega
  | octal =>
    simp only [Bool.and_eq_true, decide_eq_true_eq, Char.le_def, UInt32.le_iff_toNat_le, Char.reduceVal,
      UInt32.reduceToNat] at hc
    omega
  | binary =>
    rcases Bool.or_eq_true_iff.1 hc with hc | hc
    all_goals
      rw [beq_iff_eq.1 hc]
      decide

namespace Stops

variable {rest : List Char}

/-- What stops a number is neither a digit of any kind nor an underscore. -/
lemma not_isDigit (h : Stops rest) {isDigit : Char → Bool} (hdigit : ∀ c, isDigit c = true → c.isAlphanum = true) :
    ∀ c ∈ rest.head?, isDigit c = false ∧ c ≠ '_' := by
  intro c hc
  have hword := (h c hc).1
  constructor
  · rw [← Bool.not_eq_true]
    intro hc
    rw [isWordChar_of_isAlphanum (hdigit c hc)] at hword
    cases hword
  · rintro rfl
    cases hword

/-- Where a text stops, a number ends. -/
lemma endsNumber (h : Stops rest) : Token.endsNumber rest = true := by
  cases rest with
  | nil => rfl
  | cons c rest => simp [Token.endsNumber, (h c rfl).1]

/-- Where a number stops there is no exponent. -/
lemma exponent (h : Stops rest) : Token.exponent rest = some (none, rest) := by
  cases rest with
  | nil => rfl
  | cons c rest =>
    have hne : ¬ (c = 'e' || c = 'E') = true := by
      intro hc
      have hword := (h c rfl).1
      rcases Bool.or_eq_true_iff.1 hc with hc | hc
      all_goals
        rw [of_decide_eq_true hc] at hword
        cases hword
    simp only [Token.exponent, if_neg hne]

/-- A number before a text that stops there is a token. -/
lemma finish (h : Stops rest) (t : Token) (x : Binary64) : Token.finish (some t) x rest = some (t, rest) := by
  cases rest with
  | nil => rfl
  | cons c rest =>
    have hne : ¬ (c = 'j' || c = 'J') = true := by
      intro hc
      have hword := (h c rfl).1
      rcases Bool.or_eq_true_iff.1 hc with hc | hc
      all_goals
        rw [of_decide_eq_true hc] at hword
        cases hword
    rw [Token.finish, if_neg hne, if_pos h.endsNumber]
    rfl

end Stops

/-! Digits and exponents -/

/-- Before anything else there is no run of digits. -/
lemma digitRun_of_not_isDigit {isDigit : Char → Bool} {rest : List Char}
    (hrest : ∀ c ∈ rest.head?, isDigit c = false ∧ c ≠ '_') : Token.digitRun isDigit rest = some ([], rest) := by
  cases rest with
  | nil => rfl
  | cons c rest =>
    obtain ⟨hc, hne⟩ := hrest c rfl
    rw [Token.digitRun.eq_def]
    simp [hc, hne]

/-- A digit goes on with the run of digits behind it. -/
lemma digitRun_cons {isDigit : Char → Bool} {c : Char} (hc : isDigit c = true) (rest : List Char) :
    Token.digitRun isDigit (c :: rest) = (Token.digitRun isDigit rest).map fun (run, rest) => (c :: run, rest) := by
  rw [Token.digitRun.eq_def]
  simp only [hc, if_true]

/-- An underscore before a digit is passed over. -/
lemma digitRun_underscore {isDigit : Char → Bool} (hunder : isDigit '_' = false) {c : Char} (hc : isDigit c = true)
    (rest : List Char) : Token.digitRun isDigit ('_' :: c :: rest) = Token.digitRun isDigit (c :: rest) := by
  rw [Token.digitRun.eq_def]
  simp only [hunder, Bool.false_eq_true, if_false, if_true, hc]

namespace Digits

variable {isDigit : Char → Bool} {text digits rest : List Char}

/-- A run of digits begins with a digit. -/
lemma head (h : Digits isDigit text digits) : ∃ c more, text = c :: more ∧ isDigit c = true := by
  cases h with
  | single hc => exact ⟨_, _, rfl, hc⟩
  | cons hc => exact ⟨_, _, rfl, hc⟩
  | spaced hc => exact ⟨_, _, rfl, hc⟩

/-- A run of digits has a digit. -/
lemma digits_ne_nil (h : Digits isDigit text digits) : digits ≠ [] := by
  cases h <;> exact List.cons_ne_nil _ _

/-- In a run of digits there are digits and underscores only. -/
lemma mem (h : Digits isDigit text digits) : ∀ c ∈ text, isDigit c = true ∨ c = '_' := by
  induction h with
  | single hc => simpa using .inl hc
  | cons hc _ ih => exact List.forall_mem_cons.2 ⟨.inl hc, ih⟩
  | spaced hc _ ih => exact List.forall_mem_cons.2 ⟨.inl hc, List.forall_mem_cons.2 ⟨.inr rfl, ih⟩⟩

/-- A run of digits is found before anything else. -/
lemma digitRun (h : Digits isDigit text digits) (hunder : isDigit '_' = false)
    (hrest : ∀ c ∈ rest.head?, isDigit c = false ∧ c ≠ '_') :
    Token.digitRun isDigit (text ++ rest) = some (digits, rest) := by
  have hnone := digitRun_of_not_isDigit hrest
  induction h with
  | single hc =>
    rw [List.singleton_append, digitRun_cons hc, hnone]
    rfl
  | cons hc _ ih =>
    rw [List.cons_append, digitRun_cons hc, ih]
    rfl
  | spaced hc htext ih =>
    obtain ⟨d, more, rfl, hd⟩ := htext.head
    rw [List.cons_append] at ih
    rw [List.cons_append, List.cons_append, List.cons_append, digitRun_cons hc, digitRun_underscore hunder hd, ih]
    rfl

end Digits

/-- A run of digits that is found is written so, with at most one underscore before it, or nothing is found. -/
lemma digits_of_digitRun {isDigit : Char → Bool} (hunder : isDigit '_' = false) {cs digits rest : List Char}
    (h : Token.digitRun isDigit cs = some (digits, rest)) :
    (digits = [] ∧ cs = rest) ∨
      ∃ text, Digits isDigit text digits ∧ (cs = text ++ rest ∨ cs = '_' :: (text ++ rest)) := by
  fun_induction Token.digitRun isDigit cs generalizing digits with
  | case1 =>
    cases h
    exact .inl ⟨rfl, rfl⟩
  | case2 c cs hc ih =>
    obtain ⟨⟨run, tail⟩, hrun, heq⟩ := Option.map_eq_some_iff.1 h
    cases heq
    right
    rcases ih hrun with ⟨rfl, rfl⟩ | ⟨text, htext, rfl | rfl⟩
    · exact ⟨[c], .single hc, .inl rfl⟩
    · exact ⟨c :: text, .cons hc htext, .inl rfl⟩
    · exact ⟨c :: '_' :: text, .spaced hc htext, .inl rfl⟩
  | case3 d cs hd _ ih =>
    rcases ih h with ⟨rfl, rfl⟩ | ⟨text, htext, hcs | hcs⟩
    · -- the digit behind the underscore is found
      rw [digitRun_cons hd] at h
      obtain ⟨⟨run, tail⟩, _, heq⟩ := Option.map_eq_some_iff.1 h
      cases heq
    · exact .inr ⟨text, htext, .inr (by rw [hcs])⟩
    · cases hcs
      rw [hunder] at hd
      cases hd
  | case4 => cases h
  | case5 => cases h
  | case6 =>
    cases h
    exact .inl ⟨rfl, rfl⟩

/-- The exponents that begin with a digit, with a plus and with a minus. -/
lemma exponent_eq {e d : Char} (he : e = 'e' ∨ e = 'E') (hd : d.isDigit = true) (rest : List Char) :
    let run := Token.digitRun Char.isDigit (d :: rest)
    Token.exponent (e :: d :: rest) = run.map (fun (run, rest) => (some (value 10 run : Int), rest)) ∧
    Token.exponent (e :: '+' :: d :: rest) = run.map (fun (run, rest) => (some (value 10 run : Int), rest)) ∧
    Token.exponent (e :: '-' :: d :: rest) = run.map (fun (run, rest) => (some (-(value 10 run : Int)), rest)) := by
  have hmark : (e = 'e' || e = 'E') = true := by simpa using he
  have hplus : d ≠ '+' := by
    rintro rfl
    cases hd
  have hminus : d ≠ '-' := by
    rintro rfl
    cases hd
  refine ⟨?_, ?_, ?_⟩
  · simp [Token.exponent, hmark, hplus, hminus, hd]
  · simp [Token.exponent, hmark, hd]
  · simp [Token.exponent, hmark, hd]

/-- An exponent is found before what stops a number. -/
lemma Exponent.found {text rest : List Char} {p : Int} (h : Exponent text p) (hrest : Stops rest) :
    Token.exponent (text ++ rest) = some (some p, rest) := by
  have hstops := hrest.not_isDigit fun _ => isAlphanum_of_isDigit
  cases h with
  | plain he hdigits =>
    have hrun := hdigits.digitRun rfl hstops
    obtain ⟨d, more, rfl, hd⟩ := hdigits.head
    rw [List.cons_append, List.cons_append, (exponent_eq he hd _).1, ← List.cons_append, hrun]
    rfl
  | plus he hdigits =>
    have hrun := hdigits.digitRun rfl hstops
    obtain ⟨d, more, rfl, hd⟩ := hdigits.head
    rw [List.cons_append, List.cons_append, List.cons_append, (exponent_eq he hd _).2.1, ← List.cons_append, hrun]
    rfl
  | minus he hdigits =>
    have hrun := hdigits.digitRun rfl hstops
    obtain ⟨d, more, rfl, hd⟩ := hdigits.head
    rw [List.cons_append, List.cons_append, List.cons_append, (exponent_eq he hd _).2.2, ← List.cons_append, hrun]
    rfl

/-- An exponent begins with its mark. -/
lemma Exponent.head {text : List Char} {p : Int} (h : Exponent text p) :
    ∃ e more, text = e :: more ∧ (e = 'e' ∨ e = 'E') := by
  cases h with
  | plain he => exact ⟨_, _, rfl, he⟩
  | plus he => exact ⟨_, _, rfl, he⟩
  | minus he => exact ⟨_, _, rfl, he⟩

/-! Numbers -/

/-- The rest of a number whose point was not reached. -/
lemma decimal_of_ne_point {whole rest : List Char} (hrest : '.' ∉ rest.head?) :
    decimal whole rest = (Token.exponent rest).bind fun (power, rest) =>
      finish
        (if power.isSome then some (.float (.ofDecimal false (value 10 whole) (power.getD 0)))
          else if (whole.head? = some '0' && whole.any (· != '0')) || maxDigits < whole.length then none
          else some (.int (value 10 whole)))
        (.ofDecimal false (value 10 whole) (power.getD 0)) rest := by
  cases rest with
  | nil => simp [decimal]
  | cons c rest =>
    have hne : c ≠ '.' := by
      rintro rfl
      exact hrest rfl
    simp [decimal, hne]

/-- The rest of a number from its point on. -/
lemma decimal_point {whole places digits tail : List Char}
    (hplaces : Optional (Digits Char.isDigit) [] places digits)
    (htail : ∀ c ∈ tail.head?, c.isDigit = false ∧ c ≠ '_') :
    decimal whole ('.' :: (places ++ tail)) = (Token.exponent tail).bind fun (power, rest) =>
      finish (some (.float (.ofDecimal false (value 10 (whole ++ digits)) (power.getD 0 - digits.length))))
        (.ofDecimal false (value 10 (whole ++ digits)) (power.getD 0 - digits.length)) rest := by
  have hrun : Token.digitRun Char.isDigit (places ++ tail) = some (digits, tail) := by
    cases hplaces with
    | missing => exact digitRun_of_not_isDigit htail
    | present h => exact h.digitRun rfl htail
  have hne : '_' ∉ (places ++ tail).head? := by
    intro hc
    cases hplaces with
    | missing => exact (htail '_' hc).2 rfl
    | present h =>
      obtain ⟨d, more, rfl, hd⟩ := h.head
      cases Option.some.inj hc
      cases hd
  generalize places ++ tail = cs at hrun hne
  cases cs with
  | nil =>
    obtain ⟨rfl, rfl⟩ := Prod.mk.inj (Option.some.inj hrun)
    simp [decimal, Token.digitRun]
  | cons c rest =>
    have hc : c ≠ '_' := by
      rintro rfl
      exact hne rfl
    simp [decimal, hc, hrun]

/-- The marks of all bases. -/
def marks : List Char := ['x', 'X', 'o', 'O', 'b', 'B']

/-- Behind the first digit of a number in base ten comes no mark. -/
lemma not_mark_of_digits {text digits tail : List Char} (h : Digits Char.isDigit text digits)
    (htail : ∀ c ∈ tail.head?, c ∉ marks) : ∀ m rest, text ++ tail = '0' :: m :: rest → m ∉ marks := by
  intro m rest heq
  cases h with
  | single =>
    cases heq
    exact htail m rfl
  | cons _ h =>
    obtain ⟨d, more, rfl, hd⟩ := h.head
    cases heq
    intro hm
    simp only [marks, List.mem_cons, List.not_mem_nil, or_false] at hm
    rcases hm with rfl | rfl | rfl | rfl | rfl | rfl
    all_goals cases hd
  | spaced =>
    cases heq
    decide

/-- A number in base ten is read from its first digits on. -/
lemma number_of_digits {text digits tail : List Char} (h : Digits Char.isDigit text digits)
    (htail : ∀ c ∈ tail.head?, c.isDigit = false ∧ c ≠ '_' ∧ c ∉ marks) :
    number (text ++ tail) = decimal digits tail := by
  have hrun : Token.digitRun Char.isDigit (text ++ tail) = some (digits, tail) :=
    h.digitRun rfl fun c hc => ⟨(htail c hc).1, (htail c hc).2.1⟩
  have hmark := not_mark_of_digits h fun c hc => (htail c hc).2.2
  have hnumber : number (text ++ tail) =
      (Token.digitRun Char.isDigit (text ++ tail)).bind fun (whole, rest) => decimal whole rest := by
    obtain ⟨c, more, rfl, hc⟩ := h.head
    rw [List.cons_append] at hmark ⊢
    generalize more ++ tail = rest at hmark
    by_cases hzero : c = '0'
    · subst hzero
      cases rest with
      | nil => rfl
      | cons m rest =>
        have hnot := hmark m rest rfl
        simp only [marks, List.mem_cons, List.not_mem_nil, or_false, not_or] at hnot
        simp [number, hnot]
    · have hpoint : c ≠ '.' := by
        rintro rfl
        cases hc
      simp [number, hzero, hpoint]
  rw [hnumber, hrun]
  rfl

/-- An underscore is no digit in any base. -/
lemma Radix.not_underscore {mark : Char} {base : Nat} {isDigit : Char → Bool} (h : Radix mark base isDigit) :
    isDigit '_' = false := by
  cases h <;> rfl

/-- A number in another base is found behind its mark, with or without an underscore there. -/
lemma based_of_digits {mark : Char} {base : Nat} {isDigit : Char → Bool} (h : Radix mark base isDigit)
    {text digits rest : List Char} (hdigits : Digits isDigit text digits) (hrest : Stops rest) :
    based base isDigit (text ++ rest) = some (.int (value base digits), rest) ∧
    based base isDigit ('_' :: (text ++ rest)) = some (.int (value base digits), rest) := by
  have hrun := hdigits.digitRun h.not_underscore (hrest.not_isDigit fun _ => h.isAlphanum)
  have hne := hdigits.digits_ne_nil
  have hspaced : Token.digitRun isDigit ('_' :: (text ++ rest)) = some (digits, rest) := by
    obtain ⟨c, more, rfl, hc⟩ := hdigits.head
    rw [List.cons_append, digitRun_underscore h.not_underscore hc]
    exact hrun
  constructor
  · simp [based, hrun, hne, hrest.endsNumber]
  · simp [based, hspaced, hne, hrest.endsNumber]

/-- A zero and the mark of a base begin a number in this base. -/
lemma number_radix {mark : Char} {base : Nat} {isDigit : Char → Bool} (h : Radix mark base isDigit)
    (cs : List Char) : number ('0' :: mark :: cs) = based base isDigit cs := by
  cases h with
  | hexadecimal h => rcases h with rfl | rfl <;> rfl
  | octal h => rcases h with rfl | rfl <;> rfl
  | binary h => rcases h with rfl | rfl <;> rfl

/-- A number that is found behind the mark of a base is written with digits of this base. -/
theorem literal_of_number_radix {mark : Char} {base : Nat} {isDigit : Char → Bool} (h : Radix mark base isDigit)
    {cs rest : List Char} {t : Token} (hnumber : number ('0' :: mark :: cs) = some (t, rest)) :
    ∃ text, Literal t text ∧ '0' :: mark :: cs = text ++ rest := by
  rw [number_radix h, based] at hnumber
  obtain ⟨⟨digits, tail⟩, hrun, hfound⟩ := Option.bind_eq_some_iff.1 hnumber
  simp only at hfound
  split at hfound
  · cases hfound
  · rename_i hdigits
    cases hfound
    have hne : digits ≠ [] := by
      rintro rfl
      exact hdigits rfl
    rcases digits_of_digitRun h.not_underscore hrun with ⟨hnil, _⟩ | ⟨text, htext, rfl | rfl⟩
    · exact absurd hnil hne
    · exact ⟨'0' :: mark :: text, .based h htext, rfl⟩
    · exact ⟨'0' :: mark :: '_' :: text, .basedSpaced h htext, rfl⟩

/-- Two underscores may not stand behind a mark. -/
example : number ['0', 'x', '_', '_', '1'] = none := by decide

/-- Letters that mark an exponent are no digits and mark no base. -/
lemma not_digit_of_exponent {e : Char} (h : e = 'e' ∨ e = 'E') : e.isDigit = false ∧ e ≠ '_' ∧ e ∉ marks := by
  rcases h with rfl | rfl <;> decide

/-- What a text stops with is no digit, no underscore and no mark of a base. -/
lemma Stops.not_mark {rest : List Char} (h : Stops rest) :
    ∀ c ∈ rest.head?, c.isDigit = false ∧ c ≠ '_' ∧ c ∉ marks := by
  intro c hc
  obtain ⟨hdigit, hunder⟩ := h.not_isDigit (fun _ => isAlphanum_of_isDigit) c hc
  refine ⟨hdigit, hunder, ?_⟩
  intro hmark
  have hword := (h c hc).1
  simp only [marks, List.mem_cons, List.not_mem_nil, or_false] at hmark
  rcases hmark with rfl | rfl | rfl | rfl | rfl | rfl
  all_goals cases hword

/-- What comes behind the digits of a number with an optional exponent. -/
lemma head_of_optional {power rest : List Char} {p : Int} (h : Optional Exponent 0 power p) (hrest : Stops rest) :
    ∀ c ∈ (power ++ rest).head?, c.isDigit = false ∧ c ≠ '_' ∧ c ∉ marks := by
  cases h with
  | missing => exact hrest.not_mark
  | present h =>
    obtain ⟨e, more, rfl, he⟩ := h.head
    rintro c hc
    cases Option.some.inj hc
    exact not_digit_of_exponent he

/-- An optional exponent before what stops a number. -/
lemma exponent_of_optional {power rest : List Char} {p : Int} (h : Optional Exponent 0 power p)
    (hrest : Stops rest) : ∃ found, Token.exponent (power ++ rest) = some (found, rest) ∧ found.getD 0 = p := by
  cases h with
  | missing => exact ⟨none, hrest.exponent, rfl⟩
  | present h => exact ⟨some p, h.found hrest, rfl⟩

/-- A written number is found, with its value, at the start of a text that goes on with nothing that belongs
to it. -/
theorem number_literal {t : Token} {text rest : List Char} (h : Literal t text) (hrest : Stops rest) :
    number (text ++ rest) = some (t, rest) := by
  cases h with
  | @decimal _ digits hdigits hzero hlength =>
    have hpoint : '.' ∉ rest.head? := fun hc => (hrest '.' hc).2.1 rfl
    -- a zero in front is refused only if some digit behind it is not zero
    have hleading : ¬ (digits.head? = some '0' && digits.any (· != '0')) = true := by
      intro hleading
      obtain ⟨hhead, hany⟩ := Bool.and_eq_true_iff.1 hleading
      obtain ⟨d, hd, hne⟩ := List.any_eq_true.1 hany
      exact bne_iff_ne.1 hne (hzero (of_decide_eq_true hhead) d hd)
    rw [number_of_digits hdigits hrest.not_mark, decimal_of_ne_point hpoint, hrest.exponent]
    simp only [Option.bind_some, Option.isSome_none, Bool.false_eq_true, if_false]
    rw [if_neg (by simpa [hlength] using hleading)]
    exact hrest.finish _ _
  | based hradix hdigits =>
    rw [List.cons_append, List.cons_append, number_radix hradix]
    exact (based_of_digits hradix hdigits hrest).1
  | basedSpaced hradix hdigits =>
    rw [List.cons_append, List.cons_append, List.cons_append, number_radix hradix]
    exact (based_of_digits hradix hdigits hrest).2
  | @point whole places power wholeDigits placeDigits p hwhole hplaces _ hpower =>
    obtain ⟨found, hfound, hp⟩ := exponent_of_optional hpower hrest
    have htail := head_of_optional hpower hrest
    have hdecimal : decimal wholeDigits ('.' :: (places ++ (power ++ rest))) = some (.float (.ofDecimal false
        (value 10 (wholeDigits ++ placeDigits)) (p - placeDigits.length)), rest) := by
      rw [decimal_point hplaces fun c hc => ⟨(htail c hc).1, (htail c hc).2.1⟩, hfound, Option.bind_some]
      simp only [hp]
      exact hrest.finish _ _
    rw [List.append_assoc, List.cons_append, List.append_assoc]
    cases hwhole with
    | missing => exact hdecimal
    | present hwhole =>
      rw [number_of_digits hwhole (by rintro c hc; cases Option.some.inj hc; decide)]
      exact hdecimal
  | @scientific whole power wholeDigits p hwhole hpower =>
    have htail := head_of_optional (.present hpower) hrest
    have hpoint : '.' ∉ (power ++ rest).head? := by
      obtain ⟨e, more, rfl, he⟩ := hpower.head
      intro hc
      cases Option.some.inj hc
      rcases he with he | he <;> cases he
    rw [List.append_assoc, number_of_digits hwhole htail, decimal_of_ne_point hpoint, hpower.found hrest]
    exact hrest.finish _ _

/-! The characters of numbers and names -/

/-- Whether a character can stand in a number or a name. -/
def IsNumeral (c : Char) : Prop := c.isAlphanum = true ∨ c ∈ ['_', '.', '+', '-']

/-- The characters of a name can stand in a name. -/
lemma IsName.isNumeral {word : List Char} (h : IsName word) : ∀ c ∈ word, IsNumeral c := by
  intro c hc
  rcases Bool.or_eq_true_iff.1 (h.isAlphanum_of_mem c hc) with hc | hc
  · exact .inl hc
  · exact .inr (by rw [beq_iff_eq.1 hc]; decide)

/-- The characters of a run of digits can stand in a number. -/
lemma Digits.isNumeral {isDigit : Char → Bool} {text digits : List Char} (h : Digits isDigit text digits)
    (hdigit : ∀ c, isDigit c = true → c.isAlphanum = true) : ∀ c ∈ text, IsNumeral c := by
  intro c hc
  rcases h.mem c hc with hc | rfl
  · exact .inl (hdigit c hc)
  · exact .inr (by decide)

/-- The characters of an exponent can stand in a number. -/
lemma Exponent.isNumeral {text : List Char} {p : Int} (h : Exponent text p) : ∀ c ∈ text, IsNumeral c := by
  have hmark {e : Char} (he : e = 'e' ∨ e = 'E') : IsNumeral e := by
    rcases he with rfl | rfl
    all_goals exact .inl rfl
  cases h with
  | plain he hdigits => exact List.forall_mem_cons.2 ⟨hmark he, hdigits.isNumeral fun _ => isAlphanum_of_isDigit⟩
  | plus he hdigits =>
    refine List.forall_mem_cons.2 ⟨hmark he, List.forall_mem_cons.2 ⟨.inr (by decide), ?_⟩⟩
    exact hdigits.isNumeral fun _ => isAlphanum_of_isDigit
  | minus he hdigits =>
    refine List.forall_mem_cons.2 ⟨hmark he, List.forall_mem_cons.2 ⟨.inr (by decide), ?_⟩⟩
    exact hdigits.isNumeral fun _ => isAlphanum_of_isDigit

/-- The characters of a part that may be left out can stand in a number if those of the part can. -/
lemma Optional.isNumeral {α : Type} {part : List Char → α → Prop} {default a : α} {text : List Char}
    (h : Optional part default text a) (hpart : ∀ text a, part text a → ∀ c ∈ text, IsNumeral c) :
    ∀ c ∈ text, IsNumeral c := by
  cases h with
  | missing => exact List.forall_mem_nil _
  | present h => exact hpart text a h

/-- The mark of a base can stand in a number. -/
lemma Radix.isNumeral_mark {mark : Char} {base : Nat} {isDigit : Char → Bool} (h : Radix mark base isDigit) :
    IsNumeral mark := by
  cases h with
  | hexadecimal h => rcases h with rfl | rfl <;> exact .inl rfl
  | octal h => rcases h with rfl | rfl <;> exact .inl rfl
  | binary h => rcases h with rfl | rfl <;> exact .inl rfl

namespace Literal

variable {t : Token} {text : List Char}

/-- The characters of a written number can stand in a number. -/
lemma isNumeral (h : Literal t text) : ∀ c ∈ text, IsNumeral c := by
  have hdigits : ∀ text digits, Digits Char.isDigit text digits → ∀ c ∈ text, IsNumeral c :=
    fun _ _ h => h.isNumeral fun _ => isAlphanum_of_isDigit
  cases h with
  | decimal h => exact hdigits _ _ h
  | based hradix h =>
    refine List.forall_mem_cons.2 ⟨.inl rfl, List.forall_mem_cons.2 ⟨hradix.isNumeral_mark, ?_⟩⟩
    exact h.isNumeral fun _ => hradix.isAlphanum
  | basedSpaced hradix h =>
    refine List.forall_mem_cons.2 ⟨.inl rfl, List.forall_mem_cons.2 ⟨hradix.isNumeral_mark, ?_⟩⟩
    exact List.forall_mem_cons.2 ⟨.inr (by decide), h.isNumeral fun _ => hradix.isAlphanum⟩
  | point hwhole hplaces _ hpower =>
    refine List.forall_mem_append.2 ⟨hwhole.isNumeral hdigits, List.forall_mem_cons.2 ⟨.inr (by decide), ?_⟩⟩
    exact List.forall_mem_append.2 ⟨hplaces.isNumeral hdigits, hpower.isNumeral fun _ _ h => h.isNumeral⟩
  | scientific hwhole hpower => exact List.forall_mem_append.2 ⟨hdigits _ _ hwhole, hpower.isNumeral⟩

/-- A number begins with a digit, or with a point and a digit. -/
lemma head (h : Literal t text) :
    ∃ c more, text = c :: more ∧ (c.isDigit = true ∨ c = '.' ∧ ∃ d rest, more = d :: rest ∧ d.isDigit = true) := by
  cases h with
  | decimal h =>
    obtain ⟨c, more, rfl, hc⟩ := h.head
    exact ⟨c, more, rfl, .inl hc⟩
  | based => exact ⟨'0', _, rfl, .inl rfl⟩
  | basedSpaced => exact ⟨'0', _, rfl, .inl rfl⟩
  | point hwhole hplaces hne hpower =>
    cases hwhole with
    | present h =>
      obtain ⟨c, more, rfl, hc⟩ := h.head
      exact ⟨c, _, rfl, .inl hc⟩
    | missing =>
      cases hplaces with
      | missing => exact absurd rfl hne
      | present h =>
        obtain ⟨d, more, rfl, hd⟩ := h.head
        exact ⟨'.', _, rfl, .inr ⟨rfl, d, _, rfl, hd⟩⟩
  | scientific h =>
    obtain ⟨c, more, rfl, hc⟩ := h.head
    exact ⟨c, _, rfl, .inl hc⟩

end Literal

end Expression

end ProductLine
