import ProductLine.Proofs.Expression.Written
import ProductLine.Proofs.Formula.Printed

/-!
# Expressions that are names

A text that is a name of any script and no keyword is an expression by itself: neither the blanks around an
expression nor the carets in it touch a name, since no character of a name is a blank, a caret or a sign, and
the scanner takes all of it for one word (`tokens_of_isName`). But the word is read in its normal form, so the
variable is the name itself only if it is in normal form (`parse_of_isName`), as every name of ASCII
characters is.
-/

namespace ProductLine

namespace Expression

/-! Characters of names -/

/-- The code points of the blanks beyond ASCII. -/
def blanksBeyond : List Nat := [0x85, 0xa0, 0x1680, 0x2028, 0x2029, 0x202f, 0x205f, 0x3000] ++ List.range' 0x2000 11

/-- The blanks beyond ASCII are those that are listed. -/
lemma mem_blanksBeyond {c : Char} (hbeyond : 128 ≤ c.toNat) (h : Text.isBlank c = true) :
    c.toNat ∈ blanksBeyond := by
  simp only [Text.isBlank, Bool.or_eq_true, Bool.and_eq_true, decide_eq_true_eq, beq_iff_eq] at h
  simp only [blanksBeyond, List.mem_append, List.mem_cons, List.not_mem_nil, or_false, List.mem_range'_1]
  omega

/-- No blank lies among the ranges of the characters of names. -/
lemma not_inRanges_of_mem_blanksBeyond {n : Nat} (h : n ∈ blanksBeyond) :
    Text.inRanges Text.nameStartRanges n = false ∧ Text.inRanges Text.namePartRanges n = false := by
  have hall : ∀ n ∈ blanksBeyond,
      Text.inRanges Text.nameStartRanges n = false ∧ Text.inRanges Text.namePartRanges n = false := by
    decide +kernel
  exact hall n h

/-- A character of a name may belong to a token, and is no caret. -/
lemma isInk_of_isNamePart {c : Char} (h : Text.isNamePart c = true) : IsInk c ∧ c ≠ '^' := by
  rw [Text.isNamePart] at h
  split at h
  · rcases Bool.or_eq_true_iff.1 h with hword | hunder
    · refine ⟨isInk_of_isAlphanum hword, ?_⟩
      rintro rfl
      cases hword
    · rw [beq_iff_eq.1 hunder]
      exact ⟨isInk_of_mem (by decide), by decide⟩
  · rename_i hbeyond
    have hne {d : Char} (hd : d.toNat < 128) : c ≠ d := by
      rintro rfl
      exact hbeyond hd
    refine ⟨⟨?_, hne (by decide), hne (by decide), hne (by decide), hne (by decide)⟩, hne (by decide)⟩
    rw [← Bool.not_eq_true]
    intro hblank
    obtain ⟨hstart, hpart⟩ := not_inRanges_of_mem_blanksBeyond (mem_blanksBeyond (Nat.le_of_not_lt hbeyond) hblank)
    rw [hstart, hpart] at h
    cases h

/-! Names as expressions -/

section Name

variable {word : List Char}

/-- No character of a name is a gap or a caret. -/
lemma isInk_of_mem_name (h : Text.isName word = true) : ∀ c ∈ word, IsInk c ∧ c ≠ '^' :=
  fun c hc => isInk_of_isNamePart (isNamePart_of_mem h c hc)

/-- A name is not empty. -/
lemma ne_nil_of_isName (h : Text.isName word = true) : word ≠ [] := by
  rintro rfl
  cases h

/-- Of a name nothing is taken away and nothing in it is replaced. -/
lemma trim_of_isName (h : Text.isName word = true) : expandCarets (Text.trim word) = word := by
  have hink := isInk_of_mem_name h
  have htrim : Text.trim word = word :=
    Formula.trim_eq_self_of_ends (fun c hc => (hink c (List.mem_of_mem_head? hc)).1.not_blank)
      fun c hc => (hink c (List.mem_of_mem_getLast? hc)).1.not_blank
  rw [htrim, expandCarets_eq_self fun c hc => (hink c hc).2]

/-- A name is scanned as one word. -/
lemma tokens_of_isName (h : Text.isName word = true) : tokens word = some [.word word] := by
  have hink := isInk_of_mem_name h
  have hlines : Text.unifyLines word = word := unifyLines_eq_self fun c hc => (hink c hc).1.not_line
  have hnext : Token.next word = some (.word word, []) := by
    have hnext : Token.next (word ++ []) = some (.word word, []) := next_of_isName h nofun
    rwa [List.append_nil] at hnext
  have hscan : Token.scan (word.length + 1) [] true false word = some [.word word] := by
    obtain ⟨c, more, rfl⟩ := List.exists_cons_of_ne_nil (ne_nil_of_isName h)
    rw [scan_token (hink c List.mem_cons_self).1 hnext rfl rfl]
    rfl
  rw [tokens, hlines, hscan]
  rfl

/-- A word that is no keyword is read as the variable whose name is its normal form. -/
lemma read_of_not_isKeyword (h : isKeyword word = false) :
    read none [] [.word word] = some (.name (String.ofList (Text.normalName word))) := by
  rw [read]
  simp only [h, Bool.false_eq_true, if_false, read, complete]

end Name

/-- The name of the variable as which a text is read that is a name. -/
def variableOf (text : String) : String := String.ofList (Text.normalName text.toList)

/-- A text of ASCII characters is in normal form. -/
lemma variableOf_eq_self {text : String} (h : ∀ c ∈ text.toList, c.toNat < 128) : variableOf text = text := by
  have hnormal : Text.normalName text.toList = text.toList :=
    if_pos (List.all_eq_true.2 fun c hc => decide_eq_true (h c hc))
  rw [variableOf, hnormal, String.ofList_toList]

/-- A text that is a name and no keyword is parsed as a variable, whose name is its normal form. -/
lemma parse_of_isName {text : String} (hname : Text.isName text.toList = true)
    (hkeyword : isKeyword text.toList = false) : parse text = .ok (.name (variableOf text)) := by
  have hnull : ¬ text.toList.contains '\x00' = true := by
    rw [List.contains_iff_mem]
    exact fun hmem => (isInk_of_mem_name hname _ hmem).1.not_null rfl
  rw [parse, trim_of_isName hname]
  simp only [ne_nil_of_isName hname, hnull, tokens_of_isName hname, read_of_not_isKeyword hkeyword, if_false]
  rfl

/-- Its normal form is the only free name. -/
lemma freeVariables_of_isName {text : String} (hname : Text.isName text.toList = true)
    (hkeyword : isKeyword text.toList = false) : freeVariables text = .ok [variableOf text] := by
  rw [freeVariables_of_parse (parse_of_isName hname hkeyword)]
  rfl

end Expression

end ProductLine
