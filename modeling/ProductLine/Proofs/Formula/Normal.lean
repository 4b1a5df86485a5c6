import ProductLine.Proofs.Formula.Runs
import ProductLine.Proofs.Graph.Conditions

/-!
# Normal texts

The normal text of a formula has one sign where the formula has two, but the text is read once: of three
neighbouring signs the first two become one and the third stays behind it. So a text that has a normal text is
respelled as itself exactly if no operator is doubled in it (`respellSigns_respellSigns_iff`), and the normal
text of a text without three neighbouring signs is its own normal text (`normalize_normal`).

Each pass over the text keeps the runs of the characters it does not touch, so what stays doubled is known
from the text that is given. Squeezing blanks leaves a text tidy that is accepted (`tidy_squeeze`), and tidy
it stays when operators are halved (`Tidy.halve`) and when marks and letters are changed one by one
(`Faint.tidy_map`).
-/

namespace ProductLine

namespace Formula

/-! Blanks -/

section Blanks

/-- Whether the blanks of a text are single spaces. -/
structure SingleSpaced (cs : List Char) : Prop where
  spaces : ∀ c ∈ cs, Text.isBlank c = true → c = ' '
  apart : cs.IsChain fun c d => Text.isBlank c = true → Text.isBlank d = false

/-- The empty text has single spaces. -/
lemma singleSpaced_nil : SingleSpaced [] := ⟨List.forall_mem_nil _, .nil⟩

/-- A text has single spaces if its first blank is a space before none, and the rest has single spaces. -/
lemma singleSpaced_cons {c : Char} {cs : List Char} : SingleSpaced (c :: cs) ↔
    (Text.isBlank c = true → c = ' ' ∧ ∀ d ∈ cs.head?, Text.isBlank d = false) ∧ SingleSpaced cs := by
  constructor
  · rintro ⟨hspaces, hchain⟩
    obtain ⟨hc, hcs⟩ := List.forall_mem_cons.1 hspaces
    obtain ⟨hhead, htail⟩ := List.isChain_cons.1 hchain
    exact ⟨fun hblank => ⟨hc hblank, fun d hd => hhead d hd hblank⟩, hcs, htail⟩
  · rintro ⟨hc, hspaces, hchain⟩
    exact ⟨List.forall_mem_cons.2 ⟨fun hblank => (hc hblank).1, hspaces⟩,
      List.isChain_cons.2 ⟨fun d hd hblank => (hc hblank).2 d hd, hchain⟩⟩

/-- A squeezed text has single spaces. -/
lemma singleSpaced_squeeze (cs : List Char) : SingleSpaced (Text.squeeze cs) := by
  induction cs with
  | nil => exact singleSpaced_nil
  | cons c cs ih =>
    by_cases hc : Text.isBlank c = true
    · cases cs with
      | nil =>
        rw [squeeze_blank hc]
        exact singleSpaced_cons.2 ⟨fun _ => ⟨rfl, nofun⟩, singleSpaced_nil⟩
      | cons d cs =>
        rw [squeeze_blank_cons hc]
        split
        · exact ih
        · rename_i hd
          rw [Bool.not_eq_true] at hd
          refine singleSpaced_cons.2 ⟨fun _ => ⟨rfl, fun e he => ?_⟩, ih⟩
          rw [squeeze_cons_of_not_isBlank hd] at he
          cases he
          exact hd
    · rw [squeeze_cons_of_not_isBlank (by simpa using hc)]
      exact singleSpaced_cons.2 ⟨fun hblank => absurd hblank hc, ih⟩

/-- Single spaces are squeezed already. -/
lemma SingleSpaced.squeeze_eq_self {cs : List Char} (h : SingleSpaced cs) : Text.squeeze cs = cs := by
  induction cs with
  | nil => rfl
  | cons c cs ih =>
    obtain ⟨hblank, hcs⟩ := singleSpaced_cons.1 h
    by_cases hc : Text.isBlank c = true
    · obtain ⟨rfl, hhead⟩ := hblank hc
      cases cs with
      | nil => rfl
      | cons d cs => rw [squeeze_space (hhead d rfl), ih hcs]
    · rw [squeeze_cons_of_not_isBlank (by simpa using hc), ih hcs]

/-- Halving an operator leaves single spaces. -/
lemma SingleSpaced.halve {op : Char} (hop : Text.isBlank op = false) {cs : List Char} (h : SingleSpaced cs) :
    SingleSpaced (halve op cs) := by
  fun_induction Formula.halve op cs with
  | case1 => exact h
  | case2 => exact h
  | case3 d e rest heq ih =>
    rw [heq.1, heq.2] at h
    refine singleSpaced_cons.2 ⟨fun hblank => ?_, ih (singleSpaced_cons.1 (singleSpaced_cons.1 h).2).2⟩
    rw [hop] at hblank
    cases hblank
  | case4 d e rest heq ih =>
    obtain ⟨hd, htail⟩ := singleSpaced_cons.1 h
    refine singleSpaced_cons.2 ⟨fun hblank => ⟨(hd hblank).1, ?_⟩, ih htail⟩
    rw [head?_halve]
    exact (hd hblank).2

end Blanks

/-! Parentheses -/

section Parentheses

variable {cs : List Char}

/-- Whether no beginning of a text closes more parentheses than it opens, and the text closes them all. -/
def IsBalanced (cs : List Char) : Prop := (∀ front, front <+: cs → front.count ')' ≤ front.count '(') ∧
  cs.count ')' = cs.count '('

/-- What holds of all beginnings of a text holds of the empty one and of those with its first character. -/
lemma forall_prefix_cons {P : List Char → Prop} {c : Char} :
    (∀ front, front <+: c :: cs → P front) ↔ P [] ∧ ∀ front, front <+: cs → P (c :: front) := by
  simp only [List.prefix_cons_iff]
  constructor
  · exact fun h => ⟨h [] (.inl rfl), fun front hfront => h _ (.inr ⟨front, rfl, hfront⟩)⟩
  · rintro ⟨hnil, hcs⟩ _ (rfl | ⟨front, rfl, hfront⟩)
    · exact hnil
    · exact hcs front hfront

/-- A character that is no parenthesis does not matter for balance. -/
lemma balanced_cons_of_ne {c : Char} (hopening : c ≠ '(') (hclosing : c ≠ ')') (depth : Nat) :
    balanced depth (c :: cs) = balanced depth cs :=
  balanced_append (List.forall_mem_singleton.2 ⟨hopening, hclosing⟩) depth cs

/-- Parentheses are balanced while some are open if no beginning closes more than that. -/
lemma balanced_iff (depth : Nat) (cs : List Char) : balanced depth cs = true ↔
    (∀ front, front <+: cs → front.count ')' ≤ depth + front.count '(') ∧ cs.count ')' = depth + cs.count '(' := by
  induction cs generalizing depth with
  | nil =>
    have hnil : balanced depth [] = (depth == 0) := rfl
    rw [hnil, beq_iff_eq]
    simp [eq_comm]
  | cons c cs ih =>
    rw [forall_prefix_cons]
    by_cases hopening : c = '('
    · rw [hopening, balanced_opening, ih]
      have hcount (ds : List Char) :
          ('(' :: ds).count '(' = ds.count '(' + 1 ∧ ('(' :: ds).count ')' = ds.count ')' :=
        ⟨List.count_cons_self, List.count_cons_of_ne (by decide)⟩
      simp only [hcount, List.count_nil, Nat.zero_le, true_and, Nat.add_assoc, Nat.add_comm 1]
    · by_cases hclosing : c = ')'
      · have hcount (ds : List Char) :
            (')' :: ds).count '(' = ds.count '(' ∧ (')' :: ds).count ')' = ds.count ')' + 1 :=
          ⟨List.count_cons_of_ne (by decide), List.count_cons_self⟩
        rw [hclosing]
        simp only [hcount, List.count_nil, Nat.zero_le, true_and]
        cases depth with
        | zero =>
          have hzero : balanced 0 (')' :: cs) = false := rfl
          rw [hzero]
          refine iff_of_false Bool.false_ne_true fun h => ?_
          have hfirst := h.1 [] List.nil_prefix
          simp at hfirst
        | succ depth =>
          rw [balanced_closing, ih]
          simp only [Nat.add_right_comm depth 1, Nat.add_le_add_iff_right, Nat.add_right_cancel_iff]
      · have hcount (ds : List Char) : (c :: ds).count '(' = ds.count '(' ∧ (c :: ds).count ')' = ds.count ')' :=
          ⟨List.count_cons_of_ne hopening, List.count_cons_of_ne hclosing⟩
        rw [balanced_cons_of_ne hopening hclosing, ih]
        simp only [hcount, List.count_nil, Nat.zero_le, true_and]

/-- Counting parentheses finds a text balanced exactly if it is. -/
lemma balanced_zero_iff : balanced 0 cs = true ↔ IsBalanced cs := by
  simp only [balanced_iff, Nat.zero_add, IsBalanced]

end Parentheses

/-! Texts that are ready to be read -/

/-- Whether a text would be taken as it is, but for signs and truth values that are spelled differently. -/
structure Tidy (cs : List Char) : Prop where
  ne_nil : cs ≠ []
  first : ∀ c ∈ cs.head?, Text.isBlank c = false
  last : ∀ c ∈ cs.getLast?, Text.isBlank c = false
  spaced : SingleSpaced cs
  allowed : ∀ c ∈ cs, isAllowed c = true
  balanced : balanced 0 cs = true

section Tidy

variable {cs : List Char} {op : Char}

/-- Squeezing blanks does not touch the balance of parentheses. -/
lemma balanced_squeeze (depth : Nat) (cs : List Char) : balanced depth (Text.squeeze cs) = balanced depth cs := by
  induction cs generalizing depth with
  | nil => rfl
  | cons c cs ih =>
    by_cases hc : Text.isBlank c = true
    · have hskip : balanced depth (c :: cs) = balanced depth cs :=
        balanced_append_of_isBlank (List.forall_mem_singleton.2 hc) depth cs
      rw [hskip, ← ih]
      rcases squeeze_cons_of_isBlank hc cs with heq | heq
      · rw [heq]
      · rw [heq, balanced_cons_of_ne (by decide) (by decide)]
    · rw [squeeze_cons_of_not_isBlank (by simpa using hc)]
      exact balanced_congr [c] ih depth

/-- Halving an operator does not touch the balance of parentheses. -/
lemma balanced_halve (hopening : op ≠ '(') (hclosing : op ≠ ')') (depth : Nat) (cs : List Char) :
    balanced depth (halve op cs) = balanced depth cs := by
  fun_induction halve op cs generalizing depth with
  | case1 => rfl
  | case2 => rfl
  | case3 d e rest h ih =>
    rw [h.1, h.2]
    simp only [balanced_cons_of_ne hopening hclosing, ih]
  | case4 d e rest h ih => exact balanced_congr [d] ih depth

/-- Only blanks are added to a text whose blanks are squeezed. -/
lemma isBlank_or_mem_of_mem_squeeze {c : Char} (h : c ∈ Text.squeeze cs) : Text.isBlank c = true ∨ c ∈ cs := by
  induction cs with
  | nil => cases h
  | cons d cs ih =>
    have hrest (h : c ∈ Text.squeeze cs) : Text.isBlank c = true ∨ c ∈ d :: cs :=
      (ih h).imp id (List.mem_cons_of_mem d)
    by_cases hd : Text.isBlank d = true
    · rcases squeeze_cons_of_isBlank hd cs with heq | heq
      · exact hrest (heq ▸ h)
      · rw [heq] at h
        rcases List.mem_cons.1 h with rfl | h
        · exact .inl (by decide)
        · exact hrest h
    · rw [squeeze_cons_of_not_isBlank (by simpa using hd)] at h
      rcases List.mem_cons.1 h with rfl | h
      · exact .inr List.mem_cons_self
      · exact hrest h

/-- A trimmed text has no blanks at its ends. -/
lemma ends_trim (cs : List Char) : (∀ c ∈ (Text.trim cs).head?, Text.isBlank c = false) ∧
    ∀ c ∈ (Text.trim cs).getLast?, Text.isBlank c = false := by
  have hdrop (ds : List Char) : ∀ c ∈ (ds.dropWhile Text.isBlank).head?, Text.isBlank c = false := by
    intro c hc
    have h := List.head?_dropWhile_not Text.isBlank ds
    rw [hc] at h
    simpa using h
  constructor
  · intro c hc
    -- what is dropped at the end leaves a beginning
    obtain ⟨back, hback⟩ : Text.trim cs <+: cs.dropWhile Text.isBlank := by
      rw [← List.reverse_suffix, Text.trim, List.reverse_reverse]
      exact List.dropWhile_suffix _
    obtain ⟨rest, hrest⟩ := List.head?_eq_some_iff.1 hc
    refine hdrop cs c ?_
    rw [← hback, hrest]
    rfl
  · intro c hc
    rw [Text.trim, List.getLast?_reverse] at hc
    exact hdrop _ c hc

/-- A text that is accepted is tidy when its blanks are squeezed. -/
lemma tidy_squeeze (hne : cs ≠ []) (hfirst : ∀ c ∈ cs.head?, Text.isBlank c = false)
    (hlast : ∀ c ∈ cs.getLast?, Text.isBlank c = false) (hallowed : ∀ c ∈ cs, isAllowed c = true)
    (hbalanced : balanced 0 cs = true) : Tidy (Text.squeeze cs) := by
  obtain ⟨c, rest, hcons⟩ := List.exists_cons_of_ne_nil hne
  have hc : Text.isBlank c = false := hfirst c (by rw [hcons]; rfl)
  have hd : Text.isBlank (cs.getLast hne) = false := hlast _ (List.getLast?_eq_some_getLast hne)
  have hbegin : Text.squeeze cs = c :: Text.squeeze rest := by
    rw [hcons]
    exact squeeze_cons_of_not_isBlank hc rest
  have hend : Text.squeeze cs = Text.squeeze cs.dropLast ++ [cs.getLast hne] := by
    conv_lhs => rw [← List.dropLast_append_getLast hne]
    exact squeeze_append_cons hd _ []
  refine ⟨by simp [hbegin], ?_, ?_, singleSpaced_squeeze cs, fun d hmem => ?_, ?_⟩
  · rw [hbegin]
    rintro d ⟨⟩
    exact hc
  · rw [hend, List.getLast?_concat]
    rintro d ⟨⟩
    exact hd
  · exact (isBlank_or_mem_of_mem_squeeze hmem).elim isAllowed_of_isBlank (hallowed d)
  · rw [balanced_squeeze, hbalanced]

/-- Halving an operator keeps a text tidy. -/
lemma Tidy.halve (hblank : Text.isBlank op = false) (hopening : op ≠ '(') (hclosing : op ≠ ')') (h : Tidy cs) :
    Tidy (halve op cs) where
  ne_nil := by
    intro hnil
    have hhead := head?_halve op cs
    rw [hnil] at hhead
    exact h.ne_nil (List.head?_eq_none_iff.1 hhead.symm)
  first := by
    rw [head?_halve]
    exact h.first
  last := by
    rw [getLast?_halve]
    exact h.last
  spaced := h.spaced.halve hblank
  allowed := fun c hc => h.allowed c ((halve_sublist op cs).subset hc)
  balanced := by
    rw [balanced_halve hopening hclosing]
    exact h.balanced

/-- A tidy text has a normal text. -/
lemma Tidy.normalize_eq (h : Tidy cs) : normalize (String.ofList cs) = .ok (String.ofList (respellSigns cs)) := by
  have htrim : Text.trim (String.ofList cs).toList = cs := by
    rw [String.toList_ofList]
    exact trim_eq_self_of_ends h.first h.last
  refine normalize_eq_ok.2 ?_
  rw [htrim, respell_eq, h.spaced.squeeze_eq_self]
  exact ⟨h.ne_nil, h.allowed, h.balanced, rfl⟩

end Tidy

/-! Characters that are changed one by one -/

/-- Whether single characters are changed such that blanks, parentheses and what may stand in a formula stay. -/
structure Faint (f : Char → Char) : Prop where
  blank : ∀ c, Text.isBlank (f c) = Text.isBlank c
  space : ∀ c, f c = ' ' ↔ c = ' '
  opening : ∀ c, f c = '(' ↔ c = '('
  closing : ∀ c, f c = ')' ↔ c = ')'
  allowed : ∀ c, isAllowed (f c) = isAllowed c

namespace Faint

variable {f : Char → Char} {cs : List Char}

/-- Changing characters faintly keeps single spaces. -/
lemma singleSpaced_map (hf : Faint f) : SingleSpaced (cs.map f) ↔ SingleSpaced cs := by
  induction cs with
  | nil => rfl
  | cons c cs ih =>
    rw [List.map_cons, singleSpaced_cons, singleSpaced_cons, ih, hf.blank, hf.space, List.head?_map]
    simp only [Option.mem_map, forall_exists_index, and_imp, forall_apply_eq_imp_iff₂, hf.blank]

/-- Changing characters faintly does not touch the balance of parentheses. -/
lemma balanced_map (hf : Faint f) (depth : Nat) : balanced depth (cs.map f) = balanced depth cs := by
  induction cs generalizing depth with
  | nil => rfl
  | cons c cs ih =>
    have hfirst (ds : List Char) : balanced depth (f c :: ds) = balanced depth (c :: ds) := by
      simp only [balanced, hf.opening, hf.closing]
    rw [List.map_cons, hfirst]
    exact balanced_congr [c] ih depth

/-- Such changes keep a text tidy, and make none so. -/
lemma tidy_map (hf : Faint f) : Tidy (cs.map f) ↔ Tidy cs := by
  have hends (end? : Option Char) :
      (∀ c ∈ end?.map f, Text.isBlank c = false) ↔ ∀ c ∈ end?, Text.isBlank c = false := by
    simp only [Option.mem_map, forall_exists_index, and_imp, forall_apply_eq_imp_iff₂, hf.blank]
  have hallowed : (∀ c ∈ cs.map f, isAllowed c = true) ↔ ∀ c ∈ cs, isAllowed c = true := by
    simp only [List.forall_mem_map, hf.allowed]
  constructor
  · rintro ⟨hne, hfirst, hlast, hspaced, hall, hbalanced⟩
    rw [List.head?_map, hends] at hfirst
    rw [List.getLast?_map, hends] at hlast
    exact ⟨fun hnil => hne (by rw [hnil]; rfl), hfirst, hlast, hf.singleSpaced_map.1 hspaced, hallowed.1 hall,
      hf.balanced_map 0 ▸ hbalanced⟩
  · rintro ⟨hne, hfirst, hlast, hspaced, hall, hbalanced⟩
    rw [← hends, ← List.head?_map] at hfirst
    rw [← hends, ← List.getLast?_map] at hlast
    exact ⟨by simpa using hne, hfirst, hlast, hf.singleSpaced_map.2 hspaced, hallowed.2 hall,
      (hf.balanced_map 0).trans hbalanced⟩

end Faint

/-- A letter for each character of a word. -/
def outline (c : Char) : Char := if isWord c then 'a' else c

/-- Outside words the outline of a character is the character. -/
lemma outline_eq_iff {c d : Char} (hd : isWord d = false) : outline c = d ↔ c = d := by
  rw [outline]
  split
  · rename_i hc
    refine iff_of_false ?_ ?_
    · rintro rfl
      cases hd
    · rintro rfl
      rw [hc] at hd
      cases hd
  · rfl

/-- The outline of a text changes it faintly. -/
lemma faint_outline : Faint outline where
  blank c := by
    rw [outline]
    split
    · rename_i hc
      rw [not_isBlank_of_isWord hc]
      rfl
    · rfl
  space c := outline_eq_iff (by decide)
  opening c := outline_eq_iff (by decide)
  closing c := outline_eq_iff (by decide)
  allowed c := by
    rw [outline]
    split
    · rename_i hc
      rw [isAllowed_of_isWord hc]
      decide
    · rfl

/-- Characters other than exclamation marks and tildes stay what they are. -/
lemma tilde_eq_iff {c d : Char} (hmark : d ≠ '!') (htilde : d ≠ '~') : tilde c = d ↔ c = d := by
  rw [tilde]
  split
  · rename_i hc
    rw [hc]
    exact iff_of_false htilde.symm hmark.symm
  · rfl

/-- Writing tildes for exclamation marks changes a text faintly. -/
lemma faint_tilde : Faint tilde where
  blank c := by
    rw [tilde]
    split
    · rename_i hc
      rw [hc]
      decide
    · rfl
  space c := tilde_eq_iff (by decide) (by decide)
  opening c := tilde_eq_iff (by decide) (by decide)
  closing c := tilde_eq_iff (by decide) (by decide)
  allowed c := by
    rw [tilde]
    split
    · rename_i hc
      rw [hc]
      decide
    · rfl

/-! Truth values in capitals -/

/-- A character stands in words exactly if its outline does. -/
lemma isWord_outline (c : Char) : isWord (outline c) = isWord c := by
  rw [outline]
  split
  · rename_i hc
    rw [hc]
    decide
  · rfl

/-- A letter has the outline of its capital. -/
lemma outline_toUpper (c : Char) : outline c.toUpper = outline c := by
  by_cases hc : c.isLower = true
  · have halpha : c.isAlpha = true := by simp [Char.isAlpha, hc]
    have hword : isWord c = true ∧ isWord c.toUpper = true := by
      simp [isWord, Char.isAlphanum, Char.isAlpha_toUpper_eq_isAlpha, halpha]
    rw [outline, outline, if_pos hword.1, if_pos hword.2]
  · rw [Char.toUpper_eq_of_not_isLower hc]

/-- A word that is capitalized keeps its outline. -/
lemma map_outline_capitalize (word : List Char) : (capitalize word).map outline = word.map outline := by
  rw [capitalize]
  split
  · rw [List.map_map]
    exact List.map_congr_left fun c _ => outline_toUpper c
  · rfl

/-- A word that was capitalized stays what it is. -/
lemma capitalize_capitalize (word : List Char) : capitalize (capitalize word) = capitalize word := by
  by_cases h : word.map Char.toLower = ['t', 'r', 'u', 'e'] ∨ word.map Char.toLower = ['f', 'a', 'l', 's', 'e']
  · have hupper : capitalize word = word.map Char.toUpper := if_pos h
    rw [hupper, capitalize]
    split
    · rw [List.map_map]
      exact List.map_congr_left fun c _ => c.toUpper_toUpper_eq_toUpper
    · rfl
  · have hself : capitalize word = word := if_neg h
    rw [hself, hself]

/-- Putting truth values into capitals changes letters only. -/
lemma map_outline_mapWords (word cs : List Char) :
    (mapWords capitalize word cs).map outline = (word.reverse ++ cs).map outline := by
  induction cs generalizing word with
  | nil => rw [mapWords, map_outline_capitalize, List.append_nil]
  | cons c rest ih =>
    rw [mapWords]
    split
    · rw [ih, List.reverse_cons, List.append_assoc]
      rfl
    · simp only [List.map_append, List.map_cons, map_outline_capitalize, ih, List.reverse_nil, List.nil_append]

/-- A text of word characters is one word. -/
lemma mapWords_of_isWord {f : List Char → List Char} {cs : List Char} (h : ∀ c ∈ cs, isWord c = true)
    (word : List Char) : mapWords f word cs = f (word.reverse ++ cs) := by
  induction cs generalizing word with
  | nil => rw [mapWords, List.append_nil]
  | cons c rest ih =>
    obtain ⟨hc, hrest⟩ := List.forall_mem_cons.1 h
    rw [mapWords, if_pos hc, ih hrest, List.reverse_cons, List.append_assoc]
    rfl

/-- Truth values are put into capitals once. -/
lemma mapWords_mapWords {word : List Char} (cs : List Char) (h : ∀ c ∈ word, isWord c = true) :
    mapWords capitalize [] (mapWords capitalize word cs) = mapWords capitalize word cs := by
  have hcapital {word : List Char} (h : ∀ c ∈ word, isWord c = true) : ∀ c ∈ capitalize word, isWord c = true := by
    intro c hc
    have hmem : outline c ∈ (capitalize word).map outline := List.mem_map_of_mem hc
    rw [map_outline_capitalize] at hmem
    obtain ⟨d, hd, heq⟩ := List.mem_map.1 hmem
    rw [← isWord_outline, ← heq, isWord_outline]
    exact h d hd
  have hreverse {word : List Char} (h : ∀ c ∈ word, isWord c = true) : ∀ c ∈ word.reverse, isWord c = true := by
    simpa using h
  induction cs generalizing word with
  | nil => rw [mapWords, mapWords_of_isWord (hcapital (hreverse h)), List.reverse_nil, List.nil_append,
      capitalize_capitalize]
  | cons c rest ih =>
    rw [mapWords]
    split
    · rename_i hc
      exact ih (List.forall_mem_cons.2 ⟨hc, h⟩)
    · rename_i hc
      rw [mapWords_append_cons (by simpa using hc), mapWords_of_isWord (hcapital (hreverse h)), List.reverse_nil,
        List.nil_append, capitalize_capitalize, ih (List.forall_mem_nil _)]

/-! Normal texts -/

section Normal

variable {cs : List Char} {op : Char}

/-- Only letters distinguish a normal text from the text whose signs are halved and whose marks are tildes. -/
lemma map_outline_respellSigns (cs : List Char) :
    (respellSigns cs).map outline = ((halve '|' (halve '&' cs)).map tilde).map outline :=
  map_outline_mapWords [] _

/-- Respelling signs keeps a text tidy. -/
lemma tidy_respellSigns (h : Tidy cs) : Tidy (respellSigns cs) := by
  rw [← faint_outline.tidy_map, map_outline_respellSigns, faint_outline.tidy_map, faint_tilde.tidy_map]
  exact (h.halve (by decide) (by decide) (by decide)).halve (by decide) (by decide) (by decide)

/-- The signs of a normal text are those of the text whose signs are halved. -/
lemma double_infix_respellSigns (hword : isWord op = false) (hmark : op ≠ '!') (htilde : op ≠ '~') :
    [op, op] <:+: respellSigns cs ↔ [op, op] <:+: halve '|' (halve '&' cs) := by
  have houtline (ds : List Char) : [op, op] <:+: ds.map outline ↔ [op, op] <:+: ds :=
    replicate_infix_map (n := 2) fun _ => outline_eq_iff hword
  have hmarks (ds : List Char) : [op, op] <:+: ds.map tilde ↔ [op, op] <:+: ds :=
    replicate_infix_map (n := 2) fun _ => tilde_eq_iff hmark htilde
  rw [← houtline, map_outline_respellSigns, houtline, hmarks]

/-- An operator stays doubled in a normal text where three of them stood together. -/
lemma double_infix_respellSigns_iff (hop : op = '&' ∨ op = '|') :
    [op, op] <:+: respellSigns cs ↔ [op, op, op] <:+: cs := by
  rcases hop with rfl | rfl
  · have hother : ['&', '&'] <:+: halve '|' (halve '&' cs) ↔ ['&', '&'] <:+: halve '&' cs :=
      replicate_infix_halve (n := 1) (by decide)
    rw [double_infix_respellSigns (by decide) (by decide) (by decide), hother, double_infix_halve]
  · have hother : ['|', '|', '|'] <:+: halve '&' cs ↔ ['|', '|', '|'] <:+: cs :=
      replicate_infix_halve (n := 2) (by decide)
    rw [double_infix_respellSigns (by decide) (by decide) (by decide), double_infix_halve, hother]

/-- After signs are respelled there is no exclamation mark. -/
lemma not_mem_respellSigns (cs : List Char) : '!' ∉ respellSigns cs := by
  intro hmem
  have houtline : outline '!' ∈ (respellSigns cs).map outline := List.mem_map_of_mem hmem
  rw [map_outline_respellSigns] at houtline
  obtain ⟨d, hd, heq⟩ := List.mem_map.1 houtline
  obtain ⟨e, -, rfl⟩ := List.mem_map.1 hd
  have hmark : tilde e = '!' := (outline_eq_iff (by decide)).1 heq
  rw [tilde] at hmark
  split at hmark
  · cases hmark
  · contradiction

/-- A text without exclamation marks stays what it is. -/
lemma map_tilde_eq_self (h : '!' ∉ cs) : cs.map tilde = cs := by
  refine (List.map_congr_left fun c hc => if_neg ?_).trans (List.map_id cs)
  rintro rfl
  exact h hc

/-- A normal text is respelled as itself exactly if no operator is doubled in it. -/
lemma respellSigns_respellSigns_iff : respellSigns (respellSigns cs) = respellSigns cs ↔
    ¬ ['&', '&'] <:+: respellSigns cs ∧ ¬ ['|', '|'] <:+: respellSigns cs := by
  have hmark := not_mem_respellSigns cs
  have hwords : mapWords capitalize [] (respellSigns cs) = respellSigns cs :=
    mapWords_mapWords _ (List.forall_mem_nil _)
  generalize respellSigns cs = ds at hmark hwords
  have hand := halve_sublist '&' ds
  have hor := halve_sublist '|' (halve '&' ds)
  constructor
  · intro h
    -- a text that is not shortened has nothing to halve
    have hlength : (halve '|' (halve '&' ds)).length = ds.length := by
      have hmap := congrArg List.length (map_outline_respellSigns ds)
      simp only [List.length_map, h] at hmap
      exact hmap.symm
    have hands : halve '&' ds = ds := hand.eq_of_length (le_antisymm hand.length_le (hlength ▸ hor.length_le))
    rw [hands] at hor hlength
    exact ⟨halve_eq_self_iff.1 hands, halve_eq_self_iff.1 (hor.eq_of_length hlength)⟩
  · rintro ⟨hands, hors⟩
    rw [respellSigns, halve_eq_self_iff.2 hands, halve_eq_self_iff.2 hors, map_tilde_eq_self hmark, hwords]

end Normal

/-- A text has a normal text exactly if something other than blanks stands in it, all its characters may stand
in a formula and its parentheses are balanced; any other text is refused up front. In a normal text there is
no exclamation mark, and an operator is doubled exactly where three of them stood together. A normal text has
a normal text in turn, which is itself exactly if there was no such operator. -/
theorem normalize_normal (s : String) :
    ((∃ normal, normalize s = .ok normal) ↔ Text.trim s.toList ≠ [] ∧
      (∀ c ∈ Text.trim s.toList, isAllowed c = true) ∧ IsBalanced (Text.trim s.toList)) ∧
    (∀ e, normalize s = .error e → ∃ text reason, e = .malformed text reason ∧ reason.IsUpFront) ∧
    ∀ normal, normalize s = .ok normal →
      '!' ∉ normal.toList ∧
      (['&', '&'] <:+: normal.toList ↔ ['&', '&', '&'] <:+: s.toList) ∧
      (['|', '|'] <:+: normal.toList ↔ ['|', '|', '|'] <:+: s.toList) ∧
      (∃ again, normalize normal = .ok again) ∧
      (normalize normal = .ok normal ↔ ¬ ['&', '&', '&'] <:+: s.toList ∧ ¬ ['|', '|', '|'] <:+: s.toList) := by
  refine ⟨?_, fun e he => isUpFront_of_normalize he, fun normal hnormal => ?_⟩
  · simp only [normalize_eq_ok, balanced_zero_iff, exists_and_left, exists_eq', and_true]
  obtain ⟨hne, hallowed, hbalanced, rfl⟩ := normalize_eq_ok.1 hnormal
  obtain ⟨hfirst, hlast⟩ := ends_trim s.toList
  have htidy := tidy_squeeze hne hfirst hlast hallowed hbalanced
  have hruns {op : Char} (hop : op = '&' ∨ op = '|') :
      [op, op] <:+: respellSigns (Text.squeeze (Text.trim s.toList)) ↔ [op, op, op] <:+: s.toList := by
    have hblank : Text.isBlank op = false := by rcases hop with rfl | rfl <;> decide
    have hsqueeze : [op, op, op] <:+: Text.squeeze (Text.trim s.toList) ↔ [op, op, op] <:+: Text.trim s.toList :=
      replicate_infix_squeeze (n := 2) hblank
    have htrim : [op, op, op] <:+: Text.trim s.toList ↔ [op, op, op] <:+: s.toList :=
      replicate_infix_trim (n := 2) hblank
    rw [double_infix_respellSigns_iff hop, hsqueeze, htrim]
  have hagain := (tidy_respellSigns htidy).normalize_eq
  rw [respell_eq, String.toList_ofList, hagain, ← hruns (.inl rfl), ← hruns (.inr rfl), Except.ok.injEq,
    String.ofList_inj, respellSigns_respellSigns_iff]
  exact ⟨not_mem_respellSigns _, .rfl, .rfl, ⟨_, rfl⟩, .rfl⟩

/-- A formula with doubled operators and an exclamation mark. -/
theorem normalize_normal_doubled : normalize "A && (B || !C)" = .ok "A & (B | ~C)" ∧
    normalize "A & (B | ~C)" = .ok "A & (B | ~C)" := by
  have hnormal : normalize "A && (B || !C)" = .ok "A & (B | ~C)" := by decide +kernel
  refine ⟨hnormal, ((normalize_normal _).2.2 _ hnormal).2.2.2.2.2 ⟨?_, ?_⟩⟩
  all_goals decide +kernel

/-- Three neighbouring operators become two, and those one. -/
theorem normalize_tripled : normalize "A &&& B" = .ok "A && B" ∧ ['&', '&'] <:+: "A && B".toList ∧
    normalize "A && B" = .ok "A & B" := by
  refine ⟨by decide +kernel, ?_, by decide +kernel⟩
  exact ⟨['A', ' '], [' ', 'B'], by decide +kernel⟩

end Formula

end ProductLine
