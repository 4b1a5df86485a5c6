import ProductLine.Proofs.Formula.Written

/-!
# Formulas that are printed

A region is printed with truth values, names of features, choices by a feature and negations in parentheses
(`Printed`). Such a text is its own normal text (`normalize_text`), since it has single signs, single spaces and its
truth values in capitals, and it is read as the formula that it spells out (`parse_text`), in which its names stand
(`namesOf_words_text`). A part of a text is treated alike whatever comes behind it, unless a word goes on there, so
every pass over a text is followed along the formula.
-/

namespace ProductLine

namespace Formula

/-- A formula as regions are printed. -/
inductive Printed where
  | truth (value : Bool)
  | feature (name : String)
  | choice (name : String) (high low : Printed)
  | not (p : Printed)
deriving DecidableEq

namespace Printed

/-- The formula that is spelled out. -/
def formula : Printed → Formula
  | truth b => .truth b
  | feature name => .feature name
  | choice name high low => .choice (.feature name) high.formula low.formula
  | not p => .not p.formula

/-- The characters that are printed. -/
def text : Printed → List Char
  | truth b => (truthWord b).map Char.toUpper
  | feature name => name.toList
  | choice name high low =>
    ['i', 't', 'e'] ++ ['('] ++ name.toList ++ [',', ' '] ++ high.text ++ [',', ' '] ++ low.text ++ [')']
  | not p => ['(', '~', ' '] ++ p.text ++ [')']

/-- The words that are printed. -/
def words : Printed → List (List Char)
  | truth b => [(truthWord b).map Char.toUpper]
  | feature name => [name.toList]
  | choice name high low => ['i', 't', 'e'] :: name.toList :: (high.words ++ low.words)
  | not p => p.words

/-- The tokens that are printed. -/
def tokens : Printed → List Token
  | truth b => [.truth b]
  | feature name => [.name name]
  | choice name high low =>
    .choice :: .opening :: .name name :: .comma :: (high.tokens ++ .comma :: (low.tokens ++ [.closing]))
  | not p => .opening :: .not :: (p.tokens ++ [.closing])

/-- Whether every name that is printed is of some kind. -/
def Named (P : String → Prop) : Printed → Prop
  | truth _ => True
  | feature name => P name
  | choice name high low => P name ∧ high.Named P ∧ low.Named P
  | not p => p.Named P

/-- The names of the formula that is spelled out are those that are printed. -/
lemma Named.forall_mem_names {P : String → Prop} {p : Printed} (h : p.Named P) : ∀ n ∈ p.formula.names, P n := by
  induction p with
  | truth b => exact List.forall_mem_nil _
  | feature name => exact List.forall_mem_singleton.2 h
  | choice name high low ihh ihl =>
    obtain ⟨hname, hhigh, hlow⟩ := h
    intro n hn
    simp only [formula, names, List.mem_append, List.mem_singleton] at hn
    rcases hn with (rfl | hn) | hn
    · exact hname
    · exact ihh hhigh n hn
    · exact ihl hlow n hn
  | not p ih => exact ih h

/-- Whether every name that is printed can be the name of a feature. -/
abbrev Proper (p : Printed) : Prop := p.Named fun name => IsFeatureName name.toList

/-! Characters -/

/-- The letters of the choice are those of a word. -/
lemma isWord_ite : ∀ c ∈ ['i', 't', 'e'], isWord c = true := List.all_eq_true.1 (by decide)

/-- The letters of the truth values are those of a word. -/
lemma isWord_truthWord (b : Bool) : ∀ c ∈ (truthWord b).map Char.toUpper, isWord c = true := by
  apply List.all_eq_true.1
  cases b <;> decide

end Printed

/-- A letter is the name of a feature. -/
lemma IsFeatureName.singleton {c : Char} (hc : Token.isNameStart c = true) : IsFeatureName [c] :=
  ⟨⟨c, [], rfl, hc, List.forall_mem_nil _⟩, by simp, fun b => by cases b <;> simp [truthWord]⟩

/-- The name of a feature is not empty. -/
lemma IsFeatureName.ne_nil {word : List Char} (h : IsFeatureName word) : word ≠ [] := by
  obtain ⟨c, rest, rfl, -⟩ := h.identifier
  exact List.cons_ne_nil c rest

/-- The characters of the name of a feature are those of a word. -/
lemma IsFeatureName.isWord_of_mem {word : List Char} (h : IsFeatureName word) : ∀ c ∈ word, isWord c = true := by
  obtain ⟨c, rest, rfl, hc, hrest⟩ := h.identifier
  exact List.forall_mem_cons.2 ⟨isWord_of_isNameStart hc, hrest⟩

/-- The name of a feature is not changed as truth values are. -/
lemma IsFeatureName.capitalize_eq {word : List Char} (h : IsFeatureName word) : capitalize word = word :=
  if_neg (not_or.2 ⟨h.not_truth true, h.not_truth false⟩)

namespace Printed

/-- Whether no word goes on at the beginning of a text. -/
def Apart (rest : List Char) : Prop := ∀ c ∈ rest.head?, isWord c = false

/-- The end is apart from every word. -/
lemma apart_nil : Apart [] := nofun

/-- A character that is in no word is apart from every word. -/
lemma apart_cons {c : Char} {rest : List Char} (hc : isWord c = false) : Apart (c :: rest) := by
  intro d hd
  cases hd
  exact hc

/-- An opening parenthesis is apart from every word. -/
lemma apart_opening (rest : List Char) : Apart (['('] ++ rest) := apart_cons rfl

/-- A comma is apart from every word. -/
lemma apart_comma (rest : List Char) : Apart ([',', ' '] ++ rest) := apart_cons rfl

/-- A closing parenthesis is apart from every word. -/
lemma apart_closing (rest : List Char) : Apart ([')'] ++ rest) := apart_cons rfl

/-- The characters between the words. -/
def marks : List Char := ['(', ')', ',', '~', ' ']

/-- The characters between the words are in none. -/
lemma isWord_of_mem_marks {c : Char} (h : c ∈ marks) : isWord c = false := by
  have hall : marks.all fun c => !isWord c := by decide
  simpa using List.all_eq_true.1 hall c h

variable {p : Printed}

/-- What is printed are characters of words and a few others. -/
lemma Proper.isWord_or_mem_marks (h : p.Proper) : ∀ c ∈ p.text, isWord c = true ∨ c ∈ marks := by
  have hword {cs : List Char} (hcs : ∀ c ∈ cs, isWord c = true) : ∀ c ∈ cs, isWord c = true ∨ c ∈ marks :=
    fun c hc => .inl (hcs c hc)
  have hmarks {cs : List Char} (hcs : cs ⊆ marks) : ∀ c ∈ cs, isWord c = true ∨ c ∈ marks :=
    fun c hc => .inr (hcs hc)
  induction p with
  | truth b => exact hword (isWord_truthWord b)
  | feature name => exact hword (IsFeatureName.isWord_of_mem h)
  | choice name high low ihh ihl =>
    obtain ⟨hname, hhigh, hlow⟩ := h
    simp only [text, List.forall_mem_append]
    exact ⟨⟨⟨⟨⟨⟨⟨hword isWord_ite, hmarks (by decide)⟩, hword hname.isWord_of_mem⟩, hmarks (by decide)⟩, ihh hhigh⟩,
      hmarks (by decide)⟩, ihl hlow⟩, hmarks (by decide)⟩
  | not p ih =>
    simp only [text, List.forall_mem_append]
    exact ⟨⟨hmarks (by decide), ih h⟩, hmarks (by decide)⟩

/-- What is printed begins with a character that is no blank. -/
lemma Proper.exists_cons (h : p.Proper) : ∃ c rest, p.text = c :: rest ∧ Text.isBlank c = false := by
  cases p with
  | truth b => cases b <;> exact ⟨_, _, rfl, by decide⟩
  | feature name =>
    obtain ⟨c, rest, heq, hc, -⟩ := IsFeatureName.identifier h
    exact ⟨c, rest, heq, not_isBlank_of_isWord (isWord_of_isNameStart hc)⟩
  | choice name high low => exact ⟨_, _, rfl, by decide⟩
  | not p => exact ⟨_, _, rfl, by decide⟩

/-- What is printed ends with a character that is no blank. -/
lemma Proper.exists_concat (h : p.Proper) : ∃ front c, p.text = front ++ [c] ∧ Text.isBlank c = false := by
  have hclosing : Text.isBlank ')' = false := by decide
  cases p with
  | truth b =>
    cases b
    · exact ⟨['F', 'A', 'L', 'S'], 'E', rfl, by decide⟩
    · exact ⟨['T', 'R', 'U'], 'E', rfl, by decide⟩
  | feature name =>
    have hne := IsFeatureName.ne_nil h
    refine ⟨_, _, (List.dropLast_append_getLast hne).symm, not_isBlank_of_isWord ?_⟩
    exact IsFeatureName.isWord_of_mem h _ (List.getLast_mem hne)
  | choice name high low => exact ⟨_, ')', rfl, hclosing⟩
  | not p => exact ⟨_, ')', rfl, hclosing⟩

end Printed

/-! Normal texts -/

/-- A text without blanks at its ends stays as it is. -/
lemma trim_eq_self {cs front rest : List Char} {c d : Char} (hfirst : cs = c :: rest) (hc : Text.isBlank c = false)
    (hlast : cs = front ++ [d]) (hd : Text.isBlank d = false) : Text.trim cs = cs := by
  have htrim := trim_append (List.forall_mem_nil _) (List.forall_mem_nil _) hfirst hc hlast hd
  rwa [List.nil_append, List.append_nil] at htrim

/-- A text that neither begins nor ends with a blank is its own trimmed text. -/
lemma trim_eq_self_of_ends {cs : List Char} (hfirst : ∀ c ∈ cs.head?, Text.isBlank c = false)
    (hlast : ∀ c ∈ cs.getLast?, Text.isBlank c = false) : Text.trim cs = cs := by
  by_cases hnil : cs = []
  · rw [hnil]
    rfl
  · obtain ⟨c, rest, hcons⟩ := List.exists_cons_of_ne_nil hnil
    exact trim_eq_self hcons (hfirst c (by rw [hcons]; rfl)) (List.dropLast_append_getLast hnil).symm
      (hlast _ (List.getLast?_eq_some_getLast hnil))

/-- A single space stays as it is. -/
lemma squeeze_space {c : Char} (hc : Text.isBlank c = false) (rest : List Char) :
    Text.squeeze (' ' :: c :: rest) = ' ' :: Text.squeeze (c :: rest) := by
  have hspace : Text.isBlank ' ' = true := by decide
  rw [Text.squeeze.eq_def]
  simp only [hspace, hc, if_true, Bool.false_eq_true, if_false]

/-- Changing words changes nothing if every word stays as it is. -/
lemma mapWords_eq_self {f : List Char → List Char} (hf : f [] = []) (word cs : List Char)
    (h : ∀ w ∈ words word cs, f w = w) : mapWords f word cs = word.reverse ++ cs := by
  have hbegun (hmem : ∀ w ∈ if word = [] then [] else [word.reverse], f w = w) : f word.reverse = word.reverse := by
    split at hmem
    · rename_i hword
      rw [hword]
      exact hf
    · exact hmem _ (List.mem_singleton_self _)
  induction cs generalizing word with
  | nil => rw [mapWords, hbegun h, List.append_nil]
  | cons c rest ih =>
    rw [words] at h
    rw [mapWords]
    split
    · rename_i hc
      rw [if_pos hc] at h
      rw [ih (c :: word) h fun hmem => hmem _ (List.mem_singleton_self _), List.reverse_cons, List.append_assoc]
      rfl
    · rename_i hc
      rw [if_neg hc, List.forall_mem_append] at h
      rw [hbegun h.1, ih [] h.2 fun _ => hf]
      rfl

/-! Pieces of a text -/

section Pieces

variable (rest : List Char)

/-- A word that is apart from what follows is a word of the text. -/
lemma words_append_of_isWord {word : List Char} (hne : word ≠ []) (hword : ∀ c ∈ word, isWord c = true)
    {rest : List Char} (hrest : Printed.Apart rest) : words [] (word ++ rest) = word :: words [] rest := by
  obtain ⟨c, letters, rfl⟩ := List.exists_cons_of_ne_nil hne
  obtain ⟨hc, hletters⟩ := List.forall_mem_cons.1 hword
  rw [List.cons_append, words_cons_of_isWord hc, takeWhile_isWord hletters hrest, dropWhile_isWord hletters hrest]

/-- Squeezing blanks passes over a word. -/
lemma squeeze_append_of_isWord {word : List Char} (hword : ∀ c ∈ word, isWord c = true) :
    Text.squeeze (word ++ rest) = word ++ Text.squeeze rest :=
  squeeze_append (fun c hc => not_isBlank_of_isWord (hword c hc)) rest

/-- A word does not matter for balance. -/
lemma balanced_append_of_isWord {word : List Char} (hword : ∀ c ∈ word, isWord c = true) (depth : Nat) :
    balanced depth (word ++ rest) = balanced depth rest := by
  refine balanced_append (fun c hc => ?_) depth rest
  have hc := hword c hc
  constructor <;> rintro rfl <;> cases hc

/-- An opening parenthesis is one more to be closed. -/
lemma balanced_opening (depth : Nat) : balanced depth ('(' :: rest) = balanced (depth + 1) rest := rfl

/-- A closing parenthesis is one fewer to be closed. -/
lemma balanced_closing (depth : Nat) : balanced (depth + 1) (')' :: rest) = balanced depth rest := rfl

/-- A sign of one character is scanned as its token. -/
lemma scan_mark {c : Char} {t : Token} (hc : IsSign c) (hsign : ∀ rest, Token.sign? c rest = some (t, 0)) :
    Token.scan (c :: rest) = (t :: (Token.scan rest).1, (Token.scan rest).2) := by
  rw [Token.scan, if_neg hc.not_space, if_neg (by simp [hc.not_start]), if_neg (by simp [hc.not_digit]), hsign]
  rfl

/-- An opening parenthesis is scanned as such. -/
lemma scan_opening : Token.scan ('(' :: rest) = (.opening :: (Token.scan rest).1, (Token.scan rest).2) :=
  scan_mark rest (isSign_of_mem_signs (by decide)) fun rest => by simp [Token.sign?]

/-- A closing parenthesis is scanned as such. -/
lemma scan_closing : Token.scan (')' :: rest) = (.closing :: (Token.scan rest).1, (Token.scan rest).2) :=
  scan_mark rest (isSign_of_mem_signs (by decide)) fun rest => by simp [Token.sign?]

/-- A tilde is scanned as a negation. -/
lemma scan_tilde : Token.scan ('~' :: rest) = (.not :: (Token.scan rest).1, (Token.scan rest).2) :=
  scan_mark rest (isSign_of_mem_signs (by decide)) fun rest => by simp [Token.sign?]

/-- A comma is scanned as such. -/
lemma scan_comma : Token.scan (',' :: rest) = (.comma :: (Token.scan rest).1, (Token.scan rest).2) :=
  scan_mark rest ⟨by decide, by decide, by decide, by decide, by decide, by decide⟩ fun rest => by
    simp [Token.sign?]

/-- A choice is scanned with its opening parenthesis. -/
lemma scan_ite : Token.scan ('i' :: 't' :: 'e' :: '(' :: rest) =
    (.choice :: .opening :: (Token.scan rest).1, (Token.scan rest).2) := by
  have hletters : ∀ c ∈ ['t', 'e'], isWord c = true := List.all_eq_true.1 (by decide)
  have hscan := scan_word (c := 'i') (by decide) hletters (Printed.apart_opening rest)
  have hite : Token.ofWord ['i', 't', 'e'] = .choice := by decide
  rw [hite, List.singleton_append, scan_opening] at hscan
  exact hscan

end Pieces

/-- The name of a feature is read as a name. -/
lemma IsFeatureName.ofWord {word : List Char} (h : IsFeatureName word) :
    Token.ofWord word = .name (String.ofList word) :=
  ofWord_of_normalSpelling ⟨.name h, nofun⟩ trivial

/-- The name of a feature is scanned as a name. -/
lemma IsFeatureName.scan {word rest : List Char} (h : IsFeatureName word) (hrest : Printed.Apart rest) :
    Token.scan (word ++ rest) = (.name (String.ofList word) :: (Token.scan rest).1, (Token.scan rest).2) := by
  rw [← h.ofWord]
  obtain ⟨c, letters, rfl, hc, hletters⟩ := h.identifier
  exact scan_word hc hletters hrest

/-- The word of a truth value is scanned as this value. -/
lemma scan_truthWord (b : Bool) {rest : List Char} (hrest : Printed.Apart rest) :
    Token.scan ((truthWord b).map Char.toUpper ++ rest) =
      (.truth b :: (Token.scan rest).1, (Token.scan rest).2) := by
  have hword : Token.ofWord ((truthWord b).map Char.toUpper) = .truth b := by cases b <;> decide
  have hletters := Printed.isWord_truthWord b
  rw [← hword]
  cases b
  all_goals exact scan_word (by decide) (List.forall_mem_cons.1 hletters).2 hrest

/-! Passes over a printed text -/

namespace Printed

variable {p : Printed} {rest : List Char}

/-- The words of what is printed are found, whatever comes behind it that is apart. -/
lemma Proper.words_text (h : p.Proper) (hrest : Apart rest) :
    Formula.words [] (p.text ++ rest) = p.words ++ Formula.words [] rest := by
  have hmarks {cs : List Char} (hcs : cs ⊆ marks) (rest : List Char) :
      Formula.words [] (cs ++ rest) = Formula.words [] rest :=
    words_append_of_not_isWord (fun c hc => isWord_of_mem_marks (hcs hc)) rest
  have hopening : ['('] ⊆ marks := by decide
  have hcomma : [',', ' '] ⊆ marks := by decide
  have hclosing : [')'] ⊆ marks := by decide
  induction p generalizing rest with
  | truth b => exact words_append_of_isWord (by cases b <;> decide) (isWord_truthWord b) hrest
  | feature name => exact words_append_of_isWord (IsFeatureName.ne_nil h) (IsFeatureName.isWord_of_mem h) hrest
  | choice name high low ihh ihl =>
    obtain ⟨hname, hhigh, hlow⟩ := h
    simp only [text, List.append_assoc]
    rw [words_append_of_isWord (List.cons_ne_nil _ _) isWord_ite (apart_opening _), hmarks hopening,
      words_append_of_isWord hname.ne_nil hname.isWord_of_mem (apart_comma _), hmarks hcomma,
      ihh hhigh (apart_comma _), hmarks hcomma, ihl hlow (apart_closing _), hmarks hclosing]
    simp only [words, List.cons_append, List.append_assoc]
  | not p ih =>
    simp only [text, List.append_assoc]
    have hopening : ['(', '~', ' '] ⊆ marks := by decide
    rw [hmarks hopening, ih h (apart_closing _), hmarks hclosing]
    rfl

/-- The words of a proper text are those that were printed. -/
lemma Proper.words_eq (h : p.Proper) : Formula.words [] p.text = p.words := by
  have hwords := h.words_text apart_nil
  rw [List.append_nil] at hwords
  exact hwords.trans (List.append_nil _)

/-- A space before a proper text is kept when blanks are squeezed. -/
lemma Proper.squeeze_space_text (h : p.Proper) (rest : List Char) :
    Text.squeeze (' ' :: (p.text ++ rest)) = ' ' :: Text.squeeze (p.text ++ rest) := by
  obtain ⟨c, cs, heq, hc⟩ := h.exists_cons
  rw [heq]
  exact squeeze_space hc (cs ++ rest)

/-- Blanks that are printed are single spaces already. -/
lemma Proper.squeeze_text (h : p.Proper) (rest : List Char) :
    Text.squeeze (p.text ++ rest) = p.text ++ Text.squeeze rest := by
  have hcomma {p : Printed} (h : p.Proper) (rest : List Char) :
      Text.squeeze ([',', ' '] ++ (p.text ++ rest)) = [',', ' '] ++ Text.squeeze (p.text ++ rest) :=
    (squeeze_cons_of_not_isBlank (by decide) _).trans (congrArg _ (h.squeeze_space_text rest))
  have hmark {word : List Char} (hword : word.all fun c => !Text.isBlank c) (rest : List Char) :
      Text.squeeze (word ++ rest) = word ++ Text.squeeze rest :=
    squeeze_append (fun c hc => by simpa using List.all_eq_true.1 hword c hc) rest
  have hclosing : [')'].all fun c => !Text.isBlank c := by decide
  induction p generalizing rest with
  | truth b => exact squeeze_append_of_isWord rest (isWord_truthWord b)
  | feature name => exact squeeze_append_of_isWord rest (IsFeatureName.isWord_of_mem h)
  | choice name high low ihh ihl =>
    obtain ⟨hname, hhigh, hlow⟩ := h
    simp only [text, List.append_assoc]
    have hopening : ['('].all fun c => !Text.isBlank c := by decide
    rw [squeeze_append_of_isWord _ isWord_ite, hmark hopening, squeeze_append_of_isWord _ hname.isWord_of_mem,
      hcomma hhigh, ihh hhigh, hcomma hlow, ihl hlow, hmark hclosing]
  | not p ih =>
    have hopening : ['(', '~'].all fun c => !Text.isBlank c := by decide
    calc Text.squeeze (p.not.text ++ rest)
        = Text.squeeze (['(', '~'] ++ (' ' :: (p.text ++ ([')'] ++ rest)))) := by
          simp only [text, List.append_assoc, List.cons_append, List.nil_append]
      _ = ['(', '~'] ++ (' ' :: (p.text ++ ([')'] ++ Text.squeeze rest))) := by
          rw [hmark hopening, Proper.squeeze_space_text (p := p) h, ih h, hmark hclosing]
      _ = p.not.text ++ Text.squeeze rest := by
          simp only [text, List.append_assoc, List.cons_append, List.nil_append]

/-- What is printed closes the parentheses that it opens. -/
lemma Proper.balanced_text (h : p.Proper) (depth : Nat) (rest : List Char) :
    balanced depth (p.text ++ rest) = balanced depth rest := by
  have hcomma : ∀ c ∈ [',', ' '], c ≠ '(' ∧ c ≠ ')' := by simp
  induction p generalizing depth rest with
  | truth b => exact balanced_append_of_isWord rest (isWord_truthWord b) depth
  | feature name => exact balanced_append_of_isWord rest (IsFeatureName.isWord_of_mem h) depth
  | choice name high low ihh ihl =>
    obtain ⟨hname, hhigh, hlow⟩ := h
    simp only [text, List.append_assoc]
    rw [balanced_append_of_isWord _ isWord_ite, List.singleton_append, balanced_opening,
      balanced_append_of_isWord _ hname.isWord_of_mem, balanced_append hcomma, ihh hhigh, balanced_append hcomma,
      ihl hlow, List.singleton_append, balanced_closing]
  | not p ih =>
    have htilde : ∀ c ∈ ['~', ' '], c ≠ '(' ∧ c ≠ ')' := by simp
    calc balanced depth (p.not.text ++ rest)
        = balanced depth ('(' :: (['~', ' '] ++ (p.text ++ (')' :: rest)))) := by
          simp only [text, List.append_assoc, List.cons_append, List.nil_append]
      _ = balanced depth rest := by
          rw [balanced_opening, balanced_append htilde, ih h, balanced_closing]

/-- The tokens of what is printed are found, whatever comes behind it that is apart. -/
lemma Proper.scan_text (h : p.Proper) (hrest : Apart rest) :
    Token.scan (p.text ++ rest) = (p.tokens ++ (Token.scan rest).1, (Token.scan rest).2) := by
  have hcomma (rest : List Char) :
      Token.scan ([',', ' '] ++ rest) = (.comma :: (Token.scan rest).1, (Token.scan rest).2) := by
    rw [List.cons_append, scan_comma, List.singleton_append, scan_space]
  induction p generalizing rest with
  | truth b => exact scan_truthWord b hrest
  | feature name =>
    have hscan := IsFeatureName.scan h hrest
    rwa [String.ofList_toList] at hscan
  | choice name high low ihh ihl =>
    obtain ⟨hname, hhigh, hlow⟩ := h
    have hscan := hname.scan (apart_comma (high.text ++ ([',', ' '] ++ (low.text ++ ([')'] ++ rest)))))
    rw [String.ofList_toList] at hscan
    calc Token.scan ((choice name high low).text ++ rest)
        = Token.scan ('i' :: 't' :: 'e' :: '(' :: (name.toList ++ ([',', ' '] ++ (high.text ++
            ([',', ' '] ++ (low.text ++ ([')'] ++ rest))))))) := by
          simp only [text, List.append_assoc, List.cons_append, List.nil_append]
      _ = ((choice name high low).tokens ++ (Token.scan rest).1, (Token.scan rest).2) := by
          rw [scan_ite, hscan, hcomma, ihh hhigh (apart_comma _), hcomma, ihl hlow (apart_closing _),
            List.singleton_append, scan_closing]
          simp only [tokens, List.cons_append, List.append_assoc, List.nil_append]
  | not p ih =>
    calc Token.scan (p.not.text ++ rest)
        = Token.scan ('(' :: '~' :: ' ' :: (p.text ++ ([')'] ++ rest))) := by
          simp only [text, List.append_assoc, List.cons_append, List.nil_append]
      _ = (p.not.tokens ++ (Token.scan rest).1, (Token.scan rest).2) := by
          rw [scan_opening, scan_tilde, scan_space, ih h (apart_closing _), List.singleton_append, scan_closing]
          simp only [tokens, List.cons_append, List.append_assoc, List.nil_append]

/-- What is printed is read as the formula that it spells out, wherever it stands. -/
lemma read_tokens (p : Printed) (bad : Option Char) (stack : List Frame) (rest : List Token) :
    read bad .operand stack (p.tokens ++ rest) = read bad (.connective p.formula) stack rest := by
  induction p generalizing stack rest with
  | truth b => rfl
  | feature name => rfl
  | choice name high low ihh ihl =>
    simp only [tokens, List.cons_append, List.append_assoc, List.nil_append]
    -- the commas and the parenthesis complete an operand at once: nothing weaker waits inside a choice
    simp only [read, complete, ihh, ihl]
    rfl
  | not p ih =>
    simp only [tokens, List.cons_append, List.append_assoc, List.nil_append]
    simp only [read, complete, ih]
    rfl

/-- The names among the words that are printed. -/
lemma Proper.namesOf_words (h : p.Proper) (words : List (List Char)) :
    namesOf (p.words ++ words) = p.formula.names ++ namesOf words := by
  induction p generalizing words with
  | truth b => exact namesOf_truth b words
  | feature name =>
    exact (IsFeatureName.namesOf_cons h words).trans (by rw [String.ofList_toList]; rfl)
  | choice name high low ihh ihl =>
    obtain ⟨hname, hhigh, hlow⟩ := h
    have hite (words : List (List Char)) : namesOf (['i', 't', 'e'] :: words) = namesOf words := rfl
    simp only [Printed.words, List.cons_append, List.append_assoc]
    rw [hite, hname.namesOf_cons, String.ofList_toList, ihh hhigh, ihl hlow]
    simp only [formula, names, List.append_assoc, List.cons_append, List.nil_append]
  | not p ih => exact ih h words

/-- Truth values are printed in capitals, and no other word is a truth value. -/
lemma Proper.capitalize_of_mem (h : p.Proper) : ∀ w ∈ p.words, capitalize w = w := by
  induction p with
  | truth b => exact List.forall_mem_singleton.2 (by cases b <;> decide)
  | feature name => exact List.forall_mem_singleton.2 (IsFeatureName.capitalize_eq h)
  | choice name high low ihh ihl =>
    obtain ⟨hname, hhigh, hlow⟩ := h
    have hite : capitalize ['i', 't', 'e'] = ['i', 't', 'e'] := by decide
    exact List.forall_mem_cons.2 ⟨hite, List.forall_mem_cons.2 ⟨hname.capitalize_eq,
      List.forall_mem_append.2 ⟨ihh hhigh, ihl hlow⟩⟩⟩
  | not p ih => exact ih h

/-- In a proper text stand words and the characters between them only. -/
lemma Proper.not_mem_text (h : p.Proper) {op : Char} (hword : isWord op = false) (hmarks : op ∉ marks) :
    op ∉ p.text := by
  intro hmem
  rcases h.isWord_or_mem_marks op hmem with hop | hop
  · rw [hop] at hword
    cases hword
  · exact hmarks hop

/-- What is printed is its own normal text. -/
theorem Proper.normalize_text (h : p.Proper) : normalize (String.ofList p.text) = .ok (String.ofList p.text) := by
  obtain ⟨c, rest, hfirst, hc⟩ := h.exists_cons
  obtain ⟨front, d, hlast, hd⟩ := h.exists_concat
  have htrim := trim_eq_self hfirst hc hlast hd
  have hne : p.text ≠ [] := by
    rw [hfirst]
    exact List.cons_ne_nil c rest
  have hallowed : p.text.find? (!isAllowed ·) = none := by
    apply List.find?_eq_none.2
    intro c hc
    rcases h.isWord_or_mem_marks c hc with hword | hmark
    · simp [isAllowed_of_isWord hword]
    · have hall : marks.all isAllowed := by decide
      simp [List.all_eq_true.1 hall c hmark]
  have hbalanced : balanced 0 p.text = true := by
    rw [← List.append_nil p.text, h.balanced_text]
    rfl
  have hhalve {op : Char} (hop : op ∉ p.text) : halve op p.text = p.text := by
    have hall := halve_append hop []
    rwa [List.append_nil, halve, List.append_nil] at hall
  have hsqueeze : Text.squeeze p.text = p.text := by
    have hall := h.squeeze_text []
    rwa [List.append_nil, Text.squeeze, List.append_nil] at hall
  have htilde : (p.text.map fun c => if c = '!' then '~' else c) = p.text := by
    refine (List.map_congr_left fun c hc => if_neg ?_).trans (List.map_id _)
    rintro rfl
    exact h.not_mem_text (by decide) (by decide) hc
  have hwords : mapWords capitalize [] p.text = p.text := by
    refine mapWords_eq_self rfl [] p.text ?_
    rw [h.words_eq]
    exact h.capitalize_of_mem
  have hrespell : respell p.text = p.text := by
    rw [respell, hsqueeze, hhalve (h.not_mem_text (by decide) (by decide)),
      hhalve (h.not_mem_text (by decide) (by decide)), htilde, hwords]
  rw [normalize, String.toList_ofList]
  simp only [htrim, hne, hallowed, hbalanced, hrespell, if_true, if_false]

/-- What is printed is read as the formula that it spells out. -/
theorem Proper.parse_text (h : p.Proper) : parse (String.ofList p.text) = .ok p.formula := by
  have hscan := h.scan_text apart_nil
  rw [List.append_nil, Token.scan, List.append_nil] at hscan
  have hread := p.read_tokens none [] []
  rw [List.append_nil, read, complete_of_open open_nil] at hread
  rw [parse, String.toList_ofList, hscan]
  exact hread

/-- The names among the words that are printed are those of the formula that is spelled out. -/
theorem Proper.namesOf_words_text (h : p.Proper) : namesOf (Formula.words [] p.text) = p.formula.names := by
  have hnames := h.namesOf_words []
  rw [List.append_nil] at hnames
  rw [h.words_eq]
  exact hnames.trans (List.append_nil _)

end Printed

end Formula

end ProductLine
