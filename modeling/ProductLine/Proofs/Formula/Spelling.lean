import Mathlib
import ProductLine.Formula.Token
import ProductLine.Proofs.Formula.Names
import ProductLine.Proofs.Formula.Reading

/-!
# Spellings of formulas

A text writes a formula if its tokens do, each in one of its spellings and with any blanks between them
(`WrittenAs`). Putting the text into its normal form keeps it a text of the same tokens (`Laid.respell`), since
a word is never followed by a word and a connective never by a connective; only the truth values are spelled in
one way afterwards.
-/

namespace ProductLine

namespace Formula

/-- The spellings of the signs. -/
def Token.spellings : Token → List (List Char)
  | .connective .iff => [['<', '-', '>']]
  | .connective .implies => [['-', '>']]
  | .connective .xor => [['^']]
  | .connective .or => [['|'], ['|', '|'], ['\\', '/']]
  | .connective .and => [['&'], ['&', '&'], ['/', '\\']]
  | .not => [['!'], ['~']]
  | .opening => [['(']]
  | .closing => [[')']]
  | _ => []

/-- A truth value in small letters. -/
def truthWord : Bool → List Char
  | true => ['t', 'r', 'u', 'e']
  | false => ['f', 'a', 'l', 's', 'e']

/-- Whether a word can be the name of a feature: an identifier that stands for nothing else. -/
structure IsFeatureName (word : List Char) : Prop where
  identifier : ∃ c rest, word = c :: rest ∧ Token.isNameStart c = true ∧ ∀ d ∈ rest, isWord d = true
  not_choice : word ≠ ['i', 't', 'e']
  not_truth : ∀ b, word.map Char.toLower ≠ truthWord b

/-- The spellings of a token: a name as it is, a truth value in any case, a sign in one of its spellings. -/
inductive Spelling : Token → List Char → Prop where
  | name {word} : IsFeatureName word → Spelling (.name (String.ofList word)) word
  | truth {b word} : word.map Char.toLower = truthWord b → Spelling (.truth b) word
  | sign {t word} : word ∈ t.spellings → Spelling t word

/-- The texts of tokens, each in one of its spellings, with blanks anywhere between them. -/
inductive Laid (blank : Char → Prop) (spelling : Token → List Char → Prop) : List Token → List Char → Prop where
  | nil :
    Laid blank spelling [] []
  | blank {c tokens rest} :
    blank c →
    Laid blank spelling tokens rest →
    Laid blank spelling tokens (c :: rest)
  | token {t word tokens rest} :
    spelling t word →
    Laid blank spelling tokens rest →
    Laid blank spelling (t :: tokens) (word ++ rest)

/-- Whether a text writes a formula. -/
def WrittenAs (f : Formula) (text : String) : Prop :=
  ∃ tokens, Writes false f tokens ∧ Laid (fun c => Text.isBlank c = true) Spelling tokens text.toList

/-! Characters of spellings -/

/-- No character of a word is blank. -/
lemma not_isBlank_of_isWord {c : Char} (h : isWord c = true) : Text.isBlank c = false := by
  have halphanum : c.isAlphanum = (c.isAlpha || c.isDigit) := rfl
  have halpha : c.isAlpha = (c.isUpper || c.isLower) := rfl
  have hupper : c.isUpper = decide (c.val ≥ 'A'.val ∧ c.val ≤ 'Z'.val) := rfl
  have hlower : c.isLower = (decide (c.val ≥ 'a'.val) && decide (c.val ≤ 'z'.val)) := rfl
  have hnat : c.toNat = c.val.toNat := rfl
  simp only [isWord, halphanum, halpha, hupper, hlower, Char.isDigit, Bool.or_eq_true, Bool.and_eq_true,
    decide_eq_true_eq, beq_iff_eq, ge_iff_le, UInt32.le_iff_toNat_le, Char.reduceVal, UInt32.reduceToNat] at h
  rcases h with h | rfl
  · simp only [Text.isBlank, hnat, Bool.or_eq_false_iff, Bool.and_eq_false_iff, decide_eq_false_iff_not,
      beq_eq_false_iff_ne, ne_eq]
    omega
  · decide

/-- The characters of words may stand in a formula. -/
lemma isAllowed_of_isWord {c : Char} (h : isWord c = true) : isAllowed c = true := by
  simp only [isAllowed, h, Bool.true_or]

/-- Blanks may stand in a formula. -/
lemma isAllowed_of_isBlank {c : Char} (h : Text.isBlank c = true) : isAllowed c = true := by
  simp only [isAllowed, h, Bool.or_true, Bool.true_or]

/-- What is known about each character of a sign. -/
structure IsSign (c : Char) : Prop where
  not_word : isWord c = false
  not_blank : Text.isBlank c = false
  not_space : c ≠ ' '
  not_start : Token.isNameStart c = false
  not_digit : c.isDigit = false
  allowed : isAllowed c = true

/-- The characters of signs. -/
def signs : List Char := ['(', ')', '&', '|', '!', '~', '/', '\\', '<', '>', '^', '-']

/-- The characters of signs are no blanks and in no word. -/
lemma isSign_of_mem_signs {c : Char} (h : c ∈ signs) : IsSign c := by
  simp only [signs, List.mem_cons, List.not_mem_nil, or_false] at h
  rcases h with rfl | rfl | rfl | rfl | rfl | rfl | rfl | rfl | rfl | rfl | rfl | rfl
  all_goals exact ⟨by decide, by decide, by decide, by decide, by decide, by decide⟩

/-- The spellings of a sign are not empty and consist of the characters of signs. -/
lemma of_mem_spellings {t : Token} {word : List Char} (h : word ∈ t.spellings) :
    word ≠ [] ∧ ¬ t.IsWord ∧ word ⊆ signs := by
  unfold Token.spellings at h
  split at h
  case h_9 => cases h
  all_goals
    simp only [List.mem_cons, List.not_mem_nil, or_false] at h
    refine ⟨?_, id, ?_⟩
  all_goals
    rcases h with rfl | rfl | rfl
    all_goals decide

/-! Spellings -/

namespace Spelling

variable {t : Token} {word : List Char}

/-- A spelling is not empty. -/
lemma ne_nil (h : Spelling t word) : word ≠ [] := by
  cases h with
  | name h =>
    obtain ⟨c, rest, rfl, -⟩ := h.identifier
    exact List.cons_ne_nil _ _
  | @truth b _ h =>
    rintro rfl
    cases b <;> cases h
  | sign h => exact (of_mem_spellings h).1

/-- A word consists of word characters and begins like a name. -/
lemma of_isWord (h : Spelling t word) (ht : t.IsWord) :
    ∃ c rest, word = c :: rest ∧ Token.isNameStart c = true ∧ ∀ d ∈ rest, isWord d = true := by
  cases h with
  | name h => exact h.identifier
  | @truth b _ h =>
    cases word with
    | nil => cases b <;> cases h
    | cons c rest =>
      have hletter : ∀ d ∈ c :: rest, d.isAlpha = true := by
        intro d hd
        rw [← Char.isAlpha_toLower_eq_isAlpha]
        have hmem : d.toLower ∈ truthWord b := h ▸ List.mem_map_of_mem hd
        revert hmem
        generalize d.toLower = e
        cases b <;> simp only [truthWord, List.mem_cons, List.not_mem_nil, or_false]
        all_goals
          rintro (rfl | rfl | rfl | rfl | rfl) <;> rfl
      refine ⟨c, rest, rfl, ?_, fun d hd => ?_⟩
      · simp only [Token.isNameStart, hletter c List.mem_cons_self, Bool.true_or]
      · simp only [isWord, Char.isAlphanum, hletter d (List.mem_cons_of_mem _ hd), Bool.true_or]
  | sign h => exact absurd ht (of_mem_spellings h).2.1

/-- A sign is one of the spellings of its token. -/
lemma mem_spellings (h : Spelling t word) (ht : ¬ t.IsWord) : word ∈ t.spellings := by
  cases h with
  | name => exact absurd trivial ht
  | truth => exact absurd trivial ht
  | sign h => exact h

/-- The spelling of a token that is no word consists of the characters of signs. -/
lemma isSign (h : Spelling t word) (ht : ¬ t.IsWord) : ∀ c ∈ word, IsSign c :=
  fun _ hc => isSign_of_mem_signs ((of_mem_spellings (h.mem_spellings ht)).2.2 hc)

/-- The spelling of a word consists of the characters of words. -/
lemma isWord_of_mem (h : Spelling t word) (ht : t.IsWord) : ∀ c ∈ word, isWord c = true := by
  obtain ⟨c, rest, rfl, hc, hrest⟩ := h.of_isWord ht
  exact List.forall_mem_cons.2 ⟨isWord_of_isNameStart hc, hrest⟩

/-- Every character is one of a word or one of a sign. -/
lemma isWord_or_isSign (h : Spelling t word) : ∀ c ∈ word, isWord c = true ∨ IsSign c := by
  intro c hc
  by_cases ht : t.IsWord
  · exact .inl (h.isWord_of_mem ht c hc)
  · exact .inr (h.isSign ht c hc)

/-- There is no blank in a spelling. -/
lemma not_isBlank (h : Spelling t word) : ∀ c ∈ word, Text.isBlank c = false := by
  intro c hc
  rcases h.isWord_or_isSign c hc with hword | hsign
  · exact not_isBlank_of_isWord hword
  · exact hsign.not_blank

/-- The characters of a spelling may stand in a formula. -/
lemma isAllowed_of_mem (h : Spelling t word) : ∀ c ∈ word, isAllowed c = true := by
  intro c hc
  rcases h.isWord_or_isSign c hc with hword | hsign
  · exact isAllowed_of_isWord hword
  · exact hsign.allowed

/-- A character that is doubled in no other sign stands, by itself or twice, for one connective. -/
lemma doubled {op : Char} (hop : op = '&' ∨ op = '|') (h : Spelling t word) :
    op ∉ word ∨ t.IsConnective ∧ (word = [op] ∨ word = [op, op]) ∧ Spelling t [op] := by
  by_cases ht : t.IsWord
  · left
    intro hmem
    have hword := h.isWord_of_mem ht op hmem
    rcases hop with rfl | rfl <;> cases hword
  · have hmem := h.mem_spellings ht
    unfold Token.spellings at hmem
    split at hmem
    case h_9 => cases hmem
    all_goals
      simp only [List.mem_cons, List.not_mem_nil, or_false] at hmem
      rcases hop with rfl | rfl
    all_goals
      rcases hmem with rfl | rfl | rfl
    all_goals first
      | exact .inl (by decide)
      | exact .inr ⟨trivial, by decide, .sign (by decide)⟩

end Spelling

/-! Passes over a text -/

namespace Laid

variable {blank : Char → Prop} {tokens : List Token} {cs : List Char}

/-- Tokens laid out in some spellings are laid out in more of them. -/
lemma mono {spelling spelling' : Token → List Char → Prop} (hmono : ∀ t word, spelling t word → spelling' t word)
    (h : Laid blank spelling tokens cs) : Laid blank spelling' tokens cs := by
  induction h with
  | nil => exact .nil
  | blank hc _ ih => exact .blank hc ih
  | token hword _ ih => exact .token (hmono _ _ hword) ih

/-- What begins a text of tokens is a blank or begins the first of them. -/
lemma head (h : Laid blank Spelling tokens cs) {c : Char} {rest : List Char} (hcs : cs = c :: rest) :
    blank c ∨ ∃ t tokens' word, tokens = t :: tokens' ∧ Spelling t (c :: word) := by
  cases h with
  | nil => cases hcs
  | blank hc _ =>
    cases hcs
    exact .inl hc
  | @token t word _ _ hword _ =>
    obtain ⟨d, word', rfl⟩ := List.exists_cons_of_ne_nil hword.ne_nil
    cases hcs
    exact .inr ⟨t, _, word', rfl, hword⟩

/-- Behind a word comes no character of words. -/
lemma not_isWord_head {t : Token} {rest : List Char} (hblank : ∀ c, blank c → Text.isBlank c = true)
    (h : Laid blank Spelling tokens rest) (hmeets : (t :: tokens).IsChain Token.Meets) (ht : t.IsWord) :
    ∀ c ∈ rest.head?, isWord c = false := by
  intro c hc
  obtain ⟨rest', rfl⟩ := List.head?_eq_some_iff.1 hc
  rcases h.head rfl with hc | ⟨u, tokens', word, rfl, hu⟩
  · by_contra hword
    have := not_isBlank_of_isWord (by simpa using hword)
    rw [hblank c hc] at this
    cases this
  · have hnot : ¬ u.IsWord := fun hword => (List.isChain_cons_cons.1 hmeets).1.1 ⟨ht, hword⟩
    exact (hu.isSign hnot c List.mem_cons_self).not_word

/-- Behind a connective comes no character that could double it. -/
lemma ne_head {t : Token} {rest : List Char} {op : Char} (hop : op = '&' ∨ op = '|')
    (hblank : ∀ c, blank c → Text.isBlank c = true) (h : Laid blank Spelling tokens rest)
    (hmeets : (t :: tokens).IsChain Token.Meets) (ht : t.IsConnective) : op ∉ rest.head? := by
  intro hc
  obtain ⟨rest', rfl⟩ := List.head?_eq_some_iff.1 hc
  rcases h.head rfl with hc | ⟨u, tokens', word, rfl, hu⟩
  · have := hblank op hc
    rcases hop with rfl | rfl <;> cases this
  · rcases hu.doubled hop with hnot | ⟨hconnective, -⟩
    · exact hnot List.mem_cons_self
    · exact (List.isChain_cons_cons.1 hmeets).1.2 ⟨ht, hconnective⟩

/-- A pass that keeps blanks, and changes each token into one of its spellings whatever comes behind it, keeps
the tokens of a text. -/
lemma pass {spelling : Token → List Char → Prop} {change : List Char → List Char} (hnil : change [] = [])
    (hblank : ∀ c rest, blank c → change (c :: rest) = c :: change rest)
    (hword : ∀ t word tokens rest, Spelling t word → Laid blank Spelling tokens rest →
      (t :: tokens).IsChain Token.Meets → ∃ word', spelling t word' ∧ change (word ++ rest) = word' ++ change rest)
    (h : Laid blank Spelling tokens cs) (hmeets : tokens.IsChain Token.Meets) :
    Laid blank spelling tokens (change cs) := by
  induction h with
  | nil =>
    rw [hnil]
    exact .nil
  | blank hc _ ih =>
    rw [hblank _ _ hc]
    exact .blank hc (ih hmeets)
  | @token t word tokens rest ht hrest ih =>
    obtain ⟨word', hword', heq⟩ := hword t word tokens rest ht hrest hmeets
    rw [heq]
    exact .token hword' (ih hmeets.tail)

end Laid

/-! The blanks -/

/-- Taking a blank from the front leaves the tokens. -/
lemma Laid.of_blank_cons {tokens : List Token} {c : Char} {rest : List Char} (hc : Text.isBlank c = true)
    (h : Laid (fun c => Text.isBlank c = true) Spelling tokens (c :: rest)) :
    Laid (fun c => Text.isBlank c = true) Spelling tokens rest := by
  generalize hcs : c :: rest = cs at h
  cases h with
  | nil => cases hcs
  | blank _ h =>
    cases hcs
    exact h
  | @token t word _ _ hword _ =>
    obtain ⟨d, word', rfl⟩ := List.exists_cons_of_ne_nil hword.ne_nil
    cases hcs
    rw [hword.not_isBlank c List.mem_cons_self] at hc
    cases hc

/-- Taking a blank from the end leaves the tokens. -/
lemma Laid.of_concat_blank {tokens : List Token} {c : Char} {front : List Char} (hc : Text.isBlank c = true)
    (h : Laid (fun c => Text.isBlank c = true) Spelling tokens (front ++ [c])) :
    Laid (fun c => Text.isBlank c = true) Spelling tokens front := by
  generalize hcs : front ++ [c] = cs at h
  induction h generalizing front with
  | nil => simp at hcs
  | @blank d tokens rest hd hrest ih =>
    cases front with
    | nil =>
      cases hcs
      exact hrest
    | cons e front =>
      cases hcs
      exact .blank hd (ih rfl)
  | @token t word tokens rest hword hrest ih =>
    rcases List.eq_nil_or_concat rest with rfl | ⟨rest', d, rfl⟩
    · rw [List.append_nil] at hcs
      have hmem : c ∈ word := hcs ▸ List.mem_append_right _ List.mem_cons_self
      rw [hword.not_isBlank c hmem] at hc
      cases hc
    · rw [List.concat_eq_append, ← List.append_assoc] at hcs
      obtain ⟨rfl, hcd⟩ := List.append_inj' hcs rfl
      cases hcd
      exact .token hword (ih List.concat_eq_append.symm)

/-- Tokens stay laid out when blanks at the start are taken away. -/
lemma Laid.dropWhile {tokens : List Token} {cs : List Char}
    (h : Laid (fun c => Text.isBlank c = true) Spelling tokens cs) :
    Laid (fun c => Text.isBlank c = true) Spelling tokens (cs.dropWhile Text.isBlank) := by
  induction cs with
  | nil => exact h
  | cons c rest ih =>
    rw [List.dropWhile_cons]
    split
    · rename_i hc
      exact ih (h.of_blank_cons hc)
    · exact h

/-- Tokens stay laid out when blanks at the end are taken away. -/
lemma Laid.rdropWhile {tokens : List Token} {cs : List Char}
    (h : Laid (fun c => Text.isBlank c = true) Spelling tokens cs) :
    Laid (fun c => Text.isBlank c = true) Spelling tokens (cs.reverse.dropWhile Text.isBlank).reverse := by
  induction cs using List.reverseRecOn with
  | nil => exact h
  | append_singleton front c ih =>
    rw [List.reverse_append, List.reverse_singleton, List.singleton_append, List.dropWhile_cons]
    split
    · rename_i hc
      exact ih (h.of_concat_blank hc)
    · rwa [List.reverse_cons, List.reverse_reverse]

/-- Taking the blanks from both ends leaves the tokens. -/
lemma Laid.trim {tokens : List Token} {cs : List Char}
    (h : Laid (fun c => Text.isBlank c = true) Spelling tokens cs) :
    Laid (fun c => Text.isBlank c = true) Spelling tokens (Text.trim cs) := h.dropWhile.rdropWhile

/-- The blanks around a text that neither begins nor ends with one are taken away. -/
lemma trim_append {front body back : List Char} (hfront : ∀ c ∈ front, Text.isBlank c = true)
    (hback : ∀ c ∈ back, Text.isBlank c = true) {c d : Char} {more others : List Char} (hfirst : body = c :: more)
    (hc : Text.isBlank c = false) (hlast : body = others ++ [d]) (hd : Text.isBlank d = false) :
    Text.trim (front ++ (body ++ back)) = body := by
  have hleft : (front ++ (body ++ back)).dropWhile Text.isBlank = body ++ back := by
    rw [List.dropWhile_append_of_pos hfront, hfirst, List.cons_append, List.dropWhile_cons_of_neg (by simp [hc])]
  have hright : (body ++ back).reverse.dropWhile Text.isBlank = body.reverse := by
    rw [List.reverse_append, List.dropWhile_append_of_pos (by simpa using hback), hlast, List.reverse_append,
      List.reverse_singleton, List.singleton_append, List.dropWhile_cons_of_neg (by simp [hd])]
  rw [Text.trim, hleft, hright, List.reverse_reverse]

/-- Squeezing blanks passes over a character that is none. -/
lemma squeeze_cons_of_not_isBlank {c : Char} (h : Text.isBlank c = false) (rest : List Char) :
    Text.squeeze (c :: rest) = c :: Text.squeeze rest := by
  rw [Text.squeeze.eq_def]
  simp only [h, Bool.false_eq_true, if_false]

/-- A blank stays as a space, unless another one follows. -/
lemma squeeze_cons_of_isBlank {c : Char} (h : Text.isBlank c = true) (rest : List Char) :
    Text.squeeze (c :: rest) = Text.squeeze rest ∨ Text.squeeze (c :: rest) = ' ' :: Text.squeeze rest := by
  rw [Text.squeeze.eq_def]
  simp only [h, if_true]
  cases rest with
  | nil => exact .inr rfl
  | cons d rest =>
    simp only
    split
    · exact .inl rfl
    · exact .inr rfl

/-- Squeezing blanks passes over a text without them. -/
lemma squeeze_append {word : List Char} (h : ∀ c ∈ word, Text.isBlank c = false) (rest : List Char) :
    Text.squeeze (word ++ rest) = word ++ Text.squeeze rest := by
  induction word with
  | nil => rfl
  | cons c word ih =>
    obtain ⟨hc, hword⟩ := List.forall_mem_cons.1 h
    rw [List.cons_append, squeeze_cons_of_not_isBlank hc, ih hword, List.cons_append]

/-- Writing every run of blanks as one space leaves the tokens. -/
lemma Laid.squeeze {tokens : List Token} {cs : List Char}
    (h : Laid (fun c => Text.isBlank c = true) Spelling tokens cs) :
    Laid (fun c => c = ' ') Spelling tokens (Text.squeeze cs) := by
  induction h with
  | nil => exact .nil
  | @blank c tokens rest hc _ ih =>
    rcases squeeze_cons_of_isBlank hc rest with heq | heq <;> rw [heq]
    · exact ih
    · exact .blank rfl ih
  | token hword _ ih =>
    rw [squeeze_append hword.not_isBlank]
    exact .token hword ih

/-- A space is blank. -/
lemma isBlank_of_eq_space : ∀ c, c = ' ' → Text.isBlank c = true := by
  rintro _ rfl
  rfl

/-! Doubled signs and exclamation marks -/

/-- Halving passes over a text without the operator. -/
lemma halve_append {op : Char} {word : List Char} (h : op ∉ word) (rest : List Char) :
    halve op (word ++ rest) = word ++ halve op rest := by
  induction word with
  | nil => rfl
  | cons c word ih =>
    obtain ⟨hc, hword⟩ := List.ne_and_not_mem_of_not_mem_cons h
    rw [List.cons_append, List.cons_append, ← ih hword]
    cases word ++ rest with
    | nil => rfl
    | cons d rest => rw [halve, if_neg fun h => hc h.1.symm]

/-- An operator that stands alone is kept. -/
lemma halve_cons_of_ne_head {op : Char} {rest : List Char} (h : op ∉ rest.head?) :
    halve op (op :: rest) = op :: halve op rest := by
  cases rest with
  | nil => rfl
  | cons d rest => rw [halve, if_neg fun hd => h (by rw [hd.2]; rfl)]

/-- Writing doubled signs once leaves the tokens. -/
lemma Laid.halve {tokens : List Token} {cs : List Char} {op : Char} (hop : op = '&' ∨ op = '|')
    (h : Laid (fun c => c = ' ') Spelling tokens cs) (hmeets : tokens.IsChain Token.Meets) :
    Laid (fun c => c = ' ') Spelling tokens (halve op cs) := by
  have hne : op ∉ [' '] := by rcases hop with rfl | rfl <;> decide
  refine h.pass rfl ?_ ?_ hmeets
  · rintro _ rest rfl
    exact halve_append hne rest
  · intro t word tokens rest hword hrest hmeets
    rcases hword.doubled hop with hnot | ⟨hconnective, hcopies, hsingle⟩
    · exact ⟨word, hword, halve_append hnot rest⟩
    · refine ⟨[op], hsingle, ?_⟩
      rcases hcopies with rfl | rfl
      · exact halve_cons_of_ne_head (hrest.ne_head hop isBlank_of_eq_space hmeets hconnective)
      · rw [List.cons_append, List.singleton_append, Formula.halve, if_pos ⟨rfl, rfl⟩]
        rfl

/-- An exclamation mark as a tilde. -/
def tilde (c : Char) : Char := if c = '!' then '~' else c

/-- A spelling with tildes for exclamation marks is a spelling of the same token. -/
lemma Spelling.map_tilde {t : Token} {word : List Char} (h : Spelling t word) : Spelling t (word.map tilde) := by
  by_cases ht : t.IsWord
  · have hsame : word.map tilde = word := by
      refine List.map_congr_left (fun c hc => ?_) |>.trans (List.map_id _)
      have hword := h.isWord_of_mem ht c hc
      exact if_neg fun heq => by rw [heq] at hword; cases hword
    rwa [hsame]
  · have hmem := h.mem_spellings ht
    unfold Token.spellings at hmem
    split at hmem
    case h_9 => cases hmem
    all_goals
      simp only [List.mem_cons, List.not_mem_nil, or_false] at hmem
      rcases hmem with rfl | rfl | rfl
    all_goals exact .sign (by decide)

/-- Tokens stay laid out with tildes for exclamation marks. -/
lemma Laid.map_tilde {tokens : List Token} {cs : List Char} (h : Laid (fun c => c = ' ') Spelling tokens cs)
    (hmeets : tokens.IsChain Token.Meets) : Laid (fun c => c = ' ') Spelling tokens (cs.map tilde) := by
  refine h.pass rfl ?_ ?_ hmeets
  · rintro _ rest rfl
    rfl
  · intro t word tokens rest hword _ _
    exact ⟨word.map tilde, hword.map_tilde, List.map_append⟩

/-! Truth values in capitals -/

/-- The spellings in a normal text: truth values are in capitals. -/
def NormalSpelling (t : Token) (word : List Char) : Prop :=
  Spelling t word ∧ ∀ b, t = .truth b → word = (truthWord b).map Char.toUpper

/-- Changing words goes on to the first character that belongs to none. -/
lemma mapWords_eq {f : List Char → List Char} (hf : f [] = []) (word cs : List Char) :
    mapWords f word cs = f (word.reverse ++ cs.takeWhile isWord) ++ mapWords f [] (cs.dropWhile isWord) := by
  induction cs generalizing word with
  | nil => simp [mapWords, hf]
  | cons c rest ih =>
    by_cases hc : isWord c = true
    · simp [mapWords, hc, ih (c :: word)]
    · simp [mapWords, hc, hf]

/-- The characters of words at the beginning of a text that goes on with another one. -/
lemma takeWhile_isWord {word rest : List Char} (hword : ∀ c ∈ word, isWord c = true)
    (hrest : ∀ c ∈ rest.head?, isWord c = false) : (word ++ rest).takeWhile isWord = word := by
  rw [List.takeWhile_append_of_pos hword]
  cases rest with
  | nil => exact List.append_nil _
  | cons c rest => rw [List.takeWhile_cons_of_neg (by simp [hrest c rfl]), List.append_nil]

/-- Dropping a word leaves what follows it. -/
lemma dropWhile_isWord {word rest : List Char} (hword : ∀ c ∈ word, isWord c = true)
    (hrest : ∀ c ∈ rest.head?, isWord c = false) : (word ++ rest).dropWhile isWord = rest := by
  rw [List.dropWhile_append_of_pos hword]
  cases rest with
  | nil => rfl
  | cons c rest => rw [List.dropWhile_cons_of_neg (by simp [hrest c rfl])]

/-- Changing words passes over a text without them. -/
lemma mapWords_append_of_not_isWord {f : List Char → List Char} (hf : f [] = []) {word : List Char}
    (h : ∀ c ∈ word, isWord c = false) (rest : List Char) :
    mapWords f [] (word ++ rest) = word ++ mapWords f [] rest := by
  induction word with
  | nil => rfl
  | cons c word ih =>
    obtain ⟨hc, hword⟩ := List.forall_mem_cons.1 h
    simp [mapWords, hc, hf, ih hword]

/-- A truth value in any case, put into capitals, and any other word as it is. -/
lemma NormalSpelling.of_isWord {t : Token} {word : List Char} (h : Spelling t word) (ht : t.IsWord) :
    NormalSpelling t (capitalize word) := by
  cases h with
  | @name word h =>
    have hsame : capitalize word = word := if_neg (not_or.2 ⟨h.not_truth true, h.not_truth false⟩)
    rw [hsame]
    exact ⟨.name h, fun b hb => by cases hb⟩
  | @truth b word h =>
    have hupper : capitalize word = (truthWord b).map Char.toUpper := by
      rw [capitalize, if_pos (by cases b; exacts [.inr h, .inl h]), ← h, List.map_map]
      exact List.map_congr_left fun c _ => c.toUpper_toLower_eq_toUpper.symm
    rw [hupper]
    refine ⟨.truth (by cases b <;> decide), fun b' hb => ?_⟩
    cases hb
    rfl
  | sign h => exact absurd ht (of_mem_spellings h).2.1

/-- Putting truth values into capitals leaves the tokens. -/
lemma Laid.mapWords {tokens : List Token} {cs : List Char} (h : Laid (fun c => c = ' ') Spelling tokens cs)
    (hmeets : tokens.IsChain Token.Meets) :
    Laid (fun c => c = ' ') NormalSpelling tokens (mapWords capitalize [] cs) := by
  have hnil : capitalize [] = [] := rfl
  refine h.pass rfl ?_ ?_ hmeets
  · rintro _ rest rfl
    rfl
  · intro t word tokens rest hword hrest hmeets
    by_cases ht : t.IsWord
    · refine ⟨capitalize word, .of_isWord hword ht, ?_⟩
      have hletters := hword.isWord_of_mem ht
      have hend := hrest.not_isWord_head isBlank_of_eq_space hmeets ht
      rw [mapWords_eq hnil [], takeWhile_isWord hletters hend, dropWhile_isWord hletters hend]
      rfl
    · refine ⟨word, ⟨hword, ?_⟩, ?_⟩
      · rintro b rfl
        exact absurd trivial ht
      · exact mapWords_append_of_not_isWord hnil (fun c hc => (hword.isSign ht c hc).not_word) rest

/-- The normal text is a text of the same tokens. -/
lemma Laid.respell {tokens : List Token} {cs : List Char}
    (h : Laid (fun c => Text.isBlank c = true) Spelling tokens cs) (hmeets : tokens.IsChain Token.Meets) :
    Laid (fun c => c = ' ') NormalSpelling tokens (respell cs) :=
  (((h.squeeze.halve (.inl rfl) hmeets).halve (.inr rfl) hmeets).map_tilde hmeets).mapWords hmeets

end Formula

end ProductLine
