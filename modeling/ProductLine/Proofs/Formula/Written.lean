import ProductLine.Proofs.Diagram.Pointwise
import ProductLine.Proofs.FeatureSpace
import ProductLine.Proofs.Formula.Spelling

/-!
# Formulas that are encoded

The scanner finds the tokens of a normal text (`Laid.scan`), the names among its words are those among its
tokens (`Laid.namesOf_words`), and its parentheses are balanced. So a text that writes a formula, in whatever
spelling, is read as that formula (`parse_of_writtenAs`), and its diagram is one exactly where the formula holds
(`encode_of_writtenAs`).
-/

namespace ProductLine

namespace Formula

/-! Scanning -/

open Token (scan)

/-- A space is passed over. -/
lemma scan_space (rest : List Char) : scan (' ' :: rest) = scan rest := by
  rw [scan, if_pos rfl]

/-- A word is scanned as far as its characters go. -/
lemma scan_word {word rest : List Char} {c : Char} (hc : Token.isNameStart c = true)
    (hword : ∀ d ∈ word, isWord d = true) (hrest : ∀ d ∈ rest.head?, isWord d = false) :
    scan (c :: word ++ rest) = (Token.ofWord (c :: word) :: (scan rest).1, (scan rest).2) := by
  have hspace : c ≠ ' ' := by
    rintro rfl
    cases hc
  rw [List.cons_append, scan, if_neg hspace, if_pos hc, takeWhile_isWord hword hrest, dropWhile_isWord hword hrest]

/-- A sign is scanned as the longest one that stands there. -/
lemma scan_sign {c : Char} {word rest : List Char} {t : Token} (hc : IsSign c)
    (hsign : Token.sign? c (word ++ rest) = some (t, word.length)) :
    scan (c :: word ++ rest) = (t :: (scan rest).1, (scan rest).2) := by
  rw [List.cons_append, scan, if_neg hc.not_space, if_neg (by simp [hc.not_start]), if_neg (by simp [hc.not_digit]),
    hsign]
  simp only [List.drop_left]

/-- A connective that can be doubled is found by itself, if it is not doubled. -/
lemma sign_of_not_doubled {rest : List Char} :
    ('&' ∉ rest.head? → Token.sign? '&' rest = some (.connective .and, 0)) ∧
      ('|' ∉ rest.head? → Token.sign? '|' rest = some (.connective .or, 0)) := by
  cases rest with
  | nil => exact ⟨fun _ => rfl, fun _ => rfl⟩
  | cons d rest =>
    constructor
    · intro h
      have hd : d ≠ '&' := fun hd => h (by rw [hd]; rfl)
      simp [Token.sign?, hd]
    · intro h
      have hd : d ≠ '|' := fun hd => h (by rw [hd]; rfl)
      simp [Token.sign?, hd]

/-- A sign is found in each of its spellings, if nothing behind it doubles it. -/
lemma sign_of_mem_spellings {t : Token} {c : Char} {word rest : List Char} (h : c :: word ∈ t.spellings)
    (hrest : t.IsConnective → '&' ∉ rest.head? ∧ '|' ∉ rest.head?) :
    Token.sign? c (word ++ rest) = some (t, word.length) := by
  unfold Token.spellings at h
  split at h
  all_goals simp only [List.mem_cons, List.cons.injEq, List.not_mem_nil, or_false] at h
  case h_4 =>
    rcases h with ⟨rfl, rfl⟩ | ⟨rfl, rfl⟩ | ⟨rfl, rfl⟩
    · exact sign_of_not_doubled.2 (hrest trivial).2
    all_goals rfl
  case h_5 =>
    rcases h with ⟨rfl, rfl⟩ | ⟨rfl, rfl⟩ | ⟨rfl, rfl⟩
    · exact sign_of_not_doubled.1 (hrest trivial).1
    all_goals rfl
  case h_6 =>
    rcases h with ⟨rfl, rfl⟩ | ⟨rfl, rfl⟩
    all_goals simp [Token.sign?]
  all_goals
    obtain ⟨rfl, rfl⟩ := h
    simp [Token.sign?]

/-- A word in its normal spelling is read as its token. -/
lemma ofWord_of_normalSpelling {t : Token} {word : List Char} (h : NormalSpelling t word) (ht : t.IsWord) :
    Token.ofWord word = t := by
  obtain ⟨hspelling, hcapital⟩ := h
  cases hspelling with
  | name h =>
    have hfree (b : Bool) : word ≠ (truthWord b).map Char.toUpper := by
      rintro rfl
      exact h.not_truth b (by cases b <;> decide)
    have htrue : word ≠ ['T', 'R', 'U', 'E'] := hfree true
    have hfalse : word ≠ ['F', 'A', 'L', 'S', 'E'] := hfree false
    rw [Token.ofWord, if_neg h.not_choice, if_neg htrue, if_neg hfalse]
  | @truth b _ h =>
    rw [hcapital b rfl]
    cases b <;> decide
  | sign h => exact absurd ht (of_mem_spellings h).2.1

/-- The scanner finds the tokens of a normal text. -/
lemma Laid.scan {tokens : List Token} {cs : List Char} (h : Laid (fun c => c = ' ') NormalSpelling tokens cs)
    (hmeets : tokens.IsChain Token.Meets) : scan cs = (tokens, none) := by
  induction h with
  | nil => rw [Token.scan]
  | blank hc _ ih =>
    rw [hc, scan_space, ih hmeets]
  | @token t word tokens rest hword hrest ih =>
    have hlaid := hrest.mono fun _ _ h => h.1
    have hscan := ih hmeets.tail
    by_cases ht : t.IsWord
    · obtain ⟨c, letters, rfl, hc, hletters⟩ := hword.1.of_isWord ht
      rw [scan_word hc hletters (hlaid.not_isWord_head isBlank_of_eq_space hmeets ht), hscan,
        ofWord_of_normalSpelling hword ht]
    · obtain ⟨c, more, rfl⟩ := List.exists_cons_of_ne_nil hword.1.ne_nil
      have hsign : Token.sign? c (more ++ rest) = some (t, more.length) := by
        refine sign_of_mem_spellings (hword.1.mem_spellings ht) fun hconnective => ⟨?_, ?_⟩
        · exact hlaid.ne_head (.inl rfl) isBlank_of_eq_space hmeets hconnective
        · exact hlaid.ne_head (.inr rfl) isBlank_of_eq_space hmeets hconnective
      rw [scan_sign (hword.1.isSign ht c List.mem_cons_self) hsign, hscan]

/-! Names -/

/-- A text without words adds none. -/
lemma words_append_of_not_isWord {word : List Char} (h : ∀ c ∈ word, isWord c = false) (rest : List Char) :
    words [] (word ++ rest) = words [] rest := by
  induction word with
  | nil => rfl
  | cons c word ih =>
    obtain ⟨hc, hword⟩ := List.forall_mem_cons.1 h
    rw [List.cons_append, words_cons_of_not_isWord hc, ih hword]

/-- The names among words, digits before them left out. -/
def namesOf (words : List (List Char)) : List String :=
  (words.map fun w => String.ofList (w.dropWhile Char.isDigit)).filter fun w => w ≠ "" ∧ !reserved.contains w

/-- The name of a feature is among the names of words. -/
lemma IsFeatureName.namesOf_cons {word : List Char} (h : IsFeatureName word) (words : List (List Char)) :
    namesOf (word :: words) = String.ofList word :: namesOf words := by
  obtain ⟨c, rest, rfl, hc, -⟩ := h.identifier
  have hdigits : (c :: rest).dropWhile Char.isDigit = c :: rest :=
    List.dropWhile_cons_of_neg (by simp [not_isDigit_of_isNameStart hc])
  have hne : String.ofList (c :: rest) ≠ "" := fun h => by simpa using congrArg String.toList h
  have hreserved : String.ofList (c :: rest) ∉ reserved := by
    have hfree {other : List Char} (hother : c :: rest ≠ other) : String.ofList (c :: rest) ≠ String.ofList other :=
      fun heq => hother (String.ofList_injective heq)
    have hcapital (b : Bool) : c :: rest ≠ (truthWord b).map Char.toUpper := by
      intro heq
      exact h.not_truth b (by rw [heq]; cases b <;> decide)
    simp only [reserved, List.mem_cons, List.not_mem_nil, or_false, not_or]
    exact ⟨hfree h.not_choice, hfree (hcapital true), hfree (hcapital false)⟩
  rw [namesOf, List.map_cons, hdigits, List.filter_cons_of_pos (by simpa [hne] using hreserved)]
  rfl

/-- The word of a truth value is no name. -/
lemma namesOf_truth (b : Bool) (words : List (List Char)) :
    namesOf ((truthWord b).map Char.toUpper :: words) = namesOf words := by
  rw [namesOf, List.map_cons, List.filter_cons_of_neg (by cases b <;> decide)]
  rfl

/-- A word in its normal spelling adds the name of its token, if it has one. -/
lemma namesOf_cons {t : Token} {word : List Char} (h : NormalSpelling t word) (ht : t.IsWord)
    (words : List (List Char)) : namesOf (word :: words) = t.name?.toList ++ namesOf words := by
  obtain ⟨hspelling, hcapital⟩ := h
  cases hspelling with
  | name h => exact h.namesOf_cons words
  | @truth b _ h =>
    rw [hcapital b rfl]
    exact namesOf_truth b words
  | sign h => exact absurd ht (of_mem_spellings h).2.1

/-- The names among the words of a normal text are those among its tokens. -/
lemma Laid.namesOf_words {tokens : List Token} {cs : List Char}
    (h : Laid (fun c => c = ' ') NormalSpelling tokens cs) (hmeets : tokens.IsChain Token.Meets) :
    namesOf (words [] cs) = tokens.filterMap Token.name? := by
  induction h with
  | nil => rfl
  | @blank c tokens rest hc _ ih =>
    rw [hc, words_cons_of_not_isWord (by decide), ih hmeets]
  | @token t word tokens rest hword hrest ih =>
    have hnames := ih hmeets.tail
    by_cases ht : t.IsWord
    · obtain ⟨c, letters, rfl, hc, hletters⟩ := hword.1.of_isWord ht
      have hend := (hrest.mono fun _ _ h => h.1).not_isWord_head isBlank_of_eq_space hmeets ht
      rw [List.cons_append, words_cons_of_isWord (isWord_of_isNameStart hc), takeWhile_isWord hletters hend,
        dropWhile_isWord hletters hend, namesOf_cons hword ht, hnames]
      cases t <;> rfl
    · rw [words_append_of_not_isWord (fun c hc => (hword.1.isSign ht c hc).not_word), hnames]
      cases t with
      | name => exact absurd trivial ht
      | _ => rfl

/-- Leaving out what stood earlier keeps the first of all copies. -/
lemma distinct_eq_eraseDups (seen names : List String) :
    distinct seen names = (names.filter (· ∉ seen)).eraseDups := by
  induction names generalizing seen with
  | nil => rfl
  | cons n names ih =>
    rw [distinct]
    by_cases hn : n ∈ seen
    · rw [if_pos (by simpa using hn), ih, List.filter_cons_of_neg (by simpa using hn)]
    · rw [if_neg (by simpa using hn), ih, List.filter_cons_of_pos (by simpa using hn), List.eraseDups_cons,
        List.filter_filter]
      refine congrArg (fun l => n :: l.eraseDups) (List.filter_congr fun m _ => ?_)
      by_cases hm : m = n <;> simp [hm]

/-! Parentheses -/

/-- The parentheses that a token is. -/
def Token.parentheses : Token → List Char
  | .opening => ['(']
  | .closing => [')']
  | _ => []

/-- A text without parentheses does not matter for balance. -/
lemma balanced_append {word : List Char} (h : ∀ c ∈ word, c ≠ '(' ∧ c ≠ ')') (depth : Nat) (rest : List Char) :
    balanced depth (word ++ rest) = balanced depth rest := by
  induction word with
  | nil => rfl
  | cons c word ih =>
    obtain ⟨⟨hopening, hclosing⟩, hword⟩ := List.forall_mem_cons.1 h
    rw [List.cons_append, balanced.eq_def]
    simp only [hopening, hclosing, if_false, ih hword]

/-- Texts that are balanced alike at every depth are so behind the same characters. -/
lemma balanced_congr (front : List Char) {cs ds : List Char} (h : ∀ depth, balanced depth cs = balanced depth ds)
    (depth : Nat) : balanced depth (front ++ cs) = balanced depth (front ++ ds) := by
  induction front generalizing depth with
  | nil => exact h depth
  | cons c front ih =>
    rw [List.cons_append, List.cons_append, balanced.eq_def, balanced.eq_def depth (c :: (front ++ ds))]
    simp only [ih]

/-- The spelling of a token is its parenthesis, or there is none in it. -/
lemma Spelling.parentheses {t : Token} {word : List Char} (h : Spelling t word) :
    word = t.parentheses ∨ t.parentheses = [] ∧ ∀ c ∈ word, c ≠ '(' ∧ c ≠ ')' := by
  by_cases ht : t.IsWord
  · refine .inr ⟨by cases t <;> first | rfl | exact ht.elim, fun c hc => ?_⟩
    have hword := h.isWord_of_mem ht c hc
    constructor <;> rintro rfl <;> cases hword
  · have hmem := h.mem_spellings ht
    unfold Token.spellings at hmem
    split at hmem
    case h_9 => cases hmem
    all_goals
      simp only [List.mem_cons, List.not_mem_nil, or_false] at hmem
      rcases hmem with rfl | rfl | rfl
    all_goals first
      | exact .inl rfl
      | exact .inr ⟨rfl, by simp⟩

/-- Whether a text is balanced is seen from the parentheses among its tokens. -/
lemma Laid.balanced {tokens : List Token} {cs : List Char}
    (h : Laid (fun c => Text.isBlank c = true) Spelling tokens cs) (depth : Nat) :
    balanced depth cs = Formula.balanced depth (tokens.flatMap Token.parentheses) := by
  induction h generalizing depth with
  | nil => rfl
  | @blank c tokens rest hc _ ih =>
    have hne : ∀ d ∈ [c], d ≠ '(' ∧ d ≠ ')' := by
      intro d hd
      rw [List.mem_singleton.1 hd]
      constructor <;> rintro rfl <;> cases hc
    exact (balanced_append hne depth rest).trans (ih depth)
  | @token t word tokens rest hword _ ih =>
    rw [List.flatMap_cons]
    rcases hword.parentheses with rfl | ⟨hnone, hne⟩
    · exact balanced_congr t.parentheses ih depth
    · rw [hnone, balanced_append hne, ih depth]
      rfl

/-- A written formula closes what it opens. -/
lemma balanced_of_writes {operand : Bool} {f : Formula} {tokens : List Token} (h : Writes operand f tokens)
    (depth : Nat) (rest : List Char) :
    balanced depth (tokens.flatMap Token.parentheses ++ rest) = balanced depth rest := by
  induction h generalizing depth rest with
  | feature => rfl
  | truth => rfl
  | not _ ih => exact ih depth rest
  | binary _ _ _ ihf ihg =>
    rw [List.flatMap_append, List.append_assoc, ihf]
    exact ihg depth rest
  | group _ ih =>
    rw [List.flatMap_cons, List.flatMap_append, List.append_assoc, List.append_assoc]
    exact ih (depth + 1) (')' :: rest)

/-! Written formulas -/

variable {f : Formula} {tokens : List Token} {text : String}

/-- Tokens laid out are not the empty text. -/
lemma Laid.ne_nil {blank : Char → Prop} {t : Token} {cs : List Char} (h : Laid blank Spelling (t :: tokens) cs) :
    cs ≠ [] := by
  generalize hts : t :: tokens = ts at h
  cases h with
  | nil => cases hts
  | blank => exact List.cons_ne_nil _ _
  | token hword => exact fun hnil => hword.ne_nil (List.append_eq_nil_iff.1 hnil).1

/-- The characters of tokens laid out may stand in a formula. -/
lemma Laid.isAllowed {cs : List Char} (h : Laid (fun c => Text.isBlank c = true) Spelling tokens cs) :
    ∀ c ∈ cs, isAllowed c = true := by
  induction h with
  | nil => exact List.forall_mem_nil _
  | blank hc _ ih => exact List.forall_mem_cons.2 ⟨isAllowed_of_isBlank hc, ih⟩
  | token hword _ ih => exact List.forall_mem_append.2 ⟨hword.isAllowed_of_mem, ih⟩

/-- A text of the tokens of a formula has a normal form, which is a text of the same tokens. -/
lemma normalize_of_laid (hwrites : Writes false f tokens)
    (hlaid : Laid (fun c => Text.isBlank c = true) Spelling tokens text.toList) :
    ∃ cs, normalize text = .ok (String.ofList cs) ∧ Laid (fun c => c = ' ') NormalSpelling tokens cs := by
  have hmeets := (wellspaced_of_writes hwrites).meets
  have htrim := hlaid.trim
  have hne : Text.trim text.toList ≠ [] := by
    obtain ⟨t, rest, rfl, -⟩ := (wellspaced_of_writes hwrites).begins
    exact htrim.ne_nil
  have hallowed : (Text.trim text.toList).find? (!isAllowed ·) = none := by
    refine List.find?_eq_none.2 fun c hc => ?_
    simp [htrim.isAllowed c hc]
  have hbalanced : balanced 0 (Text.trim text.toList) = true := by
    rw [htrim.balanced, ← List.append_nil (tokens.flatMap _), balanced_of_writes hwrites]
    rfl
  refine ⟨respell (Text.trim text.toList), ?_, htrim.respell hmeets⟩
  rw [normalize]
  simp only [hne, hallowed, hbalanced, if_true, if_false]

/-- A written formula is read from its normal text, in which its names are found in order of first
appearance. -/
theorem parse_of_writtenAs (h : f.WrittenAs text) :
    ∃ normal, normalize text = .ok normal ∧ parse normal = .ok f ∧ features normal = f.names.eraseDups := by
  obtain ⟨tokens, hwrites, hlaid⟩ := h
  obtain ⟨cs, hnormal, hcs⟩ := normalize_of_laid hwrites hlaid
  have hmeets := (wellspaced_of_writes hwrites).meets
  refine ⟨String.ofList cs, hnormal, ?_, ?_⟩
  · rw [parse, String.toList_ofList, hcs.scan hmeets]
    exact read_of_writes hwrites
  · have hnames : features (String.ofList cs) = distinct [] (namesOf (words [] cs)) := by
      rw [features, String.toList_ofList]
      rfl
    rw [hnames, hcs.namesOf_words hmeets, names_of_writes hwrites, distinct_eq_eraseDups]
    simp

end Formula

namespace FeatureSpace

/-- A text that writes a formula is encoded, whatever is declared already, as the diagram that is one at the
products for which the formula holds and zero at the others, then and after further declarations; and the
features found in its normal form are those of the formula, in order of first appearance. -/
theorem encode_of_writtenAs {f : Formula} {text : String} (h : f.WrittenAs text) (space : FeatureSpace) :
    ∃ r after, space.encode text = (.ok r, after) ∧
      (Diagram.ofRegion space.owner r).isBoolean = true ∧
      (∀ later, after.Extends later → ∀ x,
        (Diagram.ofRegion space.owner r).evaluate later x = if f.holds x then .one else .zero) ∧
      ∃ normal, Formula.normalize text = .ok normal ∧ Formula.features normal = f.names.eraseDups := by
  obtain ⟨normal, hnormal, hparse, hfeatures⟩ := Formula.parse_of_writtenAs h
  have htext : Formula.ofText text = .ok f := by simp only [Formula.ofText, hnormal, hparse]
  obtain ⟨r, after, hencode⟩ := exists_encode htext space
  obtain ⟨g, hg, hholds⟩ := encode_holds hencode
  obtain rfl : f = g := Except.ok.inj (htext.symm.trans hg)
  refine ⟨r, after, hencode, ?_, ?_, normal, hnormal, hfeatures⟩
  · rw [Diagram.isBoolean, Diagram.ofRegion]
    split <;> simp
  · intro later hlater x
    rw [Diagram.evaluate, Diagram.valueAt_ofRegion, hholds later hlater]

/-- A text with a doubled sign, an exclamation mark, a truth value in mixed case and two kinds of blanks. -/
theorem encode_mixed_spellings :
    (Formula.binary .iff (.binary .and (.feature "a") (.not (.feature "b"))) (.truth true)).WrittenAs
        " (a && !b)\t<->tRuE" ∧
      ∃ r after, FeatureSpace.encode ⟨⟨0, none⟩, ["c"]⟩ " (a && !b)\t<->tRuE" = (.ok r, after) ∧
        (∀ x, (Diagram.ofRegion ⟨0, none⟩ r).evaluate after x = if x "a" && !x "b" then .one else .zero) ∧
        ∃ normal, Formula.normalize " (a && !b)\t<->tRuE" = .ok normal ∧ Formula.features normal = ["a", "b"] := by
  have ha : Formula.IsFeatureName ['a'] :=
    ⟨⟨'a', [], rfl, rfl, nofun⟩, by decide, fun t => by cases t <;> simp [Formula.truthWord]⟩
  have hb : Formula.IsFeatureName ['b'] :=
    ⟨⟨'b', [], rfl, rfl, nofun⟩, by decide, fun t => by cases t <;> simp [Formula.truthWord]⟩
  have htext : " (a && !b)\t<->tRuE".toList =
      ' ' :: (['('] ++ (['a'] ++ ' ' :: (['&', '&'] ++ ' ' :: (['!'] ++ (['b'] ++ ([')'] ++ '\t' ::
        (['<', '-', '>'] ++ (['t', 'R', 'u', 'E'] ++ []))))))))  := rfl
  have hwritten : (Formula.binary .iff (.binary .and (.feature "a") (.not (.feature "b"))) (.truth true)).WrittenAs
      " (a && !b)\t<->tRuE" := by
    refine ⟨_, .binary (by decide) (.group (.binary (by decide) .feature (.not .feature))) .truth, ?_⟩
    rw [htext]
    exact .blank rfl
      (.token (.sign (by decide)) (.token (.name ha) (.blank rfl (.token (.sign (by decide)) (.blank rfl
      (.token (.sign (by decide)) (.token (.name hb) (.token (.sign (by decide)) (.blank rfl
        (.token (.sign (by decide)) (.token (.truth (by decide)) .nil)))))))))))
  obtain ⟨r, after, hencode, -, hvalue, hnormal⟩ := encode_of_writtenAs hwritten ⟨⟨0, none⟩, ["c"]⟩
  refine ⟨hwritten, r, after, hencode, fun x => ?_, hnormal⟩
  refine (hvalue after (.refl after) x).trans (if_congr ?_ rfl rfl)
  simp [Formula.holds, Connective.apply]

end FeatureSpace

end ProductLine
