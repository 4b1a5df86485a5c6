import Mathlib.Tactic.Common
import ProductLine.Formula.Parser

/-!
# Names of formulas

A formula that was read names only features of its text (`mem_features_of_parse`). Names and the features of
a text are found in different ways, by tokens and by words: the two could differ at numbers and quantifiers,
but a text with one of these is no formula (`plain_of_read`).
-/

namespace ProductLine

namespace Formula

/-- What holds at a product is decided by the features named. -/
lemma holds_congr {f : Formula} {x y : String → Bool} (h : ∀ n ∈ f.names, x n = y n) : f.holds x = f.holds y := by
  induction f with
  | feature name => exact h name (by simp [names])
  | truth b => rfl
  | not f ih => simp only [holds, ih h]
  | binary c f g ihf ihg =>
    simp only [names, List.mem_append] at h
    simp only [holds, ihf fun n hn => h n (.inl hn), ihg fun n hn => h n (.inr hn)]
  | choice c f g ihc ihf ihg =>
    simp only [names, List.mem_append] at h
    simp only [holds, ihc fun n hn => h n (.inl (.inl hn)), ihf fun n hn => h n (.inl (.inr hn)),
      ihg fun n hn => h n (.inr hn)]

/-- Dropping repetitions leaves the names that were not seen before. -/
lemma mem_distinct {seen names : List String} {n : String} : n ∈ distinct seen names ↔ n ∈ names ∧ n ∉ seen := by
  induction names generalizing seen with
  | nil => simp [distinct]
  | cons m names ih =>
    rw [distinct]
    split
    · rename_i hm
      rw [ih, List.mem_cons]
      constructor
      · rintro ⟨hn, hseen⟩
        exact ⟨.inr hn, hseen⟩
      · rintro ⟨rfl | hn, hseen⟩
        · exact absurd (by simpa using hm) hseen
        · exact ⟨hn, hseen⟩
    · rename_i hm
      rw [List.mem_cons, ih, List.mem_cons, List.mem_cons]
      by_cases hnm : n = m
      · subst hnm
        simpa using hm
      · simp [hnm]

/-! Tokens of formulas that are read -/

/-- Whether a token can stand in a formula that is read. -/
def Token.Plain : Token → Prop
  | .number _ => False
  | .forAll => False
  | .forSome => False
  | .rename => False
  | _ => True

/-- Whether the names of a quantifier or a renaming are being read. -/
def Expect.Binding : Expect → Prop
  | .boundName => True
  | .boundSeparator => True
  | .renamedName => True
  | .renameSlash => True
  | .newName => True
  | .renameSeparator => True
  | _ => False

/-- Names that are bound are never followed by a formula. -/
lemma not_read_of_binding {bad : Option Char} {expect : Expect} {stack : List Frame} {tokens : List Token}
    {f : Formula} (hb : expect.Binding) : read bad expect stack tokens ≠ .ok f := by
  fun_induction read bad expect stack tokens
  case case15 ih => exact ih trivial
  case case16 ih => exact ih trivial
  case case17 ih => exact ih trivial
  case case18 ih => exact ih trivial
  case case19 ih => exact ih trivial
  case case20 ih => exact ih trivial
  all_goals first | exact hb.elim | nofun

/-- The names of what waits. -/
def Frame.names : Frame → List String
  | .group => []
  | .not => []
  | .binary _ left => left.names
  | .equation left => left.names
  | .condition => []
  | .positive c => c.names
  | .negative c f => c.names ++ f.names

/-- The names read so far. -/
def waiting (expect : Expect) (stack : List Frame) : List String :=
  (match expect with
    | .connective f => f.names
    | _ => []) ++ stack.flatMap Frame.names

/-- Completing frames adds no names. -/
lemma waiting_complete {strength : Nat} {f g : Formula} {stack rest : List Frame}
    (h : complete strength f stack = .ok (g, rest)) :
    ∀ n ∈ waiting (.connective g) rest, n ∈ waiting (.connective f) stack := by
  induction f, stack using complete.induct strength with
  | case1 f stack ih =>
    rw [complete] at h
    simpa [waiting, Frame.names, names] using ih h
  | case2 f c left stack hc ih =>
    rw [complete, if_pos hc] at h
    intro n hn
    have := ih h n hn
    simp only [waiting, Frame.names, names, List.mem_append, List.flatMap_cons] at this ⊢
    tauto
  | case3 f c left stack hc =>
    rw [complete, if_neg hc] at h
    cases h
    exact fun n hn => hn
  | case4 f left stack =>
    cases h
  | case5 f stack hnot hbinary hequation =>
    rw [complete] at h
    · cases h
      exact fun n hn => hn
    · exact hnot
    · exact hbinary
    · exact hequation

/-- Whether the tokens that are left can stand in a formula and it names only what they name or was named
before. -/
def NamedIn (expect : Expect) (stack : List Frame) (tokens : List Token) (f : Formula) : Prop :=
  (∀ t ∈ tokens, t.Plain) ∧ ∀ n ∈ f.names, n ∈ waiting expect stack ∨ .name n ∈ tokens

/-- A token that names no more than it should goes before the others. -/
lemma NamedIn.cons {expect expect' : Expect} {stack stack' : List Frame} {token : Token} {rest : List Token}
    {f : Formula} (ih : NamedIn expect' stack' rest f) (hplain : token.Plain)
    (hnames : ∀ n ∈ waiting expect' stack', n ∈ waiting expect stack ∨ token = .name n) :
    NamedIn expect stack (token :: rest) f := by
  refine ⟨?_, ?_⟩
  · intro t ht
    rcases List.mem_cons.1 ht with rfl | ht
    · exact hplain
    · exact ih.1 t ht
  · intro n hn
    rcases ih.2 n hn with hn | hn
    · exact (hnames n hn).imp_right fun htoken => by simp [htoken]
    · exact .inr (List.mem_cons_of_mem _ hn)

/-- What is read names what its tokens name. -/
lemma namedIn_of_read {bad : Option Char} {expect : Expect} {stack : List Frame} {tokens : List Token}
    {f : Formula} (h : read bad expect stack tokens = .ok f) : NamedIn expect stack tokens f := by
  fun_induction read bad expect stack tokens
  case case3 hc =>
    cases h
    exact ⟨by simp, fun n hn => .inl (waiting_complete hc n (by simpa [waiting] using hn))⟩
  -- a token that is neither a connective nor the end of an operand
  case case6 ih => exact (ih h).cons trivial (by simp [waiting, names, or_comm, eq_comm])
  case case7 ih => exact (ih h).cons trivial (by simp [waiting, names])
  case case8 ih => exact (ih h).cons trivial (by simp [waiting, Frame.names])
  case case9 ih => exact (ih h).cons trivial (by simp [waiting, Frame.names])
  case case10 ih => exact (ih h).cons trivial (by simp [waiting])
  case case14 ih => exact (ih h).cons trivial (by simp [waiting, Frame.names])
  -- what waits is completed first
  case case22 hc ih =>
    exact (ih h).cons trivial fun n hn => .inl (waiting_complete hc n (by simpa [waiting, Frame.names] using hn))
  case case24 hc ih =>
    exact (ih h).cons trivial fun n hn => .inl (waiting_complete hc n (by simpa [waiting, Frame.names] using hn))
  case case26 hc ih =>
    exact (ih h).cons trivial fun n hn => .inl (waiting_complete hc n (by simpa [waiting, Frame.names] using hn))
  case case27 hc ih =>
    refine (ih h).cons trivial fun n hn => .inl (waiting_complete hc n ?_)
    simp only [waiting, Frame.names, names, List.mem_append, List.flatMap_cons] at hn ⊢
    tauto
  case case30 hc ih =>
    exact (ih h).cons trivial fun n hn => .inl (waiting_complete hc n (by simpa [waiting, Frame.names] using hn))
  case case31 hc ih =>
    refine (ih h).cons trivial fun n hn => .inl (waiting_complete hc n ?_)
    simp only [waiting, Frame.names, List.nil_append, List.mem_append, List.flatMap_cons] at hn ⊢
    tauto
  all_goals first | cases h | exact absurd h (not_read_of_binding trivial)

/-! Words -/

/-- A word that was begun goes on to the first character that belongs to none. -/
lemma words_eq (word cs : List Char) (hword : word ≠ []) :
    words word cs = (word.reverse ++ cs.takeWhile isWord) :: words [] (cs.dropWhile isWord) := by
  induction cs generalizing word with
  | nil => simp [words, hword]
  | cons c rest ih =>
    by_cases hc : isWord c = true
    · simp [words, hc, ih (c :: word) (by simp)]
    · simp [words, hc, hword]

/-- A character of a word begins a word that goes as far as such characters do. -/
lemma words_cons_of_isWord {c : Char} {rest : List Char} (hc : isWord c = true) :
    words [] (c :: rest) = (c :: rest.takeWhile isWord) :: words [] (rest.dropWhile isWord) := by
  simp [words, hc, words_eq [c] rest]

/-- A character that is in no word is passed over. -/
lemma words_cons_of_not_isWord {c : Char} {rest : List Char} (hc : isWord c = false) :
    words [] (c :: rest) = words [] rest := by
  simp [words, hc]

/-- The words behind a sign are those of the text, if the sign begins no quantifier and no renaming. -/
lemma words_sign {c : Char} {rest : List Char} {token : Token} {more : Nat}
    (hsign : Token.sign? c rest = some (token, more)) (hplain : token.Plain) :
    words [] (c :: rest) = words [] (rest.drop more) := by
  unfold Token.sign? at hsign
  split at hsign <;> cases hsign <;> first
    | exact hplain.elim
    | simp (disch := decide) [words_cons_of_not_isWord]

/-- No sign is a name. -/
lemma sign_ne_name {c : Char} {rest : List Char} {more : Nat} {n : String} :
    Token.sign? c rest ≠ some (.name n, more) := by
  unfold Token.sign?
  split <;> nofun

/-- What begins a name stands in words. -/
lemma isWord_of_isNameStart {c : Char} (h : Token.isNameStart c = true) : isWord c = true := by
  simp only [Token.isNameStart, isWord, Char.isAlphanum, Bool.or_eq_true] at h ⊢
  tauto

/-- A name that was scanned is a word and begins like a name. -/
lemma mem_words_of_scan {cs : List Char} {n : String} (hplain : ∀ t ∈ (Token.scan cs).1, t.Plain)
    (hn : .name n ∈ (Token.scan cs).1) :
    ∃ c w, Token.isNameStart c = true ∧ c :: w ∈ words [] cs ∧ Token.ofWord (c :: w) = .name n := by
  induction cs using Token.scan.induct with
  | case1 => simp [Token.scan] at hn
  | case2 rest ih =>
    simp only [Token.scan, ↓reduceIte] at hplain hn
    rw [words_cons_of_not_isWord (by decide)]
    exact ih hplain hn
  | case3 c rest hblank hstart tokens bad _ ih =>
    have hscan : (Token.scan (c :: rest)).1 =
        Token.ofWord (c :: rest.takeWhile isWord) :: (Token.scan (rest.dropWhile isWord)).1 := by
      simp [Token.scan, hblank, hstart]
    rw [hscan] at hplain hn
    rw [words_cons_of_isWord (isWord_of_isNameStart hstart)]
    rcases List.mem_cons.1 hn with hn | hn
    · exact ⟨c, _, hstart, List.mem_cons_self, hn.symm⟩
    · obtain ⟨d, w, hd, hw, hname⟩ := ih (List.forall_mem_cons.1 hplain).2 hn
      exact ⟨d, w, hd, List.mem_cons_of_mem _ hw, hname⟩
  | case4 c rest hblank hstart hdigit tokens bad _ ih =>
    -- a number stands in no formula
    exact (hplain (.number (String.ofList (c :: rest.takeWhile Char.isDigit)))
      (by simp [Token.scan, hblank, hstart, hdigit])).elim
  | case5 c rest hblank hstart hdigit token more hsign tokens bad _ ih =>
    have hscan : (Token.scan (c :: rest)).1 = token :: (Token.scan (rest.drop more)).1 := by
      simp [Token.scan, hblank, hstart, hdigit, hsign]
    rw [hscan] at hplain hn
    rw [words_sign hsign (hplain token List.mem_cons_self)]
    rcases List.mem_cons.1 hn with rfl | hn
    · exact absurd hsign sign_ne_name
    · exact ih (List.forall_mem_cons.1 hplain).2 hn
  | case6 c rest hblank hstart hdigit hsign =>
    simp [Token.scan, hblank, hstart, hdigit, hsign] at hn

/-- What begins a name is no digit. -/
lemma not_isDigit_of_isNameStart {c : Char} (h : Token.isNameStart c = true) : c.isDigit = false := by
  have halpha : c.isAlpha = (c.isUpper || c.isLower) := rfl
  have hupper : c.isUpper = decide (c.val ≥ 'A'.val ∧ c.val ≤ 'Z'.val) := rfl
  have hlower : c.isLower = (decide (c.val ≥ 'a'.val) && decide (c.val ≤ 'z'.val)) := rfl
  simp only [Token.isNameStart, halpha, hupper, hlower, Bool.or_eq_true, Bool.and_eq_true, decide_eq_true_eq,
    beq_iff_eq, ge_iff_le, UInt32.le_iff_toNat_le, Char.reduceVal, UInt32.reduceToNat] at h
  simp only [Char.isDigit, Bool.and_eq_false_iff, decide_eq_false_iff_not, ge_iff_le, UInt32.le_iff_toNat_le,
    Char.reduceVal, UInt32.reduceToNat]
  rcases h with (h | h) | rfl
  · right
    omega
  · right
    omega
  · decide

/-- A word that a name consists of is that name, and it is not reserved. -/
lemma ofWord_eq_name {word : List Char} {n : String} (h : Token.ofWord word = .name n) :
    n = String.ofList word ∧ n ∉ reserved := by
  rw [Token.ofWord] at h
  split_ifs at h with hite htrue hfalse
  cases h
  refine ⟨rfl, ?_⟩
  simp only [reserved, List.mem_cons, List.not_mem_nil, or_false, not_or]
  refine ⟨fun h => hite ?_, fun h => htrue ?_, fun h => hfalse ?_⟩
  · rw [← String.toList_ofList (l := word), h]
    rfl
  · rw [← String.toList_ofList (l := word), h]
    rfl
  · rw [← String.toList_ofList (l := word), h]
    rfl

/-- A formula that was read names only features of its text. -/
theorem mem_features_of_parse {s : String} {f : Formula} (h : parse s = .ok f) : ∀ n ∈ f.names, n ∈ features s := by
  intro n hn
  obtain ⟨hplain, hnames⟩ := namedIn_of_read h
  have hscan : Token.name n ∈ (Token.scan s.toList).1 := by simpa [waiting] using hnames n hn
  obtain ⟨c, w, hc, hw, hname⟩ := mem_words_of_scan hplain hscan
  obtain ⟨rfl, hreserved⟩ := ofWord_eq_name hname
  rw [features, mem_distinct]
  refine ⟨List.mem_filter.2 ⟨List.mem_map.2 ⟨c :: w, hw, ?_⟩, ?_⟩, List.not_mem_nil⟩
  · rw [List.dropWhile_cons_of_neg (by simp [not_isDigit_of_isNameStart hc])]
  · have hne : String.ofList (c :: w) ≠ "" := fun h => by simpa using congrArg String.toList h
    simpa [hne] using hreserved

end Formula

end ProductLine
