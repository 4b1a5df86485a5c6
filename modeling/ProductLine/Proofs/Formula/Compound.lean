import ProductLine.Proofs.FeatureSpace
import ProductLine.Proofs.Formula.Printed

/-!
# Texts of compounds

Texts that are formulas are parts of longer ones: negated, or joined by a connective, each in parentheses,
they are the negation and the compound of their formulas (`ofText_not`, `ofText_binary`), whatever blanks and
spellings they have. A closing parenthesis belongs to no sign of more characters, so scanning and normalizing
a text up to it is scanning and normalizing that text (`scan_append`, `respell_append`), and what is read up
to it completes nothing that waits outside (`read_append`).
-/

namespace ProductLine

namespace Formula

/-! Reading up to a closing parenthesis -/

/-- What is complete by itself is complete in a group. -/
lemma complete_append {strength : Nat} {f g : Formula} {stack stack' : List Frame}
    (h : complete strength f stack = .ok (g, stack')) (outer : List Frame) :
    complete strength f (stack ++ .group :: outer) = .ok (g, stack' ++ .group :: outer) := by
  induction f, stack using complete.induct strength with
  | case1 f stack ih =>
    rw [complete] at h
    exact ih h
  | case2 f c left stack hc ih =>
    rw [complete, if_pos hc] at h
    rw [List.cons_append, complete, if_pos hc, ih h]
  | case3 f c left stack hc =>
    rw [complete, if_neg hc] at h
    cases h
    rw [List.cons_append, complete, if_neg hc]
  | case4 f left stack => cases h
  | case5 f stack hnot hbinary hequation =>
    rw [complete] at h
    · cases h
      cases stack' with
      | nil => rfl
      | cons frame stack' =>
        cases frame with
        | not => exact (hnot _ rfl).elim
        | binary => exact (hbinary _ _ _ rfl).elim
        | equation => exact (hequation _ _ rfl).elim
        | _ => rfl
    · exact hnot
    · exact hbinary
    · exact hequation

/-- What is read as a formula by itself is read as that formula in a group. -/
lemma read_append {expect : Expect} {stack : List Frame} {tokens : List Token} {f : Formula}
    (h : read none expect stack tokens = .ok f) (bad : Option Char) (outer : List Frame) (rest : List Token) :
    read bad expect (stack ++ .group :: outer) (tokens ++ .closing :: rest) =
      read bad (.connective f) outer rest := by
  fun_induction read none expect stack tokens
  case case3 hc =>
    cases h
    simp only [List.nil_append, read, complete_append hc]
  -- a token that is neither a connective nor the end of an operand
  case case6 ih => rw [List.cons_append, read, ih h]
  case case7 ih => rw [List.cons_append, read, ih h]
  case case8 ih => rw [List.cons_append, read, ← List.cons_append, ih h]
  case case9 ih => rw [List.cons_append, read, ← List.cons_append, ih h]
  case case10 ih => rw [List.cons_append, read, ih h]
  case case14 ih => rw [List.cons_append, read, ← List.cons_append, ih h]
  -- what waits is completed first
  case case22 hc ih => simpa only [List.cons_append, read, complete_append hc] using ih h
  case case24 hc ih => simpa only [List.cons_append, read, complete_append hc] using ih h
  case case26 hc ih => simpa only [List.cons_append, read, complete_append hc] using ih h
  case case27 hc ih => simpa only [List.cons_append, read, complete_append hc] using ih h
  case case30 hc ih => simpa only [List.cons_append, read, complete_append hc] using ih h
  case case31 hc ih => simpa only [List.cons_append, read, complete_append hc] using ih h
  all_goals first | cases h | exact absurd h (not_read_of_binding trivial)

/-! Scanning up to a closing parenthesis -/

section Scanning

variable {c : Char}

/-- What is taken from a text up to a character is taken whatever comes behind it. -/
lemma takeWhile_append_cons {p : Char → Bool} (hc : p c = false) (cs rest : List Char) :
    (cs ++ c :: rest).takeWhile p = cs.takeWhile p := by
  induction cs with
  | nil => exact List.takeWhile_cons_of_neg (by simp [hc])
  | cons d cs ih => rw [List.cons_append, List.takeWhile_cons, List.takeWhile_cons, ih]

/-- What is left of a text after dropping goes on with what comes behind it. -/
lemma dropWhile_append_cons {p : Char → Bool} (hc : p c = false) (cs rest : List Char) :
    (cs ++ c :: rest).dropWhile p = cs.dropWhile p ++ c :: rest := by
  induction cs with
  | nil => exact List.dropWhile_cons_of_neg (by simp [hc])
  | cons d cs ih =>
    rw [List.cons_append, List.dropWhile_cons, List.dropWhile_cons, ih]
    split <;> rfl

/-- No sign goes on with a space or a closing parenthesis. -/
lemma sign_append (hc : c = ' ' ∨ c = ')') {d : Char} {cs : List Char} {token : Token} {more : Nat}
    (h : Token.sign? d cs = some (token, more)) (rest : List Char) :
    Token.sign? d (cs ++ c :: rest) = some (token, more) ∧ more ≤ cs.length := by
  unfold Token.sign? at h
  split at h
  all_goals cases h
  all_goals first
    | exact ⟨rfl, by simp⟩
    | refine ⟨?_, Nat.zero_le _⟩
  all_goals
    rcases cs with _ | ⟨e, cs⟩
    · rcases hc with rfl | rfl <;> rfl
    · simp_all [Token.sign?]

/-- A text all of which is scanned is scanned to its end before a space or a closing parenthesis. -/
lemma scan_append (hc : c = ' ' ∨ c = ')') {cs : List Char} (h : (Token.scan cs).2 = none) (rest : List Char) :
    Token.scan (cs ++ c :: rest) =
      ((Token.scan cs).1 ++ (Token.scan (c :: rest)).1, (Token.scan (c :: rest)).2) := by
  -- words, numbers and signs end before a space or a parenthesis, so they are the same in the longer text
  have hword : isWord c = false := by rcases hc with rfl | rfl <;> decide
  have hdigit : c.isDigit = false := by rcases hc with rfl | rfl <;> decide
  induction cs using Token.scan.induct with
  | case1 => simp [Token.scan]
  | case2 cs ih =>
    rw [scan_space] at h
    rw [List.cons_append, scan_space, scan_space, ih h]
  | case3 d cs hspace hstart tokens bad heq ih =>
    have hscan (more : List Char) : Token.scan (d :: more) =
        (Token.ofWord (d :: more.takeWhile isWord) :: (Token.scan (more.dropWhile isWord)).1,
          (Token.scan (more.dropWhile isWord)).2) := by
      rw [Token.scan, if_neg hspace, if_pos hstart]
    rw [hscan] at h
    rw [List.cons_append, hscan, takeWhile_append_cons hword, dropWhile_append_cons hword, ih h, hscan cs]
    rfl
  | case4 d cs hspace hstart hnumber tokens bad heq ih =>
    have hscan (more : List Char) : Token.scan (d :: more) =
        (Token.number (String.ofList (d :: more.takeWhile Char.isDigit)) ::
          (Token.scan (more.dropWhile Char.isDigit)).1, (Token.scan (more.dropWhile Char.isDigit)).2) := by
      rw [Token.scan, if_neg hspace, if_neg hstart, if_pos hnumber]
    rw [hscan] at h
    rw [List.cons_append, hscan, takeWhile_append_cons hdigit, dropWhile_append_cons hdigit, ih h, hscan cs]
    rfl
  | case5 d cs hspace hstart hnumber token more hsign tokens bad heq ih =>
    have hscan {ds : List Char} (hds : Token.sign? d ds = some (token, more)) : Token.scan (d :: ds) =
        (token :: (Token.scan (ds.drop more)).1, (Token.scan (ds.drop more)).2) := by
      rw [Token.scan, if_neg hspace, if_neg hstart, if_neg hnumber, hds]
    obtain ⟨hlonger, hmore⟩ := sign_append hc hsign rest
    rw [hscan hsign] at h
    rw [List.cons_append, hscan hlonger, List.drop_append_of_le_length hmore, ih h, hscan hsign]
    rfl
  | case6 d cs hspace hstart hnumber hsign =>
    rw [Token.scan, if_neg hspace, if_neg hstart, if_neg hnumber, hsign] at h
    cases h

end Scanning

/-! Normalizing up to a sign -/

/-- A blank alone is squeezed to a space. -/
lemma squeeze_blank {c : Char} (hc : Text.isBlank c = true) : Text.squeeze [c] = [' '] := by
  rw [Text.squeeze.eq_def]
  simp only [hc, if_true]

/-- A blank before another one is dropped, and before anything else it is a space. -/
lemma squeeze_blank_cons {c d : Char} (hc : Text.isBlank c = true) (rest : List Char) :
    Text.squeeze (c :: d :: rest) =
      if Text.isBlank d then Text.squeeze (d :: rest) else ' ' :: Text.squeeze (d :: rest) := by
  rw [Text.squeeze.eq_def]
  simp only [hc, if_true]

/-- Blanks are squeezed on both sides of a character that is none. -/
lemma squeeze_append_cons {c : Char} (hc : Text.isBlank c = false) (cs rest : List Char) :
    Text.squeeze (cs ++ c :: rest) = Text.squeeze cs ++ c :: Text.squeeze rest := by
  induction cs with
  | nil => exact squeeze_cons_of_not_isBlank hc rest
  | cons d cs ih =>
    by_cases hd : Text.isBlank d = true
    · cases cs with
      | nil =>
        rw [List.cons_append, List.nil_append, squeeze_blank_cons hd, if_neg (by simp [hc]), squeeze_blank hd,
          squeeze_cons_of_not_isBlank hc]
        rfl
      | cons e cs =>
        rw [List.cons_append, List.cons_append, squeeze_blank_cons hd, squeeze_blank_cons hd,
          ← List.cons_append, ih]
        split <;> rfl
    · have hnot : Text.isBlank d = false := by simpa using hd
      rw [List.cons_append, squeeze_cons_of_not_isBlank hnot, squeeze_cons_of_not_isBlank hnot, ih,
        List.cons_append]

/-- Operators are halved on both sides of another character. -/
lemma halve_append_cons {op c : Char} (hc : c ≠ op) (cs rest : List Char) :
    halve op (cs ++ c :: rest) = halve op cs ++ c :: halve op rest := by
  have hmem : op ∉ [c] := by simpa using hc.symm
  fun_induction halve op cs with
  | case1 => exact halve_append hmem rest
  | case2 d =>
    have hnot : ¬ (d = op ∧ c = op) := fun h => hc h.2
    rw [List.cons_append, List.nil_append, halve, if_neg hnot]
    exact congrArg _ (halve_append hmem rest)
  | case3 d e cs h ih => rw [List.cons_append, List.cons_append, halve, if_pos h, ih, List.cons_append]
  | case4 d e cs h ih =>
    rw [List.cons_append, List.cons_append, halve, if_neg h, ← List.cons_append, ih, List.cons_append]

/-- Words are changed on both sides of a character that is in none. -/
lemma mapWords_append_cons {f : List Char → List Char} {c : Char} (hc : isWord c = false)
    (word cs rest : List Char) :
    mapWords f word (cs ++ c :: rest) = mapWords f word cs ++ c :: mapWords f [] rest := by
  induction cs generalizing word with
  | nil => simp [mapWords, hc]
  | cons d cs ih =>
    by_cases hd : isWord d = true
    · simp [mapWords, hd, ih (d :: word)]
    · simp [mapWords, hd, ih []]

/-- The normal text of a text whose runs of blanks are single spaces. -/
def respellSigns (cs : List Char) : List Char :=
  mapWords capitalize [] ((halve '|' (halve '&' cs)).map tilde)

/-- A text is respelled by squeezing its blanks and then respelling its signs. -/
lemma respell_eq (cs : List Char) : respell cs = respellSigns (Text.squeeze cs) := rfl

/-- A character that belongs to no word and is never doubled separates what is respelled. -/
lemma respellSigns_append_cons {c : Char} (hand : c ≠ '&') (hor : c ≠ '|') (hword : isWord (tilde c) = false)
    (cs rest : List Char) : respellSigns (cs ++ c :: rest) = respellSigns cs ++ tilde c :: respellSigns rest := by
  rw [respellSigns, halve_append_cons hand, halve_append_cons hor, List.map_append, List.map_cons,
    mapWords_append_cons hword]
  rfl

/-- A sign that is never doubled separates what is respelled. -/
lemma respell_append_cons {c : Char} (hblank : Text.isBlank c = false) (hand : c ≠ '&') (hor : c ≠ '|')
    (hword : isWord (tilde c) = false) (cs rest : List Char) :
    respell (cs ++ c :: rest) = respell cs ++ tilde c :: respell rest := by
  rw [respell_eq, squeeze_append_cons hblank, respellSigns_append_cons hand hor hword]
  rfl

/-! Blanks at the ends -/

/-- A blank before a text adds at most a space to its respelling. -/
lemma respell_cons_of_isBlank {c : Char} (hc : Text.isBlank c = true) (cs : List Char) :
    respell (c :: cs) = respell cs ∨ respell (c :: cs) = ' ' :: respell cs := by
  rw [respell_eq, respell_eq]
  rcases squeeze_cons_of_isBlank hc cs with h | h
  · exact .inl (by rw [h])
  · right
    rw [h]
    exact respellSigns_append_cons (by decide) (by decide) (by decide) [] _

/-- A blank behind a text adds at most a space to the squeezed one. -/
lemma squeeze_concat_of_isBlank {c : Char} (hc : Text.isBlank c = true) (cs : List Char) :
    Text.squeeze (cs ++ [c]) = Text.squeeze cs ∨ Text.squeeze (cs ++ [c]) = Text.squeeze cs ++ [' '] := by
  induction cs with
  | nil => exact .inr (squeeze_blank hc)
  | cons d cs ih =>
    by_cases hd : Text.isBlank d = true
    · cases cs with
      | nil =>
        left
        rw [List.cons_append, List.nil_append, squeeze_blank_cons hd, if_pos hc, squeeze_blank hc, squeeze_blank hd]
      | cons e cs =>
        rw [List.cons_append, List.cons_append, squeeze_blank_cons hd, squeeze_blank_cons hd]
        split
        · exact ih
        · exact ih.imp (congrArg _) (congrArg _)
    · have hnot : Text.isBlank d = false := by simpa using hd
      rw [List.cons_append, squeeze_cons_of_not_isBlank hnot, squeeze_cons_of_not_isBlank hnot]
      exact ih.imp (congrArg _) (congrArg _)

/-- A blank behind a text adds at most a space to its respelling. -/
lemma respell_concat_of_isBlank {c : Char} (hc : Text.isBlank c = true) (cs : List Char) :
    respell (cs ++ [c]) = respell cs ∨ respell (cs ++ [c]) = respell cs ++ [' '] := by
  rw [respell_eq, respell_eq]
  rcases squeeze_concat_of_isBlank hc cs with h | h
  · exact .inl (by rw [h])
  · right
    rw [h]
    exact respellSigns_append_cons (by decide) (by decide) (by decide) _ []

/-- Nothing is scanned in an empty text. -/
lemma scan_respell_nil : Token.scan (respell []) = ([], none) := by
  have hnil : respell [] = [] := rfl
  rw [hnil, Token.scan]

/-- Blanks are never parentheses. -/
lemma balanced_append_of_isBlank {blanks : List Char} (h : ∀ c ∈ blanks, Text.isBlank c = true) (depth : Nat)
    (rest : List Char) : balanced depth (blanks ++ rest) = balanced depth rest := by
  refine balanced_append (fun c hc => ?_) depth rest
  have hblank := h c hc
  constructor <;> rintro rfl <;> cases hblank

/-- What follows a balanced text is balanced as it is by itself. -/
lemma balanced_append_of_balanced {opened : Nat} {cs : List Char} (h : balanced opened cs = true) (depth : Nat)
    (rest : List Char) : balanced (opened + depth) (cs ++ rest) = balanced depth rest := by
  induction cs generalizing opened with
  | nil =>
    rw [balanced, beq_iff_eq] at h
    rw [h, Nat.zero_add, List.nil_append]
  | cons c cs ih =>
    rw [balanced.eq_def] at h
    rw [List.cons_append, balanced.eq_def]
    simp only at h ⊢
    split
    · rename_i hopening
      rw [if_pos hopening] at h
      rw [Nat.add_right_comm, ih h]
    · rename_i hopening
      rw [if_neg hopening] at h
      split
      · rename_i hclosing
        rw [if_pos hclosing] at h
        cases opened with
        | zero => cases h
        | succ opened =>
          rw [Nat.add_right_comm]
          exact ih h
      · rename_i hclosing
        rw [if_neg hclosing] at h
        exact ih h

/-- Blanks in front of a text leave its tokens. -/
lemma scan_respell_append {blanks : List Char} (h : ∀ c ∈ blanks, Text.isBlank c = true) (cs : List Char) :
    Token.scan (respell (blanks ++ cs)) = Token.scan (respell cs) := by
  induction blanks with
  | nil => rfl
  | cons c blanks ih =>
    obtain ⟨hc, hblanks⟩ := List.forall_mem_cons.1 h
    rw [← ih hblanks, List.cons_append]
    rcases respell_cons_of_isBlank hc (blanks ++ cs) with heq | heq
    · rw [heq]
    · rw [heq, scan_space]

/-- Blanks behind a text all of which is scanned leave its tokens. -/
lemma scan_respell_append_blanks {blanks : List Char} (h : ∀ c ∈ blanks, Text.isBlank c = true) {cs : List Char}
    (hcs : (Token.scan (respell cs)).2 = none) : Token.scan (respell (cs ++ blanks)) = Token.scan (respell cs) := by
  induction blanks generalizing cs with
  | nil => rw [List.append_nil]
  | cons c blanks ih =>
    obtain ⟨hc, hblanks⟩ := List.forall_mem_cons.1 h
    have hone : Token.scan (respell (cs ++ [c])) = Token.scan (respell cs) := by
      rcases respell_concat_of_isBlank hc cs with heq | heq
      · rw [heq]
      · have hnil : Token.scan [] = ([], none) := scan_respell_nil
        rw [heq, scan_append (.inl rfl) hcs, scan_space, hnil, List.append_nil, ← hcs]
    have hnone : (Token.scan (respell (cs ++ [c]))).2 = none := by rw [hone, hcs]
    rw [← hone, ← ih hblanks hnone, List.append_assoc, List.singleton_append]

/-- A text is its trimmed text with blanks before and behind it. -/
lemma exists_trim (cs : List Char) : ∃ front back, cs = front ++ (Text.trim cs ++ back) ∧
    (∀ c ∈ front, Text.isBlank c = true) ∧ ∀ c ∈ back, Text.isBlank c = true := by
  refine ⟨cs.takeWhile Text.isBlank, ((cs.dropWhile Text.isBlank).reverse.takeWhile Text.isBlank).reverse,
    ?_, ?_, ?_⟩
  · rw [Text.trim, ← List.reverse_append, List.takeWhile_append_dropWhile, List.reverse_reverse,
      List.takeWhile_append_dropWhile]
  · exact fun c => List.mem_takeWhile_imp
  · exact fun c hc => List.mem_takeWhile_imp (List.mem_reverse.1 hc)

/-! Texts that are read -/

/-- Whether characters, blanks at their ends included, are read as a formula. -/
structure Reads (cs : List Char) (f : Formula) : Prop where
  allowed : ∀ c ∈ cs, isAllowed c = true
  balanced : Formula.balanced 0 cs = true
  read : ∃ tokens, Token.scan (respell cs) = (tokens, none) ∧ Formula.read none .operand [] tokens = .ok f

/-- With a character that begins no token, nothing is read. -/
lemma not_read_of_bad {c : Char} {expect : Expect} {stack : List Frame} {tokens : List Token} {f : Formula} :
    Formula.read (some c) expect stack tokens ≠ .ok f := by
  generalize hbad : some c = bad
  fun_induction Formula.read bad expect stack tokens
  case case3 hnone _ _ => cases hbad.trans hnone
  all_goals first
    | assumption
    | rintro ⟨⟩

/-- A text has a normal form if what is left without the blanks at its ends is no empty text, consists of characters
of formulas and is balanced. -/
lemma normalize_eq_ok {s normal : String} : normalize s = .ok normal ↔
    Text.trim s.toList ≠ [] ∧ (∀ c ∈ Text.trim s.toList, isAllowed c = true) ∧
      balanced 0 (Text.trim s.toList) = true ∧ String.ofList (respell (Text.trim s.toList)) = normal := by
  have herror {e : Error} : Except.error e ≠ Except.ok normal := by rintro ⟨⟩
  rw [normalize]
  split
  · rename_i hnil
    exact iff_of_false herror fun h => h.1 hnil
  · rename_i hne
    split
    · rename_i c hc
      refine iff_of_false herror fun h => ?_
      have hillegal := List.find?_some hc
      rw [h.2.1 c (List.mem_of_find?_eq_some hc)] at hillegal
      cases hillegal
    · rename_i hnone
      have hallowed : ∀ c ∈ Text.trim s.toList, isAllowed c = true := by simpa using hnone
      split
      · rename_i hbalanced
        exact ⟨fun h => ⟨hne, hallowed, hbalanced, Except.ok.inj h⟩, fun h => congrArg _ h.2.2.2⟩
      · rename_i hbalanced
        exact iff_of_false herror fun h => hbalanced h.2.2.1

/-- A text is a formula exactly if it has a normal text and this is one. -/
lemma ofText_eq_ok {s : String} {f : Formula} :
    ofText s = .ok f ↔ ∃ normal, normalize s = .ok normal ∧ parse normal = .ok f := by
  rw [ofText]
  constructor
  · intro h
    split at h
    · cases h
    · rename_i normal hnormal
      split at h
      · cases h
      · rename_i g hparse
        obtain rfl := Except.ok.inj h
        exact ⟨normal, hnormal, hparse⟩
  · rintro ⟨normal, hnormal, hparse⟩
    simp only [hnormal, hparse]

/-- What is a formula is read as that formula with the blanks at its ends. -/
lemma reads_of_ofText {s : String} {f : Formula} (h : ofText s = .ok f) : Reads s.toList f := by
  obtain ⟨normal, hnormal, hparse⟩ := ofText_eq_ok.1 h
  obtain ⟨_, hallowed, hbalanced, rfl⟩ := normalize_eq_ok.1 hnormal
  obtain ⟨front, back, heq, hfront, hback⟩ := exists_trim s.toList
  rw [parse, String.toList_ofList] at hparse
  generalize hscan : Token.scan (respell (Text.trim s.toList)) = scanned at hparse
  obtain ⟨tokens, bad⟩ := scanned
  cases bad with
  | some c => exact absurd hparse not_read_of_bad
  | none =>
    refine ⟨?_, ?_, tokens, ?_, hparse⟩
    · rw [heq, List.forall_mem_append, List.forall_mem_append]
      exact ⟨fun c hc => isAllowed_of_isBlank (hfront c hc), hallowed,
        fun c hc => isAllowed_of_isBlank (hback c hc)⟩
    · have hnone : balanced 0 back = true := by
        rw [← List.append_nil back, balanced_append_of_isBlank hback]
        rfl
      rw [heq, balanced_append_of_isBlank hfront, balanced_append_of_balanced hbalanced 0 back, hnone]
    · rw [heq, scan_respell_append hfront, scan_respell_append_blanks hback (by rw [hscan]), hscan]

/-- A text without blanks at its ends that is read is a formula. -/
lemma Reads.ofText {cs front rest : List Char} {c d : Char} {f : Formula} (h : Reads cs f) (hfirst : cs = c :: rest)
    (hc : Text.isBlank c = false) (hlast : cs = front ++ [d]) (hd : Text.isBlank d = false) :
    ofText (String.ofList cs) = .ok f := by
  have htrim : Text.trim (String.ofList cs).toList = cs := by
    rw [String.toList_ofList, trim_eq_self hfirst hc hlast hd]
  obtain ⟨tokens, hscan, hread⟩ := h.read
  refine ofText_eq_ok.2 ⟨String.ofList (respell cs), normalize_eq_ok.2 ?_, ?_⟩
  · rw [htrim]
    exact ⟨by rw [hfirst]; exact List.cons_ne_nil c rest, h.allowed, h.balanced, rfl⟩
  · rw [parse, String.toList_ofList, hscan]
    exact hread

/-! Parentheses -/

/-- What a text in parentheses is, whatever comes behind it. -/
lemma Reads.group {cs : List Char} {f : Formula} (h : Reads cs f) : ∃ tokens : List Token,
    (∀ rest, Token.scan (respell ('(' :: (cs ++ ')' :: rest))) =
      (.opening :: (tokens ++ .closing :: (Token.scan (respell rest)).1), (Token.scan (respell rest)).2)) ∧
    ∀ stack rest, Formula.read none .operand stack (.opening :: (tokens ++ .closing :: rest)) =
      Formula.read none (.connective f) stack rest := by
  obtain ⟨tokens, hscan, hread⟩ := h.read
  refine ⟨tokens, fun rest => ?_, fun stack rest => ?_⟩
  · have hopening : respell ('(' :: (cs ++ ')' :: rest)) = '(' :: respell (cs ++ ')' :: rest) :=
      respell_append_cons (by decide) (by decide) (by decide) (by decide) [] _
    have hclosing : respell (cs ++ ')' :: rest) = respell cs ++ ')' :: respell rest :=
      respell_append_cons (by decide) (by decide) (by decide) (by decide) cs rest
    rw [hopening, hclosing, scan_opening, scan_append (.inr rfl) (by rw [hscan]), scan_closing, hscan]
  · rw [Formula.read]
    exact read_append hread none stack rest

/-- A text that reads as a formula may stand in parentheses in a formula. -/
lemma Reads.allowed_group {cs rest : List Char} {f : Formula} (h : Reads cs f)
    (hrest : ∀ c ∈ rest, isAllowed c = true) : ∀ c ∈ '(' :: (cs ++ ')' :: rest), isAllowed c = true := by
  rw [List.forall_mem_cons, List.forall_mem_append, List.forall_mem_cons]
  exact ⟨by decide, h.allowed, by decide, hrest⟩

/-- A text that reads as a formula is balanced in parentheses. -/
lemma Reads.balanced_group {cs : List Char} {f : Formula} (h : Reads cs f) (depth : Nat) (rest : List Char) :
    Formula.balanced depth ('(' :: (cs ++ ')' :: rest)) = Formula.balanced depth rest := by
  have hinner := balanced_append_of_balanced h.balanced (depth + 1) (')' :: rest)
  rw [balanced_opening, ← Nat.zero_add (depth + 1), hinner, balanced_closing]

/-- The connectives that are written as one character. -/
lemma eq_of_single {c : Connective} {op : Char} (hop : [op] ∈ (Token.connective c).spellings) :
    op = '^' ∨ op = '|' ∨ op = '&' := by
  cases c <;> simp_all [Token.spellings]

/-- What a sign of one character between two spaces is before a text in parentheses. -/
lemma scan_respell_connective {c : Connective} {op : Char} (hop : [op] ∈ (Token.connective c).spellings)
    (rest : List Char) : Token.scan (respell (' ' :: op :: ' ' :: '(' :: rest)) =
      (.connective c :: (Token.scan (respell ('(' :: rest))).1, (Token.scan (respell ('(' :: rest))).2) := by
  have hspaced : respell [' ', op, ' '] = [' ', op, ' '] := by
    rcases eq_of_single hop with rfl | rfl | rfl <;> rfl
  have hopening : respell ('(' :: rest) = '(' :: respell rest :=
    respell_append_cons (by decide) (by decide) (by decide) (by decide) [] rest
  have hrespell : respell (' ' :: op :: ' ' :: '(' :: rest) = ' ' :: op :: ' ' :: '(' :: respell rest := by
    have happend :=
      respell_append_cons (c := '(') (by decide) (by decide) (by decide) (by decide) [' ', op, ' '] rest
    rwa [hspaced] at happend
  have hsign : Token.sign? op ([] ++ ' ' :: '(' :: respell rest) = some (.connective c, [].length) :=
    sign_of_mem_spellings hop fun _ => ⟨by simp, by simp⟩
  have hmem : op ∈ signs := (of_mem_spellings hop).2.2 List.mem_cons_self
  rw [hrespell, scan_space, hopening, ← scan_space ('(' :: respell rest)]
  exact scan_sign (isSign_of_mem_signs hmem) hsign

/-- A text in parentheses is read as a negation behind the sign of one. -/
lemma Reads.not {cs : List Char} {f : Formula} (h : Reads cs f) : Reads ('!' :: '(' :: (cs ++ [')'])) (.not f) := by
  obtain ⟨tokens, hscan, hread⟩ := h.group
  have hrespell : respell ('!' :: '(' :: (cs ++ [')'])) = '~' :: respell ('(' :: (cs ++ [')'])) :=
    respell_append_cons (by decide) (by decide) (by decide) (by decide) [] _
  refine ⟨?_, ?_, Token.not :: Token.opening :: (tokens ++ [Token.closing]), ?_, ?_⟩
  · exact List.forall_mem_cons.2 ⟨by decide, h.allowed_group (List.forall_mem_nil _)⟩
  · exact h.balanced_group 0 []
  · rw [hrespell, scan_tilde, hscan, scan_respell_nil]
  · rw [Formula.read, hread, read_not, Formula.read, complete_of_open open_nil]

/-- Two texts in parentheses with a sign of one character between them are read as a compound. -/
lemma Reads.binary {c : Connective} {op : Char} (hop : [op] ∈ (Token.connective c).spellings) {cs ds : List Char}
    {f g : Formula} (hleft : Reads cs f) (hright : Reads ds g) :
    Reads ('(' :: (cs ++ ')' :: ' ' :: op :: ' ' :: '(' :: (ds ++ [')']))) (.binary c f g) := by
  obtain ⟨left, hscanleft, hreadleft⟩ := hleft.group
  obtain ⟨right, hscanright, hreadright⟩ := hright.group
  have hsign := isSign_of_mem_signs ((of_mem_spellings hop).2.2 List.mem_cons_self)
  refine ⟨?_, ?_, Token.opening :: (left ++ Token.closing :: Token.connective c :: Token.opening ::
    (right ++ [Token.closing])), ?_, ?_⟩
  · have hspaced : ∀ d ∈ [' ', op, ' '], isAllowed d = true := by
      rw [List.forall_mem_cons, List.forall_mem_cons, List.forall_mem_singleton]
      exact ⟨by decide, hsign.allowed, by decide⟩
    exact hleft.allowed_group (List.forall_mem_append.2 ⟨hspaced, hright.allowed_group (List.forall_mem_nil _)⟩)
  · have hne : ∀ d ∈ [' ', op, ' '], d ≠ '(' ∧ d ≠ ')' := by
      rcases eq_of_single hop with rfl | rfl | rfl <;> simp
    rw [hleft.balanced_group]
    exact (balanced_append hne 0 _).trans (hright.balanced_group 0 [])
  · rw [hscanleft, scan_respell_connective hop, hscanright, scan_respell_nil]
  · rw [hreadleft, Formula.read, complete_of_open open_nil]
    simp only
    rw [hreadright, read_binary none c f g ends_nil, Formula.read, complete_of_open open_nil]

/-- A text in parentheses that is negated is the negation of its formula. -/
theorem ofText_not {s : String} {f : Formula} (h : ofText s = .ok f) :
    ofText ("!(" ++ s ++ ")") = .ok (.not f) := by
  have htext : "!(" ++ s ++ ")" = String.ofList ('!' :: '(' :: (s.toList ++ [')'])) := by
    apply String.toList_injective
    simp
  have hlast : '!' :: '(' :: (s.toList ++ [')']) = ('!' :: '(' :: s.toList) ++ [')'] := rfl
  rw [htext]
  exact (reads_of_ofText h).not.ofText rfl (by decide) hlast (by decide)

/-- Two texts in parentheses that are joined by a sign of one character are the compound of their formulas. -/
theorem ofText_binary {c : Connective} {op : Char} (hop : [op] ∈ (Token.connective c).spellings) {s t : String}
    {f g : Formula} (hs : ofText s = .ok f) (ht : ofText t = .ok g) :
    ofText ("(" ++ s ++ ") " ++ String.singleton op ++ " (" ++ t ++ ")") = .ok (.binary c f g) := by
  have htext : "(" ++ s ++ ") " ++ String.singleton op ++ " (" ++ t ++ ")" =
      String.ofList ('(' :: (s.toList ++ ')' :: ' ' :: op :: ' ' :: '(' :: (t.toList ++ [')']))) := by
    apply String.toList_injective
    simp
  have hlast : '(' :: (s.toList ++ ')' :: ' ' :: op :: ' ' :: '(' :: (t.toList ++ [')'])) =
      '(' :: (s.toList ++ ')' :: ' ' :: op :: ' ' :: '(' :: t.toList) ++ [')'] := by simp
  have hreads := (reads_of_ofText hs).binary hop (reads_of_ofText ht)
  rw [htext]
  exact hreads.ofText rfl (by decide) hlast (by decide)

/-- Two texts of formulas in parentheses, joined by `&`, are their conjunction. -/
theorem ofText_and {s t : String} {f g : Formula} (hs : ofText s = .ok f) (ht : ofText t = .ok g) :
    ofText ("(" ++ s ++ ") & (" ++ t ++ ")") = .ok (.binary .and f g) := by
  have hop : ['&'] ∈ (Token.connective .and).spellings := by decide
  have htext : "(" ++ s ++ ") & (" ++ t ++ ")" = "(" ++ s ++ ") " ++ String.singleton '&' ++ " (" ++ t ++ ")" := by
    apply String.toList_injective
    simp
  rw [htext, ofText_binary hop hs ht]

/-- Two texts of formulas in parentheses, joined by `|`, are their disjunction. -/
theorem ofText_or {s t : String} {f g : Formula} (hs : ofText s = .ok f) (ht : ofText t = .ok g) :
    ofText ("(" ++ s ++ ") | (" ++ t ++ ")") = .ok (.binary .or f g) := by
  have hop : ['|'] ∈ (Token.connective .or).spellings := by decide
  have htext : "(" ++ s ++ ") | (" ++ t ++ ")" = "(" ++ s ++ ") " ++ String.singleton '|' ++ " (" ++ t ++ ")" := by
    apply String.toList_injective
    simp
  rw [htext, ofText_binary hop hs ht]

end Formula

end ProductLine
