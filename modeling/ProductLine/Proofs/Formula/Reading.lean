import Mathlib.Data.List.Chain
import Mathlib.Tactic.Common
import ProductLine.Formula.Parser

/-!
# Formulas that are written out

A formula can be written with more or fewer parentheses, and always with them around a compound that is an
operand. Whatever way is taken, the tokens are read back as that formula (`read_of_writes`): a negation binds
tightest, and a connective never stands beside another one without parentheses between them.
-/

namespace ProductLine

namespace Formula

/-- The ways to write a formula, by itself or as an operand. -/
inductive Writes : (operand : Bool) → Formula → List Token → Prop where
  | feature {operand name} :
    Writes operand (.feature name) [.name name]
  | truth {operand value} :
    Writes operand (.truth value) [.truth value]
  | not {operand f tokens} :
    Writes true f tokens →
    Writes operand (.not f) (.not :: tokens)
  | binary {c f g left right} :
    c ≠ .minus →
    Writes true f left →
    Writes true g right →
    Writes false (.binary c f g) (left ++ .connective c :: right)
  | group {operand f tokens} :
    Writes false f tokens →
    Writes operand f (.opening :: (tokens ++ [.closing]))

/-! Reading back -/

/-- What is read after an operand depends on it and on what waits only through their completion. -/
lemma read_connective_congr {bad : Option Char} {f g : Formula} {stack stack' : List Frame}
    (h : ∀ strength, complete strength f stack = complete strength g stack') (rest : List Token) :
    read bad (.connective f) stack rest = read bad (.connective g) stack' rest := by
  cases rest with
  | nil => simp only [read, h]
  | cons token rest => cases token <;> simp only [read, h]

/-- A negation is complete as soon as its operand is. -/
lemma read_not (bad : Option Char) (f : Formula) (stack : List Frame) (rest : List Token) :
    read bad (.connective f) (.not :: stack) rest = read bad (.connective (.not f)) stack rest :=
  read_connective_congr (fun strength => by rw [complete]) rest

/-- Whether nothing waits that a connective would have to complete. -/
def Open : List Frame → Prop
  | [] => True
  | .group :: _ => True
  | _ => False

/-- Nothing waits where the stack is empty. -/
lemma open_nil : Open [] := trivial

/-- Nothing waits inside an opening parenthesis. -/
lemma open_group {stack : List Frame} : Open (.group :: stack) := trivial

/-- A formula completes nothing where nothing waits. -/
lemma complete_of_open {stack : List Frame} (h : Open stack) (strength : Nat) (f : Formula) :
    complete strength f stack = .ok (f, stack) := by
  match stack, h with
  | [], _ => rfl
  | .group :: _, _ => rfl

/-- Whether a formula that stands for itself may be followed by some tokens. -/
def Ends : List Token → Prop
  | [] => True
  | .closing :: _ => True
  | _ => False

/-- A formula may be at the end. -/
lemma ends_nil : Ends [] := trivial

/-- A formula may stand before a closing parenthesis. -/
lemma ends_closing {rest : List Token} : Ends (.closing :: rest) := trivial

/-- Where a formula ends, a compound is complete. -/
lemma read_binary {stack : List Frame} {rest : List Token} (bad : Option Char) (c : Connective) (f g : Formula)
    (hrest : Ends rest) :
    read bad (.connective g) (.binary c f :: stack) rest = read bad (.connective (.binary c f g)) stack rest := by
  have hcomplete : complete 0 g (.binary c f :: stack) = complete 0 (.binary c f g) stack := by
    rw [complete, if_pos (Nat.zero_le _)]
  match rest, hrest with
  | [], _ => simp only [read, hcomplete]
  | .closing :: _, _ => simp only [read, hcomplete]

/-- A written formula is read as that formula: an operand wherever it stands, and a formula by itself where
nothing around it could take a part of it. -/
lemma read_writes {operand : Bool} {f : Formula} {tokens : List Token} (h : Writes operand f tokens)
    (bad : Option Char) {stack : List Frame} {rest : List Token}
    (hfree : operand = true ∨ Open stack ∧ Ends rest) :
    read bad .operand stack (tokens ++ rest) = read bad (.connective f) stack rest := by
  induction h generalizing stack rest with
  | feature => rw [List.singleton_append, read]
  | truth => rw [List.singleton_append, read]
  | not _ ih =>
    rw [List.cons_append, read, ih (.inl rfl), read_not]
  | @binary c f g left right _ _ _ ihf ihg =>
    obtain ⟨hopen, hends⟩ := hfree.resolve_left Bool.false_ne_true
    rw [List.append_assoc, ihf (.inl rfl), List.cons_append, read, complete_of_open hopen]
    simp only
    rw [ihg (.inl rfl), read_binary bad c f g hends]
  | @group operand f tokens _ ih =>
    rw [List.cons_append, read, List.append_assoc, List.singleton_append, ih (.inr ⟨open_group, ends_closing⟩),
      read, complete_of_open open_group]

/-- The tokens of a written formula are read as that formula. -/
theorem read_of_writes {f : Formula} {tokens : List Token} (h : Writes false f tokens) :
    read none .operand [] tokens = .ok f := by
  have hread := read_writes h none (.inr ⟨open_nil, ends_nil⟩)
  rwa [List.append_nil, read, complete_of_open open_nil] at hread

/-! Names and parentheses -/

/-- The name that a token is. -/
def Token.name? : Token → Option String
  | .name text => some text
  | _ => none

/-- The names among the tokens are those of the formula, in the same order. -/
lemma names_of_writes {operand : Bool} {f : Formula} {tokens : List Token} (h : Writes operand f tokens) :
    tokens.filterMap Token.name? = f.names := by
  induction h with
  | feature => rfl
  | truth => rfl
  | not _ ih => exact ih
  | binary _ _ _ ihf ihg =>
    rw [List.filterMap_append, ihf]
    exact congrArg _ ihg
  | group _ ih =>
    rw [← ih, List.filterMap_cons_none rfl, List.filterMap_append]
    exact List.append_nil _

/-- Whether the token is a word. -/
def Token.IsWord : Token → Prop
  | .name _ => True
  | .truth _ => True
  | _ => False

/-- Whether the token is a connective. -/
def Token.IsConnective : Token → Prop
  | .connective _ => True
  | _ => False

/-- Whether a token may follow another one with nothing between them: no word follows a word and no
connective a connective. -/
def Token.Meets (t u : Token) : Prop := ¬(t.IsWord ∧ u.IsWord) ∧ ¬(t.IsConnective ∧ u.IsConnective)

/-- Whether a token may begin a formula. -/
def Token.Begins : Token → Prop
  | .name _ => True
  | .truth _ => True
  | .not => True
  | .opening => True
  | _ => False

/-- Whether a token may end a formula. -/
def Token.Finishes : Token → Prop
  | .name _ => True
  | .truth _ => True
  | .closing => True
  | _ => False

/-- A written formula begins like an operand and ends like one, and its tokens may follow one another. -/
structure Wellspaced (tokens : List Token) : Prop where
  begins : ∃ t rest, tokens = t :: rest ∧ t.Begins
  finishes : ∃ rest t, tokens = rest ++ [t] ∧ t.Finishes
  meets : tokens.IsChain Token.Meets

/-- A token that is no word may stand before one that begins an operand. -/
lemma Token.meets_of_begins {t u : Token} (ht : ¬ t.IsWord) (hu : u.Begins) : t.Meets u := by
  refine ⟨fun h => ht h.1, fun h => ?_⟩
  cases u <;> first | exact h.2 | exact hu

/-- A token that is no word may stand behind one that ends an operand. -/
lemma Token.meets_of_finishes {t u : Token} (ht : t.Finishes) (hu : ¬ u.IsWord) : t.Meets u := by
  refine ⟨fun h => hu h.2, fun h => ?_⟩
  cases t <;> first | exact h.1 | exact ht

/-- A sign that is no word goes before a formula. -/
lemma Wellspaced.cons {token : Token} {tokens : List Token} (h : Wellspaced tokens) (ht : ¬ token.IsWord) :
    (token :: tokens).IsChain Token.Meets := by
  obtain ⟨u, rest, rfl, hu⟩ := h.begins
  exact List.isChain_cons_cons.2 ⟨Token.meets_of_begins ht hu, h.meets⟩

/-- A sign that is no word goes behind a formula. -/
lemma Wellspaced.append {token : Token} {tokens rest : List Token} (h : Wellspaced tokens) (ht : ¬ token.IsWord)
    (hrest : (token :: rest).IsChain Token.Meets) : (tokens ++ token :: rest).IsChain Token.Meets := by
  obtain ⟨front, t, rfl, hfinishes⟩ := h.finishes
  refine List.isChain_append.2 ⟨h.meets, hrest, ?_⟩
  intro a ha b hb
  simp only [List.getLast?_append, List.getLast?_singleton, Option.some_or, Option.mem_def, Option.some.injEq,
    List.head?_cons] at ha hb
  subst ha hb
  exact Token.meets_of_finishes hfinishes ht

/-- The tokens of a formula are well spaced. -/
lemma wellspaced_of_writes {operand : Bool} {f : Formula} {tokens : List Token} (h : Writes operand f tokens) :
    Wellspaced tokens := by
  induction h with
  | feature => exact ⟨⟨_, [], rfl, trivial⟩, ⟨[], _, rfl, trivial⟩, .singleton _⟩
  | truth => exact ⟨⟨_, [], rfl, trivial⟩, ⟨[], _, rfl, trivial⟩, .singleton _⟩
  | not _ ih =>
    obtain ⟨rest, t, rfl, ht⟩ := ih.finishes
    exact ⟨⟨_, _, rfl, trivial⟩, ⟨.not :: rest, t, rfl, ht⟩, ih.cons id⟩
  | @binary c f g left right _ _ _ ihf ihg =>
    have hnot : ¬ (Token.connective c).IsWord := id
    have hmeets := ihf.append hnot (ihg.cons hnot)
    obtain ⟨t, rest, rfl, ht⟩ := ihf.begins
    obtain ⟨rest', t', rfl, ht'⟩ := ihg.finishes
    exact ⟨⟨t, _, rfl, ht⟩, ⟨t :: rest ++ .connective c :: rest', t', by simp, ht'⟩, hmeets⟩
  | @group operand f tokens _ ih =>
    have hnot : ¬ Token.closing.IsWord := id
    have hclosing := ih.append hnot (.singleton _)
    obtain ⟨t, rest, rfl, ht⟩ := ih.begins
    refine ⟨⟨_, _, rfl, trivial⟩, ⟨.opening :: t :: rest, .closing, rfl, trivial⟩, ?_⟩
    exact List.isChain_cons_cons.2 ⟨Token.meets_of_begins id ht, hclosing⟩

end Formula

end ProductLine
