import Mathlib.Data.List.Chain
import Mathlib.Tactic.Common
import ProductLine.Expression.Parser

/-!
# Expressions that are written out

An expression can be written with more or fewer parentheses, but at least with those that its operations need:
sums and differences bind least, then products and quotients, then signs, then powers; powers group to the
right and may have a sign behind them, all others group to the left (`Expression.Writes`). Whatever way is
taken, the tokens are read back as that expression (`read_of_writes`).
-/

namespace ProductLine

namespace Expression

/-- Whether a word can be written as a name: a letter or an underscore, then letters, digits and underscores, and no
keyword. -/
structure IsName (word : List Char) : Prop where
  identifier : ∃ c rest, word = c :: rest ∧ (c.isAlpha || c == '_') = true ∧
    ∀ d ∈ rest, (d.isAlphanum || d == '_') = true
  not_keyword : isKeyword word = false

/-- The sign of an operation. -/
def signOf : Operation → List Char
  | .add => ['+']
  | .sub => ['-']
  | .mul => ['*']
  | .div => ['/']
  | .pow => ['*', '*']

/-- The ways to write an expression where only what binds at least with some strength may stand without parentheses
around it, with at most `room` parentheses open at a time. -/
inductive Writes : (room strength : Nat) → Expression → List Token → Prop where
  | int {room strength n} :
    Writes room strength (.int n) [.int n]
  | float {room strength x} :
    Writes room strength (.float x) [.float x]
  | name {room strength word} :
    IsName word →
    Writes room strength (.name (String.ofList word)) [.word word]
  | neg {room strength e tokens} :
    strength ≤ 3 →
    Writes room 3 e tokens →
    Writes room strength (.neg e) (.sign ['-'] :: tokens)
  | pos {room strength e tokens} :
    strength ≤ 3 →
    Writes room 3 e tokens →
    Writes room strength (.pos e) (.sign ['+'] :: tokens)
  | binary {room strength op l r left right} :
    op ≠ .pow →
    strength ≤ strengthOf op →
    Writes room (strengthOf op) l left →
    Writes room (strengthOf op + 1) r right →
    Writes room strength (.binary op l r) (left ++ .sign (signOf op) :: right)
  | pow {room strength l r left right} :
    strength ≤ 4 →
    Writes room 5 l left →
    Writes room 3 r right →
    Writes room strength (.binary .pow l r) (left ++ .sign (signOf .pow) :: right)
  | group {room strength e tokens} :
    Writes room 0 e tokens →
    Writes (room + 1) strength e (.sign ['('] :: (tokens ++ [.sign [')']]))

/-! Reading back -/

/-- The sign of an operation is read as this operation. -/
lemma operation?_signOf (op : Operation) : operation? (.sign (signOf op)) = some op := by
  cases op <;> rfl

/-- A closing parenthesis is no operation. -/
lemma operation?_closing : operation? (.sign [')']) = none := rfl

/-- The letters and digits by their codes. -/
lemma isAlphanum_iff (c : Char) : c.isAlphanum = true ↔
    (48 ≤ c.toNat ∧ c.toNat ≤ 57) ∨ (65 ≤ c.toNat ∧ c.toNat ≤ 90) ∨ (97 ≤ c.toNat ∧ c.toNat ≤ 122) := by
  have hnat : c.toNat = c.val.toNat := rfl
  show (decide ('A'.val ≤ c.val ∧ c.val ≤ 'Z'.val) || decide ('a'.val ≤ c.val) && decide (c.val ≤ 'z'.val) ||
    decide ('0'.val ≤ c.val) && decide (c.val ≤ '9'.val)) = true ↔ _
  simp only [Bool.or_eq_true, Bool.and_eq_true, decide_eq_true_eq, UInt32.le_iff_toNat_le, Char.reduceVal,
    UInt32.reduceToNat]
  omega

namespace IsName

variable {word : List Char}

/-- A name consists of letters, digits and underscores. -/
lemma isAlphanum_of_mem (h : IsName word) : ∀ c ∈ word, (c.isAlphanum || c == '_') = true := by
  obtain ⟨c, rest, rfl, hc, hrest⟩ := h.identifier
  refine List.forall_mem_cons.2 ⟨?_, hrest⟩
  rw [Char.isAlphanum, Bool.or_assoc, Bool.or_comm c.isDigit, ← Bool.or_assoc, hc, Bool.true_or]

/-- The characters of a name are those of ASCII. -/
lemma toNat_lt (h : IsName word) {c : Char} (hc : c ∈ word) : c.toNat < 128 := by
  rcases Bool.or_eq_true_iff.1 (h.isAlphanum_of_mem c hc) with hc | hc
  · have := (isAlphanum_iff c).1 hc
    omega
  · rw [beq_iff_eq.1 hc]
    decide

/-- A name is in normal form. -/
lemma normalName_eq (h : IsName word) : Text.normalName word = word :=
  if_pos (List.all_eq_true.2 fun _ hc => decide_eq_true (h.toNat_lt hc))

end IsName

/-- Whether nothing waits that an operation inside an expression of some strength would complete. -/
def Free (strength : Nat) (stack : List Frame) : Prop :=
  ∀ op, strength ≤ strengthOf op → ∀ e, complete (claims op) e stack = (e, stack)

/-- Whether an expression of some strength is complete before some tokens: at the end, before a closing
parenthesis, and before an operation that completes everything of that strength. -/
inductive Ends (strength : Nat) : List Token → Prop where
  | nil : Ends strength []
  | closing {rest} : Ends strength (.sign [')'] :: rest)
  | operation {op rest} : claims op ≤ strength → Ends strength (.sign (signOf op) :: rest)

/-- An operation completes what stands before it at least as strongly as it binds. -/
lemma le_claims (op : Operation) : strengthOf op ≤ claims op := by
  cases op <;> decide

/-- What frees an expression of some strength frees every stronger one. -/
lemma Free.mono {strength strength' : Nat} {stack : List Frame} (h : Free strength stack)
    (hle : strength ≤ strength') : Free strength' stack := fun op hop => h op (hle.trans hop)

/-- Nothing waits where the stack is empty. -/
lemma free_nil {strength : Nat} : Free strength [] := fun _ _ _ => rfl

/-- Nothing waits inside an opening parenthesis. -/
lemma free_group {strength : Nat} {stack : List Frame} : Free strength (.group :: stack) := fun _ _ _ => rfl

/-- A power, the only operation that binds more tightly than a sign, completes nothing. -/
lemma free_of_three_le {strength : Nat} (h : 3 ≤ strength) (stack : List Frame) : Free strength stack := by
  intro op hop e
  cases op with
  | pow =>
    cases stack with
    | nil => rfl
    | cons frame stack =>
      cases frame with
      | group => rfl
      | signed negative => rfl
      | binary op left => cases op <;> rfl
  | _ => exact absurd (h.trans hop) (by decide)

/-- An operation that waits is not completed by what binds more tightly. -/
lemma free_binary {op : Operation} (left : Expression) (stack : List Frame) :
    Free (strengthOf op + 1) (.binary op left :: stack) := by
  intro op' hop' e
  have hlt : ¬ claims op' ≤ strengthOf op := by
    have := le_claims op'
    omega
  rw [complete, if_neg hlt]

/-- Before tokens at which an expression is complete, every stronger one is. -/
lemma Ends.mono {strength strength' : Nat} {rest : List Token} (h : Ends strength rest)
    (hle : strength ≤ strength') : Ends strength' rest := by
  cases h with
  | nil => exact .nil
  | closing => exact .closing
  | operation hop => exact .operation (hop.trans hle)

/-- An operation that completes powers completes signs too. -/
lemma Ends.of_four {rest : List Token} (h : Ends 4 rest) : Ends 3 rest := by
  cases h with
  | nil => exact .nil
  | closing => exact .closing
  | @operation op _ hop =>
    refine .operation ?_
    cases op with
    | pow => exact absurd hop (by decide)
    | _ => decide

/-- Where an expression ends, it does not matter whether a frame was completed before. -/
lemma read_congr {strength : Nat} {e e' : Expression} {stack stack' : List Frame} {rest : List Token}
    (hrest : Ends strength rest) (h : ∀ k ≤ strength, complete k e stack = complete k e' stack') :
    read (some e) stack rest = read (some e') stack' rest := by
  cases hrest with
  | nil => simp only [read, h 0 (Nat.zero_le _)]
  | closing => simp only [read, operation?_closing, h 0 (Nat.zero_le _)]
  | operation hop => simp only [read, operation?_signOf, h _ hop]

/-- A sign that waits is put before an expression that is complete. -/
lemma read_signed {strength : Nat} (hstrength : strength ≤ 3) (negative : Bool) (e : Expression)
    (stack : List Frame) {rest : List Token} (hrest : Ends strength rest) :
    read (some e) (.signed negative :: stack) rest =
      read (some (if negative then .neg e else .pos e)) stack rest := by
  refine read_congr hrest fun k hk => ?_
  rw [complete, if_pos (hk.trans hstrength)]

/-- An operation that waits is given an expression that is complete as its right operand. -/
lemma read_binary {strength : Nat} {op : Operation} (hstrength : strength ≤ strengthOf op) (l r : Expression)
    (stack : List Frame) {rest : List Token} (hrest : Ends strength rest) :
    read (some r) (.binary op l :: stack) rest = read (some (.binary op l r)) stack rest := by
  refine read_congr hrest fun k hk => ?_
  rw [complete, if_pos (hk.trans hstrength)]

/-- An operation that completes nothing of what waits goes onto the stack. -/
lemma read_operation {op : Operation} {stack : List Frame} (hfree : Free (strengthOf op) stack) (e : Expression)
    (rest : List Token) :
    read (some e) stack (.sign (signOf op) :: rest) = read none (.binary op e :: stack) rest := by
  rw [read]
  simp only [operation?_signOf, hfree op (Nat.le_refl _) e]

/-- A written expression is read as that expression wherever nothing before it is completed by its operations, and
nothing behind it takes a part of it. -/
lemma read_writes {room strength : Nat} {e : Expression} {tokens : List Token} (h : Writes room strength e tokens)
    {stack : List Frame} {rest : List Token} (hfree : Free strength stack) (hrest : Ends strength rest) :
    read none stack (tokens ++ rest) = read (some e) stack rest := by
  induction h generalizing stack rest with
  | int => rw [List.singleton_append, read]
  | float => rw [List.singleton_append, read]
  | name hword =>
    rw [List.singleton_append, read, hword.not_keyword, hword.normalName_eq]
    rfl
  | neg hstrength _ ih =>
    rw [List.cons_append, read, ih (free_of_three_le (Nat.le_refl 3) _) (hrest.mono hstrength),
      read_signed hstrength true _ _ hrest]
    rfl
  | pos hstrength _ ih =>
    rw [List.cons_append, read, ih (free_of_three_le (Nat.le_refl 3) _) (hrest.mono hstrength),
      read_signed hstrength false _ _ hrest]
    rfl
  | @binary room strength op l r left right hop hstrength _ _ ihl ihr =>
    have hclaims : claims op ≤ strengthOf op := by cases op <;> first | decide | exact absurd rfl hop
    have hfree' := hfree.mono hstrength
    rw [List.append_assoc, List.cons_append, ihl hfree' (.operation hclaims), read_operation hfree',
      ihr (free_binary l stack) (hrest.mono (hstrength.trans (Nat.le_succ _))),
      read_binary hstrength l r stack hrest]
  | @pow room strength l r left right hstrength _ _ ihl ihr =>
    -- a power completes nothing that waits, and its exponent may begin with a sign of strength three
    have hbase : Free 5 stack := free_of_three_le (by decide) stack
    have hfree' : Free (strengthOf .pow) stack := free_of_three_le (by decide) stack
    have hpow : Ends 5 (.sign (signOf .pow) :: (right ++ rest)) := .operation (Nat.le_refl 5)
    have hends : Ends 3 rest := (hrest.mono hstrength).of_four
    have hstrength' : strength ≤ strengthOf .pow := hstrength
    rw [List.append_assoc, List.cons_append, ihl hbase hpow, read_operation hfree',
      ihr (free_of_three_le (Nat.le_refl 3) _) hends, read_binary hstrength' l r stack hrest]
  | @group room strength e tokens _ ih =>
    rw [List.cons_append, read, List.append_assoc, List.singleton_append, ih free_group .closing, read]
    rfl

/-- The tokens of a written expression are read as that expression. -/
theorem read_of_writes {room : Nat} {e : Expression} {tokens : List Token} (h : Writes room 0 e tokens) :
    read none [] tokens = some e := by
  have hread := read_writes h free_nil .nil
  rwa [List.append_nil, read] at hread

/-! Names, neighbours and parentheses -/

/-- The name that a token is. -/
def Token.name? : Token → Option String
  | .word chars => some (String.ofList chars)
  | _ => none

/-- The names among the tokens are those of the expression, in the same order. -/
lemma names_of_writes {room strength : Nat} {e : Expression} {tokens : List Token}
    (h : Writes room strength e tokens) : tokens.filterMap Token.name? = e.names := by
  induction h with
  | int => rfl
  | float => rfl
  | name => rfl
  | neg _ _ ih => exact ih
  | pos _ _ ih => exact ih
  | binary _ _ _ _ ihl ihr =>
    rw [List.filterMap_append, ihl]
    exact congrArg _ ihr
  | pow _ _ _ ihl ihr =>
    rw [List.filterMap_append, ihl]
    exact congrArg _ ihr
  | group _ ih =>
    rw [← ih, List.filterMap_cons_none rfl, List.filterMap_append]
    exact List.append_nil _

namespace Token

/-- Whether a token may begin an expression. -/
def Begins : Token → Prop
  | int _ => True
  | float _ => True
  | word _ => True
  | sign s => s = ['('] ∨ s = ['+'] ∨ s = ['-']
  | _ => False

/-- Whether a token may end an expression. -/
def Finishes : Token → Prop
  | int _ => True
  | float _ => True
  | word _ => True
  | sign s => s = [')']
  | _ => False

/-- Whether a token may stand behind an expression. -/
def Follows : Token → Prop
  | sign s => s = [')'] ∨ ∃ op, s = signOf op
  | _ => False

/-- Whether a token may follow another one: what ends an expression is followed by a sign behind one, and any other
sign by what begins one. -/
def Meets (t u : Token) : Prop := (t.Finishes ∧ u.Follows) ∨ (¬ t.Finishes ∧ u.Begins)

end Token

/-- A written expression begins and ends like one, and its tokens may follow one another. -/
structure Wellspaced (tokens : List Token) : Prop where
  begins : ∃ t rest, tokens = t :: rest ∧ t.Begins
  finishes : ∃ rest t, tokens = rest ++ [t] ∧ t.Finishes
  meets : tokens.IsChain Token.Meets

namespace Wellspaced

variable {t : Token} {tokens rest : List Token}

/-- A single token that begins and ends an expression. -/
lemma single (hbegins : t.Begins) (hfinishes : t.Finishes) : Wellspaced [t] :=
  ⟨⟨t, [], rfl, hbegins⟩, ⟨[], t, rfl, hfinishes⟩, .singleton t⟩

/-- A token that ends no expression may stand before a written one. -/
lemma isChain_cons (h : Wellspaced tokens) (ht : ¬ t.Finishes) : (t :: tokens).IsChain Token.Meets := by
  obtain ⟨u, rest, rfl, hu⟩ := h.begins
  exact List.isChain_cons_cons.2 ⟨.inr ⟨ht, hu⟩, h.meets⟩

/-- A written expression may go on with what may stand behind one. -/
lemma isChain_append (h : Wellspaced tokens) (ht : t.Follows) (hrest : (t :: rest).IsChain Token.Meets) :
    (tokens ++ t :: rest).IsChain Token.Meets := by
  obtain ⟨front, last, rfl, hlast⟩ := h.finishes
  refine List.isChain_append.2 ⟨h.meets, hrest, ?_⟩
  intro a ha b hb
  simp only [List.getLast?_append, List.getLast?_singleton, Option.some_or, Option.mem_def, Option.some.injEq,
    List.head?_cons] at ha hb
  subst ha hb
  exact .inl ⟨hlast, ht⟩

/-- A sign before an expression. -/
lemma cons (h : Wellspaced tokens) (hbegins : t.Begins) (ht : ¬ t.Finishes) : Wellspaced (t :: tokens) := by
  have hmeets := h.isChain_cons ht
  obtain ⟨rest, last, rfl, hlast⟩ := h.finishes
  exact ⟨⟨t, _, rfl, hbegins⟩, ⟨t :: rest, last, rfl, hlast⟩, hmeets⟩

/-- A sign between two expressions. -/
lemma between (h : Wellspaced tokens) (hrest : Wellspaced rest) (ht : t.Follows) (hnot : ¬ t.Finishes) :
    Wellspaced (tokens ++ t :: rest) := by
  have hmeets := h.isChain_append ht (hrest.isChain_cons hnot)
  obtain ⟨first, front, rfl, hfirst⟩ := h.begins
  obtain ⟨back, last, rfl, hlast⟩ := hrest.finishes
  exact ⟨⟨first, _, rfl, hfirst⟩, ⟨first :: front ++ t :: back, last, by simp, hlast⟩, hmeets⟩

/-- Parentheses around an expression. -/
lemma group (h : Wellspaced tokens) : Wellspaced (.sign ['('] :: (tokens ++ [.sign [')']])) := by
  have hopening : ¬ (Token.sign ['(']).Finishes := by
    simp [Token.Finishes]
  have hclosing := h.isChain_append (t := .sign [')']) (.inl rfl) (.singleton _)
  obtain ⟨first, front, rfl, hfirst⟩ := h.begins
  refine ⟨⟨_, _, rfl, .inl rfl⟩, ⟨.sign ['('] :: first :: front, .sign [')'], rfl, rfl⟩, ?_⟩
  exact List.isChain_cons_cons.2 ⟨.inr ⟨hopening, hfirst⟩, hclosing⟩

end Wellspaced

/-- The sign of an operation may stand behind an expression. -/
lemma follows_signOf (op : Operation) : (Token.sign (signOf op)).Follows := .inr ⟨op, rfl⟩

/-- The sign of an operation does not end an expression. -/
lemma not_finishes_signOf (op : Operation) : ¬ (Token.sign (signOf op)).Finishes := by
  cases op <;> simp [Token.Finishes, signOf]

/-- The tokens of an expression are well spaced. -/
lemma wellspaced_of_writes {room strength : Nat} {e : Expression} {tokens : List Token}
    (h : Writes room strength e tokens) : Wellspaced tokens := by
  induction h with
  | int => exact .single trivial trivial
  | float => exact .single trivial trivial
  | name => exact .single trivial trivial
  | neg _ _ ih => exact ih.cons (.inr (.inr rfl)) (not_finishes_signOf .sub)
  | pos _ _ ih => exact ih.cons (.inr (.inl rfl)) (not_finishes_signOf .add)
  | binary _ _ _ _ ihl ihr => exact ihl.between ihr (follows_signOf _) (not_finishes_signOf _)
  | pow _ _ _ ihl ihr => exact ihl.between ihr (follows_signOf _) (not_finishes_signOf _)
  | group _ ih => exact ih.group

/-- The sign of an operation opens and closes nothing. -/
lemma nest_signOf (opened : List Char) (op : Operation) : Token.nest opened (.sign (signOf op)) = some opened := by
  cases op <;> rfl

/-- An operation between two expressions opens nothing. -/
lemma nest_between {left right : List Token} {opened : List Char} (op : Operation)
    (hleft : left.foldlM Token.nest opened = some opened) (hright : right.foldlM Token.nest opened = some opened) :
    (left ++ .sign (signOf op) :: right).foldlM Token.nest opened = some opened := by
  rw [List.foldlM_append, hleft]
  show List.foldlM Token.nest opened (.sign (signOf op) :: right) = some opened
  rw [List.foldlM_cons, nest_signOf]
  exact hright

/-- A written expression closes what it opens, and opens no more than fits. -/
lemma nest_of_writes {room strength : Nat} {e : Expression} {tokens : List Token}
    (h : Writes room strength e tokens)
    {opened : List Char} (hroom : opened.length + room ≤ 200) : tokens.foldlM Token.nest opened = some opened := by
  induction h generalizing opened with
  | int => rfl
  | float => rfl
  | name => rfl
  | neg _ _ ih => exact ih hroom
  | pos _ _ ih => exact ih hroom
  | binary _ _ _ _ ihl ihr => exact nest_between _ (ihl hroom) (ihr hroom)
  | pow _ _ _ ihl ihr => exact nest_between _ (ihl hroom) (ihr hroom)
  | group _ ih =>
    have hopen : Token.nest opened (.sign ['(']) = some (')' :: opened) := if_pos (by omega)
    rw [List.foldlM_cons, hopen]
    show List.foldlM Token.nest (')' :: opened) _ = some opened
    rw [List.foldlM_append, ih (by simp only [List.length_cons]; omega)]
    rfl

end Expression

end ProductLine
