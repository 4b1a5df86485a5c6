import Mathlib.Data.List.Infix
import ProductLine.Proofs.Formula.Compound

/-!
# Runs of characters in a text that is respelled

A text is respelled in passes, and each pass keeps the runs of the characters it does not touch: the passes
that squeeze the blanks (`replicate_infix_squeeze`), take them away at the ends (`replicate_infix_trim`),
halve another operator (`replicate_infix_halve`) and change characters one by one (`replicate_infix_map`).
Halving an operator leaves it doubled where three of them stood together (`double_infix_halve`).
-/

namespace ProductLine

namespace Formula

/-! Runs of a character -/

section Runs

variable {c d : Char} {n : Nat} {cs ds : List Char}

/-- A text does not begin with a run of a character that is not its first. -/
lemma not_replicate_prefix_cons (h : d ≠ c) : ¬ List.replicate (n + 1) c <+: d :: cs := by
  rw [List.replicate_succ, List.cons_prefix_cons]
  exact fun hbegins => h hbegins.1.symm

/-- A run of one character lies behind any other character. -/
lemma replicate_infix_cons (h : d ≠ c) :
    List.replicate (n + 1) c <:+: d :: cs ↔ List.replicate (n + 1) c <:+: cs := by
  rw [List.infix_cons_iff, or_iff_right (not_replicate_prefix_cons h)]

/-- A text before another one without the character adds no run of it. -/
lemma replicate_infix_append (h : c ∉ ds) :
    List.replicate (n + 1) c <:+: ds ++ cs ↔ List.replicate (n + 1) c <:+: cs := by
  induction ds with
  | nil => rfl
  | cons d ds ih =>
    obtain ⟨hd, hds⟩ := List.ne_and_not_mem_of_not_mem_cons h
    rw [List.cons_append, replicate_infix_cons hd.symm, ih hds]

/-- A text behind another one without the character adds no run of it. -/
lemma replicate_infix_append_right (h : c ∉ ds) :
    List.replicate (n + 1) c <:+: cs ++ ds ↔ List.replicate (n + 1) c <:+: cs := by
  rw [← List.reverse_infix, List.reverse_replicate, List.reverse_append, replicate_infix_append (by simpa using h),
    ← List.reverse_infix, List.reverse_replicate, List.reverse_reverse]

/-- Changing characters one by one keeps the runs of a character that no other one becomes. -/
lemma replicate_infix_map {f : Char → Char} (hf : ∀ d, f d = c ↔ d = c) :
    List.replicate n c <:+: cs.map f ↔ List.replicate n c <:+: cs := by
  constructor
  · rintro ⟨front, back, heq⟩
    obtain ⟨left, right, rfl, hleft, -⟩ := List.map_eq_append_iff.1 heq.symm
    obtain ⟨outer, run, rfl, -, hrun⟩ := List.map_eq_append_iff.1 hleft
    have hsame : run = List.replicate n c := by
      refine List.eq_replicate_iff.2 ⟨by simpa using congrArg List.length hrun, fun d hd => ?_⟩
      have hmem : f d ∈ List.replicate n c := hrun ▸ List.mem_map_of_mem hd
      exact (hf d).1 (List.eq_of_mem_replicate hmem)
    exact ⟨outer, right, by rw [hsame]⟩
  · intro h
    have hmap := h.map f
    rwa [List.map_replicate, (hf c).2 rfl] at hmap

end Runs

/-! Halving -/

section Halving

variable {op c : Char} {n : Nat} {cs : List Char}

/-- Halving keeps the first character. -/
lemma head?_halve (op : Char) (cs : List Char) : (halve op cs).head? = cs.head? := by
  fun_cases halve op cs with
  | case1 => rfl
  | case2 => rfl
  | case3 d e rest h => rw [List.head?_cons, List.head?_cons, h.1]
  | case4 => rfl

/-- Halving keeps the last character. -/
lemma getLast?_halve (op : Char) (cs : List Char) : (halve op cs).getLast? = cs.getLast? := by
  fun_induction halve op cs with
  | case1 => rfl
  | case2 => rfl
  | case3 d e rest h ih =>
    rw [List.getLast?_cons, ih, List.getLast?_cons_cons, List.getLast?_cons, h.2]
  | case4 d e rest h ih =>
    rw [List.getLast?_cons, ih, List.getLast?_cons_cons, List.getLast?_cons]
    rfl

/-- Halving only takes characters away. -/
lemma halve_sublist (op : Char) (cs : List Char) : (halve op cs).Sublist cs := by
  fun_induction halve op cs with
  | case1 => exact .refl _
  | case2 => exact .refl _
  | case3 d e rest h ih =>
    rw [h.1, h.2]
    exact (ih.cons op).cons_cons op
  | case4 d e rest h ih => exact ih.cons_cons d

/-- Halving one character keeps the beginning of a run of another one. -/
lemma replicate_prefix_halve (hc : c ≠ op) : List.replicate n c <+: halve op cs ↔ List.replicate n c <+: cs := by
  induction n generalizing cs with
  | zero => simp
  | succ n ih =>
    cases cs with
    | nil => rfl
    | cons d rest =>
      by_cases hd : d = c
      · have hkeep : halve op (d :: rest) = d :: halve op rest := by
          rw [hd]
          exact halve_append_cons hc [] rest
        rw [hkeep, List.replicate_succ, List.cons_prefix_cons, List.cons_prefix_cons, ih]
      · have hhead := head?_halve op (d :: rest)
        obtain ⟨more, hmore⟩ := List.head?_eq_some_iff.1 hhead
        rw [hmore]
        exact iff_of_false (not_replicate_prefix_cons hd) (not_replicate_prefix_cons hd)

/-- Halving one character keeps the runs of another one. -/
lemma replicate_infix_halve (hc : c ≠ op) :
    List.replicate (n + 1) c <:+: halve op cs ↔ List.replicate (n + 1) c <:+: cs := by
  fun_induction halve op cs with
  | case1 => rfl
  | case2 => rfl
  | case3 d e rest h ih =>
    rw [h.1, h.2, replicate_infix_cons hc.symm, replicate_infix_cons hc.symm, replicate_infix_cons hc.symm, ih]
  | case4 d e rest h ih =>
    have hbegins : List.replicate (n + 1) c <+: halve op (d :: e :: rest) ↔
        List.replicate (n + 1) c <+: d :: e :: rest :=
      replicate_prefix_halve hc
    rw [halve, if_neg h] at hbegins
    rw [List.infix_cons_iff, ih, hbegins, ← List.infix_cons_iff]

/-- A text begins with a character exactly if this is its first. -/
lemma singleton_prefix_iff : [c] <+: cs ↔ cs.head? = some c := by
  cases cs with
  | nil => simp
  | cons d rest => simp [List.cons_prefix_cons, eq_comm]

/-- A text whose first two characters are not both the operator does not begin with two of them. -/
lemma not_double_prefix {d e : Char} {ds : List Char} (h : ¬ (d = op ∧ e = op)) (hhead : cs.head? = some e) :
    ¬ op :: op :: ds <+: d :: cs := by
  obtain ⟨rest, rfl⟩ := List.head?_eq_some_iff.1 hhead
  rw [List.cons_prefix_cons, List.cons_prefix_cons]
  exact fun hbegins => h ⟨hbegins.1.symm, hbegins.2.1.symm⟩

/-- A character stays doubled where three of them stood together. -/
lemma double_infix_halve : [op, op] <:+: halve op cs ↔ [op, op, op] <:+: cs := by
  fun_induction halve op cs with
  | case1 => simp
  | case2 d => simp [List.infix_cons_iff]
  | case3 d e rest h ih =>
    rw [h.1, h.2]
    have hfirst : [op, op] <+: op :: halve op rest ↔ [op, op, op] <+: op :: op :: rest := by
      simp only [List.cons_prefix_cons, true_and, singleton_prefix_iff, head?_halve]
    -- a run that begins with the second character makes one that begins with the first
    have hsecond : [op, op, op] <+: op :: rest → [op, op, op] <+: op :: op :: rest := by
      simp only [List.cons_prefix_cons, true_and]
      exact List.IsPrefix.trans ⟨[op], rfl⟩
    rw [List.infix_cons_iff, List.infix_cons_iff, List.infix_cons_iff, ih, hfirst, ← or_assoc,
      or_iff_left_of_imp hsecond]
  | case4 d e rest h ih =>
    have hhalved : ¬ [op, op] <+: d :: halve op (e :: rest) := not_double_prefix h (head?_halve op (e :: rest))
    have hwhole : ¬ [op, op, op] <+: d :: e :: rest := not_double_prefix h rfl
    rw [List.infix_cons_iff, or_iff_right hhalved, ih]
    exact (List.infix_cons_iff.trans (or_iff_right hwhole)).symm

/-- Halving changes nothing exactly if no character is doubled. -/
lemma halve_eq_self_iff : halve op cs = cs ↔ ¬ [op, op] <:+: cs := by
  fun_induction halve op cs with
  | case1 => simp
  | case2 d => simp [List.infix_cons_iff]
  | case3 d e rest h ih =>
    rw [h.1, h.2]
    have hshorter := (halve_sublist op rest).length_le
    refine iff_of_false (fun heq => ?_) (not_not.2 ⟨[], rest, rfl⟩)
    have hlength := congrArg List.length heq
    simp only [List.length_cons] at hlength
    omega
  | case4 d e rest h ih =>
    have hbegins : ¬ [op, op] <+: d :: e :: rest := not_double_prefix h rfl
    rw [List.cons.injEq, and_iff_right rfl, ih]
    exact not_congr (List.infix_cons_iff.trans (or_iff_right hbegins)).symm

end Halving

/-! Blanks -/

section Blanks

variable {c : Char} {n : Nat} {cs : List Char}

/-- A blank is not a character that is none. -/
lemma ne_of_isBlank {blank : Char} (hblank : Text.isBlank blank = true) (hc : Text.isBlank c = false) :
    blank ≠ c := by
  rintro rfl
  rw [hc] at hblank
  cases hblank

/-- A run of blanks is squeezed to a space. -/
lemma exists_squeeze_of_isBlank (hc : Text.isBlank c = true) (cs : List Char) :
    ∃ rest, Text.squeeze (c :: cs) = ' ' :: rest := by
  induction cs generalizing c with
  | nil => exact ⟨[], squeeze_blank hc⟩
  | cons d cs ih =>
    rw [squeeze_blank_cons hc]
    split
    · exact ih ‹_›
    · exact ⟨_, rfl⟩

/-- Squeezing blanks keeps the beginning of a run of another character. -/
lemma replicate_prefix_squeeze (hc : Text.isBlank c = false) :
    List.replicate n c <+: Text.squeeze cs ↔ List.replicate n c <+: cs := by
  induction n generalizing cs with
  | zero => simp
  | succ n ih =>
    cases cs with
    | nil => rfl
    | cons d rest =>
      by_cases hd : Text.isBlank d = true
      · obtain ⟨more, hmore⟩ := exists_squeeze_of_isBlank hd rest
        rw [hmore]
        exact iff_of_false (not_replicate_prefix_cons (ne_of_isBlank rfl hc))
          (not_replicate_prefix_cons (ne_of_isBlank hd hc))
      · rw [Bool.not_eq_true] at hd
        rw [squeeze_cons_of_not_isBlank hd, List.replicate_succ, List.cons_prefix_cons, List.cons_prefix_cons, ih]

/-- Squeezing blanks keeps the runs of other characters. -/
lemma replicate_infix_squeeze (hc : Text.isBlank c = false) :
    List.replicate (n + 1) c <:+: Text.squeeze cs ↔ List.replicate (n + 1) c <:+: cs := by
  induction cs with
  | nil => rfl
  | cons d rest ih =>
    by_cases hd : Text.isBlank d = true
    · rw [replicate_infix_cons (ne_of_isBlank hd hc), ← ih]
      rcases squeeze_cons_of_isBlank hd rest with heq | heq
      · rw [heq]
      · rw [heq, replicate_infix_cons (ne_of_isBlank rfl hc)]
    · rw [Bool.not_eq_true] at hd
      have hbegins : List.replicate (n + 1) c <+: Text.squeeze (d :: rest) ↔
          List.replicate (n + 1) c <+: d :: rest :=
        replicate_prefix_squeeze hc
      rw [squeeze_cons_of_not_isBlank hd] at hbegins ⊢
      rw [List.infix_cons_iff, ih, hbegins, ← List.infix_cons_iff]

/-- A run of a character that is no blank stands between the blanks at the ends. -/
lemma replicate_infix_trim (hc : Text.isBlank c = false) :
    List.replicate (n + 1) c <:+: Text.trim cs ↔ List.replicate (n + 1) c <:+: cs := by
  obtain ⟨front, back, heq, hfront, hback⟩ := exists_trim cs
  have hmem {blanks : List Char} (h : ∀ d ∈ blanks, Text.isBlank d = true) : c ∉ blanks :=
    fun hmem => ne_of_isBlank (h c hmem) hc rfl
  conv_rhs => rw [heq]
  rw [replicate_infix_append (hmem hfront), replicate_infix_append_right (hmem hback)]

end Blanks

end Formula

end ProductLine
