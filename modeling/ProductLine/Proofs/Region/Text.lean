import ProductLine.Proofs.Formula.Printed

/-!
# Texts of regions

The text of a decision tree is what is printed for a formula (`toList_write`), if the features asked have names that
can be read: a choice is left out exactly if it is between the two truth values, which no other formula is printed
like. A tree that is printed as a negation is printed turned around, so the formula holds where the tree says
(`holds_ofTree`). It names the features that the tree asks and no others (`named_ofTree`).
-/

namespace ProductLine

namespace Formula.Printed

/-- A choice by a feature; just the feature if that is what the choice says. -/
def branch (name : String) (high low : Printed) : Printed :=
  if low = .truth false ∧ high = .truth true then .feature name else .choice name high low

/-- What is printed for a tree, or for its negation if `flip` is set. -/
def ofTree (feature : Nat → String) : (flip : Bool) → Decision → Printed
  | flip, .leaf b => .truth (b != flip)
  | flip, .node n low high =>
    if high.atAllTrue != flip then branch (feature n) (ofTree feature flip high) (ofTree feature flip low)
    else .not (branch (feature n) (ofTree feature (!flip) high) (ofTree feature (!flip) low))

variable {feature : Nat → String} {flip : Bool} {t : Decision}

/-! Names -/

/-- The text of a branch names its feature and what its parts name. -/
lemma named_branch {P : String → Prop} {name : String} {high low : Printed} (hname : P name) (hhigh : high.Named P)
    (hlow : low.Named P) : (branch name high low).Named P := by
  rw [branch]
  split
  · exact hname
  · exact ⟨hname, hhigh, hlow⟩

/-- The names that are printed are those of the features asked. -/
lemma named_ofTree {P : String → Prop} (h : ∀ level, t.asks level = true → P (feature level)) :
    (ofTree feature flip t).Named P := by
  induction t generalizing flip with
  | leaf b => trivial
  | node n low high ihl ihh =>
    simp only [Decision.asks, Bool.or_eq_true, beq_iff_eq] at h
    have hname := h n (.inl (.inl rfl))
    have hlow (flip : Bool) : (ofTree feature flip low).Named P := ihl fun m hm => h m (.inl (.inr hm))
    have hhigh (flip : Bool) : (ofTree feature flip high).Named P := ihh fun m hm => h m (.inr hm)
    rw [ofTree]
    split
    · exact named_branch hname (hhigh flip) (hlow flip)
    · exact named_branch hname (hhigh !flip) (hlow !flip)

/-! Texts -/

/-- Only a truth value is printed like one. -/
lemma Proper.eq_truth {p : Printed} (h : p.Proper) {b : Bool} (htext : p.text = (truth b).text) : p = .truth b := by
  cases p with
  | truth b' =>
    cases b <;> cases b'
    · rfl
    · cases htext
    · cases htext
    · rfl
  | feature name =>
    refine absurd ?_ (IsFeatureName.not_truth h b)
    rw [show name.toList = (truth b).text from htext]
    cases b <;> decide
  | choice name high low => cases b <;> cases htext
  | not p => cases b <;> cases htext

/-- A choice is left out in the text exactly if it is left out of what is printed. -/
lemma toList_choiceText {name lowText highText : String} {high low : Printed} (hhigh : high.Proper)
    (hlow : low.Proper) (hhighText : highText.toList = high.text) (hlowText : lowText.toList = low.text) :
    (Decision.choiceText name lowText highText).toList = (branch name high low).text := by
  have hword {s : String} {p : Printed} (hp : p.Proper) (hs : s.toList = p.text) (b : Bool) :
      s.toList = (truth b).text ↔ p = .truth b := by
    rw [hs]
    exact ⟨hp.eq_truth, congrArg text⟩
  have hfalse : lowText = "FALSE" ↔ low = .truth false := String.toList_inj.symm.trans (hword hlow hlowText false)
  have htrue : highText = "TRUE" ↔ high = .truth true := String.toList_inj.symm.trans (hword hhigh hhighText true)
  rw [Decision.choiceText, branch]
  simp only [hfalse, htrue]
  split
  · rfl
  · simp only [String.toList_append, hhighText, hlowText, text]
    rfl

/-- The text of a tree is what is printed for it. -/
lemma toList_write (h : ∀ level, t.asks level = true → IsFeatureName (feature level).toList) :
    (t.write feature flip).toList = (ofTree feature flip t).text := by
  induction t generalizing flip with
  | leaf b =>
    rw [Decision.write, ofTree]
    cases b <;> cases flip <;> rfl
  | node n low high ihl ihh =>
    simp only [Decision.asks, Bool.or_eq_true, beq_iff_eq] at h
    have hlow : ∀ m, low.asks m = true → IsFeatureName (feature m).toList := fun m hm => h m (.inl (.inr hm))
    have hhigh : ∀ m, high.asks m = true → IsFeatureName (feature m).toList := fun m hm => h m (.inr hm)
    have hchoice (flip : Bool) :
        (Decision.choiceText (feature n) (low.write feature flip) (high.write feature flip)).toList =
          (branch (feature n) (ofTree feature flip high) (ofTree feature flip low)).text :=
      toList_choiceText (named_ofTree hhigh) (named_ofTree hlow) (ihh hhigh) (ihl hlow)
    rw [Decision.write, ofTree]
    split
    · exact hchoice flip
    · simp only [String.toList_append, hchoice, text]
      rfl

/-! Meaning -/

/-- A branch means its high part where its feature is taken, and its low part elsewhere. -/
lemma holds_branch (x : String → Bool) (name : String) (high low : Printed) :
    (branch name high low).formula.holds x = if x name then high.formula.holds x else low.formula.holds x := by
  rw [branch]
  split
  · rename_i h
    rw [h.1, h.2]
    cases hx : x name <;> simp [formula, holds, hx]
  · rfl

/-- What is printed holds where the tree answers with the truth value that is asked for. -/
lemma holds_ofTree (x : String → Bool) :
    (ofTree feature flip t).formula.holds x = (t.eval (fun n => x (feature n)) != flip) := by
  induction t generalizing flip with
  | leaf b => rfl
  | node n low high ihl ihh =>
    rw [ofTree]
    split
    · rw [holds_branch, ihl, ihh, Decision.eval]
      split <;> rfl
    · simp only [formula, holds, holds_branch, ihl, ihh, Decision.eval]
      -- the opposite of the opposite is printed
      split <;> simp

end Formula.Printed

end ProductLine
