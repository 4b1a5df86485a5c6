import Mathlib.Logic.Function.Basic
import Mathlib.Tactic.Common
import ProductLine.Proofs.Region

/-!
# Answering the question about a level

Once the feature at a level is given or taken, a region holds the products that it held with this answer
(`holds_restrict`). It depends on the level exactly if the answer matters for some product
(`dependsOn_iff`), and never on the level any more afterwards.
-/

namespace ProductLine

namespace Decision

variable {t low high : Decision} {bound level n : Nat} {answer : Bool}

/-- Answering a question fixes the branch, and questions that come later say nothing about it. -/
lemma Above.eval_restrict (h : t.Above bound) (x : Nat → Bool) :
    (t.restrict level answer).eval x = t.eval (Function.update x level answer) := by
  have hupdate : Function.update x level answer = fun m => if m = level then answer else x m := by
    funext m
    rw [Function.update_apply]
  induction t generalizing bound with
  | leaf b => rfl
  | node n low high ihl ihh =>
    have hnode := h
    obtain ⟨_, _, hl, hh⟩ := h
    rw [Decision.restrict]
    split
    · rename_i hn
      subst hn
      rw [hupdate, eval_node_update hl hh]
      cases answer <;> rfl
    · rename_i hne
      split
      · rename_i hlt
        have habove : (node n low high).Above (level + 1) := ⟨hlt, hnode.2⟩
        rw [hupdate, habove.eval_update (Nat.lt_succ_self level)]
      · rw [eval_join, ihl hl, ihh hh, eval, Function.update_of_ne hne]

/-- What a tree does not ask does not matter to it. -/
lemma eval_congr {x y : Nat → Bool} (h : ∀ m, t.asks m = true → x m = y m) : t.eval x = t.eval y := by
  induction t with
  | leaf b => rfl
  | node n low high ihl ihh =>
    simp only [asks, Bool.or_eq_true, beq_iff_eq] at h
    rw [eval, eval, h n (.inl (.inl rfl)), ihl fun m hm => h m (.inl (.inr hm)), ihh fun m hm => h m (.inr hm)]

/-- A question that is left out asks nothing. -/
lemma asks_of_join (h : (join n low high).asks level = true) :
    n = level ∨ low.asks level = true ∨ high.asks level = true := by
  rw [join] at h
  split at h
  · exact .inr (.inl h)
  · simpa [asks, or_assoc] using h

/-- A tree above a level does not ask it. -/
lemma Above.not_asks (h : t.Above bound) (hlevel : level < bound) : t.asks level = false := by
  induction t generalizing bound with
  | leaf b => rfl
  | node n low high ihl ihh =>
    obtain ⟨hn, _, hl, hh⟩ := h
    have hne : n ≠ level := by omega
    rw [asks, ihl hl (by omega), ihh hh (by omega), beq_eq_false_iff_ne.2 hne]
    rfl

/-- Answering a question leaves no other questions than those that were there, and not that one. -/
lemma Above.asks_restrict (h : t.Above bound) {m : Nat} (hm : (t.restrict level answer).asks m = true) :
    m ≠ level ∧ t.asks m = true := by
  induction t generalizing bound with
  | leaf b => cases hm
  | node n low high ihl ihh =>
    have hnode := h
    obtain ⟨_, _, hl, hh⟩ := h
    rw [Decision.restrict] at hm
    simp only [asks, Bool.or_eq_true, beq_iff_eq]
    split at hm
    · rename_i hn
      subst hn
      split at hm
      · refine ⟨?_, .inr hm⟩
        rintro rfl
        rw [hh.not_asks (Nat.lt_succ_self m)] at hm
        cases hm
      · refine ⟨?_, .inl (.inr hm)⟩
        rintro rfl
        rw [hl.not_asks (Nat.lt_succ_self m)] at hm
        cases hm
    · rename_i hne
      split at hm
      · rename_i hlt
        refine ⟨?_, by simpa [asks] using hm⟩
        rintro rfl
        have habove : (node n low high).Above (m + 1) := ⟨hlt, hnode.2⟩
        rw [habove.not_asks (Nat.lt_succ_self m)] at hm
        cases hm
      · rcases asks_of_join hm with rfl | hm | hm
        · exact ⟨hne, .inl (.inl rfl)⟩
        · exact ⟨(ihl hl hm).1, .inl (.inr (ihl hl hm).2)⟩
        · exact ⟨(ihh hh hm).1, .inr (ihh hh hm).2⟩

end Decision

namespace Region

variable {r : Region} {level : Nat}

/-- A product is in a restricted region if, with the answer given, it is in the region. -/
lemma holds_restrict (level : Nat) (answer : Bool) (r : Region) (x : Nat → Bool) :
    (r.restrict level answer).holds x = r.holds (Function.update x level answer) :=
  r.canonical.eval_restrict x

/-- Products that answer alike what a region depends on are both in it or both not. -/
lemma holds_congr_of_dependsOn {x y : Nat → Bool} (h : ∀ m, r.dependsOn m = true → x m = y m) :
    r.holds x = r.holds y :=
  Decision.eval_congr h

/-- A restricted region depends on what the region depends on, except the level answered. -/
lemma dependsOn_restrict {answer : Bool} {m : Nat} (h : (r.restrict level answer).dependsOn m = true) :
    m ≠ level ∧ r.dependsOn m = true :=
  r.canonical.asks_restrict h

/-- A region depends on a level exactly if the answer there matters for some product. -/
theorem dependsOn_iff : r.dependsOn level = true ↔
    ∃ x, r.holds (Function.update x level false) ≠ r.holds (Function.update x level true) := by
  constructor
  · intro hdepends
    by_contra hnone
    simp only [ne_eq, not_exists, not_not] at hnone
    -- then the region is what it becomes when the feature is taken, which does not depend on the level
    have hsame : r = r.restrict level false := by
      refine ext fun x => ?_
      rw [holds_restrict]
      cases hx : x level with
      | false => rw [← hx, Function.update_eq_self]
      | true => rw [hnone, ← hx, Function.update_eq_self]
    rw [hsame] at hdepends
    exact (dependsOn_restrict hdepends).1 rfl
  · rintro ⟨x, hx⟩
    by_contra hnot
    refine hx (holds_congr_of_dependsOn fun m hm => ?_)
    have hne : m ≠ level := by
      rintro rfl
      exact hnot hm
    rw [Function.update_of_ne hne, Function.update_of_ne hne]

/-- A region depends on no level beyond those that decide it. -/
lemma DecidedBy.of_dependsOn {levels : Nat → Prop} (h : r.DecidedBy levels) (hlevel : r.dependsOn level = true) :
    levels level := by
  obtain ⟨x, hx⟩ := dependsOn_iff.1 hlevel
  by_contra hnot
  refine hx (h _ _ fun m hm => ?_)
  have hne : m ≠ level := by
    rintro rfl
    exact hnot hm
  rw [Function.update_of_ne hne, Function.update_of_ne hne]

/-- A region is decided by the levels on which it depends. -/
lemma decidedBy_iff {levels : Nat → Prop} :
    r.DecidedBy levels ↔ ∀ level, r.dependsOn level = true → levels level := by
  constructor
  · exact fun h _ hlevel => h.of_dependsOn hlevel
  · exact fun h x y hxy => holds_congr_of_dependsOn fun level hlevel => hxy level (h level hlevel)

/-- A region within a bound depends on levels below it only. -/
lemma Within.lt_of_dependsOn {bound : Nat} (h : r.Within bound) (hlevel : r.dependsOn level = true) :
    level < bound :=
  (within_iff.1 h).of_dependsOn hlevel

/-- A region that depends on no level holds everything or nothing. -/
lemma eq_full_of_not_dependsOn (h : ∀ m, r.dependsOn m = false) {x : Nat → Bool} (hx : r.holds x = true) :
    r = .full := by
  refine ext fun y => ?_
  rw [holds_full, ← hx]
  refine holds_congr_of_dependsOn fun m hm => ?_
  rw [h m] at hm
  cases hm

end Region

end ProductLine
