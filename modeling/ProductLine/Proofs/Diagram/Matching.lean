import Mathlib.Data.List.Forall2
import Mathlib.Tactic.Common
import ProductLine.Expression.Basic
import ProductLine.Proofs.Diagram.Pointwise
import ProductLine.Proofs.FeatureSpace

/-!
# Diagrams that match across feature spaces

Two spaces may have declared different features, in different orders. A region of the one matches a region of the
other if both hold the same products, and diagrams match if they store the same values on matching regions, entry by
entry. What is computed from matching diagrams matches again, step by step, and fails with the same error
(`Expression.matches_solve`): only values are compared, and a region is empty exactly if the one that it matches is.
-/

namespace ProductLine

/-- Two results that are errors, the same one, or values that are related. -/
inductive Except.Matches {α β : Type} (R : α → β → Prop) : Except Error α → Except Error β → Prop where
  | error {e} : Matches R (.error e) (.error e)
  | ok {a b} : R a b → Matches R (.ok a) (.ok b)

/-- Results that match do so in every weaker sense. -/
lemma Except.Matches.imp {α β : Type} {R S : α → β → Prop} {x : Except Error α} {y : Except Error β}
    (h : Matches R x y) (himp : ∀ {a b}, R a b → S a b) : Matches S x y := by
  cases h with
  | error => exact .error
  | ok hab => exact .ok (himp hab)

/-- Functions that keep results matching may be applied to both. -/
lemma Except.Matches.map {α β γ δ : Type} {R : α → β → Prop} {S : γ → δ → Prop} {x : Except Error α}
    {y : Except Error β} (h : Matches R x y) {f : α → γ} {g : β → δ} (hmap : ∀ {a b}, R a b → S (f a) (g b)) :
    Matches S (x.map f) (y.map g) := by
  cases h with
  | error => exact .error
  | ok hab => exact .ok (hmap hab)

/-! Pairs with one key -/

section Keyed

variable {κ α β : Type} {R : α → β → Prop} {l : List (κ × α)} {m : List (κ × β)}

/-- Whether two pairs have the same key and related values. -/
def Keyed (R : α → β → Prop) (x : κ × α) (y : κ × β) : Prop := x.1 = y.1 ∧ R x.2 y.2

/-- Lists whose entries match have the same keys. -/
lemma keys_of_keyed (h : List.Forall₂ (Keyed R) l m) : l.map Prod.fst = m.map Prod.fst := by
  induction h with
  | nil => rfl
  | cons hxy _ ih => rw [List.map_cons, List.map_cons, hxy.1, ih]

/-- Lists whose entries match agree on whether some key has a property. -/
lemma any_of_keyed (h : List.Forall₂ (Keyed R) l m) (p : κ → Bool) : l.any (p ·.1) = m.any (p ·.1) := by
  induction h with
  | nil => rfl
  | cons hxy _ ih => rw [List.any_cons, List.any_cons, hxy.1, ih]

/-- Lists whose entries match have matching entries under each key. -/
lemma lookup_of_keyed [BEq κ] (h : List.Forall₂ (Keyed R) l m) (key : κ) :
    Option.Rel R (l.lookup key) (m.lookup key) := by
  induction h with
  | nil => exact .none
  | @cons x y _ _ hxy _ ih =>
    obtain ⟨k, a⟩ := x
    obtain ⟨k', b⟩ := y
    obtain ⟨rfl, hab⟩ := hxy
    cases hkey : key == k with
    | true =>
      simp only [List.lookup_cons, hkey]
      exact .some hab
    | false =>
      simp only [List.lookup_cons, hkey]
      exact ih

end Keyed

/-- Two spaces that declare no feature twice and keep numbers to the same places. -/
structure FeatureSpace.Comparable (s t : FeatureSpace) : Prop where
  left : s.features.Nodup
  right : t.features.Nodup
  places : s.owner.places = t.owner.places

/-- Whether a region of one space and a region of another one hold the same products. -/
structure Region.Matches (s t : FeatureSpace) (r r' : Region) : Prop where
  left : r.Within s.features.length
  right : r'.Within t.features.length
  holds : ∀ x, r.holds (s.product x) = r'.holds (t.product x)

section

variable {s t s' t' : FeatureSpace}

/-- Comparable spaces round numbers alike. -/
lemma FeatureSpace.Comparable.normalize (h : s.Comparable t) (v : Binary64) :
    s.owner.normalize v = t.owner.normalize v := by
  rw [Owner.normalize, Owner.normalize, h.places]

namespace Region.Matches

variable {r r' q q' : Region}

/-- Regions that match do so whatever is declared later. -/
lemma mono (h : Region.Matches s t r r') (hs : s.Extends s') (ht : t.Extends t') : Region.Matches s' t' r r' where
  left := h.left.mono hs.length_le
  right := h.right.mono ht.length_le
  holds x := by
    rw [h.left _ _ fun level hlevel => hs.product x hlevel, h.right _ _ fun level hlevel => ht.product x hlevel]
    exact h.holds x

/-- A constant region matches itself in any two spaces. -/
lemma const (s t : FeatureSpace) (b : Bool) : Region.Matches s t (.const b) (.const b) :=
  ⟨Region.within_const _ b, Region.within_const _ b, fun _ => rfl⟩

/-- The complements of matching regions match. -/
lemma compl (h : Region.Matches s t r r') : Region.Matches s t r.compl r'.compl :=
  ⟨h.left.compl, h.right.compl, fun x => by rw [Region.holds_compl, Region.holds_compl, h.holds]⟩

/-- The intersections of matching regions match. -/
lemma inter (h : Region.Matches s t r r') (h' : Region.Matches s t q q') :
    Region.Matches s t (r.inter q) (r'.inter q') :=
  ⟨h.left.inter h'.left, h.right.inter h'.right, fun x => by
    rw [Region.holds_inter, Region.holds_inter, h.holds, h'.holds]⟩

/-- The unions of matching regions match. -/
lemma union (h : Region.Matches s t r r') (h' : Region.Matches s t q q') :
    Region.Matches s t (r.union q) (r'.union q') :=
  ⟨h.left.union h'.left, h.right.union h'.right, fun x => by
    rw [Region.holds_union, Region.holds_union, h.holds, h'.holds]⟩

/-- Without features declared twice, a region that no product shows is empty. -/
lemma eq_empty (hs : s.features.Nodup) (hr : r.Within s.features.length)
    (h : ∀ x, r.holds (s.product x) = false) : r = .empty := by
  refine Region.ext fun y => ?_
  obtain ⟨x, hx⟩ := FeatureSpace.exists_product hs y
  rw [← hr _ _ hx, h x]
  rfl

/-- Of matching regions both are empty or none. -/
lemma eq_empty_iff (hspace : s.Comparable t) (h : Region.Matches s t r r') : r = .empty ↔ r' = .empty := by
  constructor
  · rintro rfl
    exact eq_empty hspace.right h.right fun x => (h.holds x).symm
  · rintro rfl
    exact eq_empty hspace.left h.left h.holds

end Region.Matches

namespace Diagram

/-- Whether two entries have one value on matching regions. -/
abbrev Entry.Matches (s t : FeatureSpace) : Entry → Entry → Prop := Keyed (Region.Matches s t)

/-- Whether diagrams of two spaces store the same values on matching regions, entry by entry. -/
structure Matches (s t : FeatureSpace) (d d' : Diagram) : Prop where
  left : d.owner = s.owner
  right : d'.owner = t.owner
  regions : List.Forall₂ (Entry.Matches s t) d.regions d'.regions

variable {es fs es' fs' : List Entry}

/-- Matching entries go on to match when further features are declared. -/
lemma Entry.Matches.mono {e f : Entry} (h : Entry.Matches s t e f) (hs : s.Extends s') (ht : t.Extends t') :
    Entry.Matches s' t' e f := ⟨h.1, h.2.mono hs ht⟩

/-- Matching diagrams go on to match when further features are declared. -/
lemma Matches.mono {d d' : Diagram} (h : Matches s t d d') (hs : s.Extends s') (ht : t.Extends t') :
    Matches s' t' d d' where
  left := h.left.trans hs.owner.symm
  right := h.right.trans ht.owner.symm
  regions := h.regions.imp fun _ _ he => he.mono hs ht

/-- Diagrams that match have the same value at every product. -/
lemma Matches.evaluate {d d' : Diagram} (h : Matches s t d d') (x : String → Bool) :
    d.evaluate s x = d'.evaluate t x := by
  have hfind {es fs : List Entry} (h : List.Forall₂ (Entry.Matches s t) es fs) :
      (es.find? (·.2.holds (s.product x))).map Prod.fst = (fs.find? (·.2.holds (t.product x))).map Prod.fst := by
    induction h with
    | nil => rfl
    | cons he _ ih =>
      rw [List.find?_cons, List.find?_cons, he.2.holds x]
      split
      · exact congrArg some he.1
      · exact ih
  have hvalue (d : Diagram) (y : Nat → Bool) :
      d.valueAt y = ((d.regions.find? (·.2.holds y)).map Prod.fst).getD .zero := by
    rw [valueAt]
    split
    · rename_i heq
      rw [heq, Option.map_some, Option.getD_some]
    · rename_i heq
      rw [heq, Option.map_none, Option.getD_none]
  rw [Diagram.evaluate, Diagram.evaluate, hvalue, hvalue, hfind h.regions]

/-! Sorting -/

/-- What stands in one list has its partner at the same place of a list related to it. -/
lemma exists_getElem? {α β : Type} {R : α → β → Prop} {l : List α} {m : List β} (h : List.Forall₂ R l m)
    {i : Nat} {a : α} (ha : l[i]? = some a) : ∃ b, m[i]? = some b ∧ R a b := by
  induction h generalizing i with
  | nil => cases ha
  | cons hab _ ih =>
    cases i with
    | zero =>
      cases ha
      exact ⟨_, rfl, hab⟩
    | succ i => exact ih ha

/-- The place at which a value goes depends on the values only. -/
lemma bisect_congr (h : List.Forall₂ (Entry.Matches s t) es fs) (v : Binary64) (low high : Nat) :
    bisect v es low high = bisect v fs low high := by
  fun_induction bisect v es low high with
  | case1 low high hlt middle w r hentry hlower ih =>
    obtain ⟨f, hf, hwf⟩ := exists_getElem? h hentry
    have hmiddle : fs[low + (high - low) / 2]? = some f := hf
    rw [ih, bisect.eq_def v fs low high, if_pos hlt]
    simp only [hmiddle, ← hwf.1, hlower, if_true]
    rfl
  | case2 low high hlt middle w r hentry hlower ih =>
    obtain ⟨f, hf, hwf⟩ := exists_getElem? h hentry
    have hmiddle : fs[low + (high - low) / 2]? = some f := hf
    rw [ih, bisect.eq_def v fs low high, if_pos hlt]
    simp only [hmiddle, ← hwf.1, hlower]
    rfl
  | case3 low high hlt middle hentry =>
    have hnone : fs[low + (high - low) / 2]? = none := by
      rw [List.getElem?_eq_none_iff] at hentry ⊢
      rwa [← h.length_eq]
    rw [bisect.eq_def v fs low high, if_pos hlt]
    simp only [hnone]
  | case4 low high hlt => rw [bisect.eq_def v fs low high, if_neg hlt]

/-- Matching entries are inserted at the same place. -/
lemma matches_insertEntry (h : List.Forall₂ (Entry.Matches s t) es fs) {e f : Entry} (he : Entry.Matches s t e f) :
    List.Forall₂ (Entry.Matches s t) (insertEntry es e) (insertEntry fs f) := by
  rw [insertEntry, insertEntry, ← h.length_eq, ← he.1, ← bisect_congr h]
  exact List.rel_append (List.forall₂_take _ h) (.cons he (List.forall₂_drop _ h))

/-- The ascending runs at the start of matching lists match, and so do the rests. -/
lemma matches_ascending (last : Binary64) (h : List.Forall₂ (Entry.Matches s t) es fs) :
    List.Forall₂ (Entry.Matches s t) (ascending last es).1 (ascending last fs).1 ∧
      List.Forall₂ (Entry.Matches s t) (ascending last es).2 (ascending last fs).2 := by
  induction h generalizing last with
  | nil => exact ⟨.nil, .nil⟩
  | cons hef hrest ih =>
    rw [ascending, ascending, ← hef.1]
    split
    · exact ⟨.nil, .cons hef hrest⟩
    · exact ⟨.cons hef (ih _).1, (ih _).2⟩

/-- The descending runs at the start of matching lists match, and so do the rests. -/
lemma matches_descending (last : Binary64) (h : List.Forall₂ (Entry.Matches s t) es fs) :
    List.Forall₂ (Entry.Matches s t) (descending last es).1 (descending last fs).1 ∧
      List.Forall₂ (Entry.Matches s t) (descending last es).2 (descending last fs).2 := by
  induction h generalizing last with
  | nil => exact ⟨.nil, .nil⟩
  | cons hef hrest ih =>
    rw [descending, descending, ← hef.1]
    split
    · exact ⟨.cons hef (ih _).1, (ih _).2⟩
    · exact ⟨.nil, .cons hef hrest⟩

/-- Inserting matching entries one by one gives matching lists. -/
lemma matches_foldl_insertEntry (hrest : List.Forall₂ (Entry.Matches s t) es fs)
    (h : List.Forall₂ (Entry.Matches s t) es' fs') :
    List.Forall₂ (Entry.Matches s t) (es.foldl insertEntry es') (fs.foldl insertEntry fs') :=
  List.rel_foldl (P := List.Forall₂ (Entry.Matches s t)) (R := Entry.Matches s t)
    (fun _ _ h _ _ he => matches_insertEntry h he) h hrest

/-- Matching lists are arranged alike by their runs. -/
lemma matches_arrangeByRun (h : List.Forall₂ (Entry.Matches s t) es fs) :
    List.Forall₂ (Entry.Matches s t) (arrangeByRun es) (arrangeByRun fs) := by
  cases h with
  | nil => exact .nil
  | @cons e f es fs he h =>
    cases h with
    | nil => exact .cons he .nil
    | @cons e' f' es fs he' h =>
      rw [arrangeByRun, arrangeByRun, ← he.1, ← he'.1]
      obtain ⟨hascending, hbehind⟩ := matches_ascending e'.1 h
      obtain ⟨hdescending, hbehind'⟩ := matches_descending e'.1 h
      split
      · exact matches_foldl_insertEntry hbehind' (List.rel_reverse (.cons he (.cons he' hdescending)))
      · exact matches_foldl_insertEntry hbehind (.cons he (.cons he' hascending))

/-- Sorting by values moves entries of one value alike. -/
lemma matches_mergeSort (h : List.Forall₂ (Entry.Matches s t) es fs) :
    List.Forall₂ (Entry.Matches s t) (es.mergeSort Entry.le) (fs.mergeSort Entry.le) := by
  -- both are the two sides of the sorted list of the pairs
  have hpairs : ∀ p ∈ es.zip fs, Entry.Matches s t p.1 p.2 := fun p hp => List.forall₂_zip h hp
  have hleft : ((es.zip fs).mergeSort fun p q => Entry.le p.1 q.1).map Prod.fst = es.mergeSort Entry.le := by
    rw [List.map_mergeSort (s := Entry.le) fun _ _ _ _ => rfl, List.map_fst_zip h.length_eq.le]
  have hright : ((es.zip fs).mergeSort fun p q => Entry.le p.1 q.1).map Prod.snd = fs.mergeSort Entry.le := by
    rw [List.map_mergeSort (s := Entry.le), List.map_snd_zip h.length_eq.ge]
    intro p hp q hq
    rw [Entry.le, Entry.le, (hpairs p hp).1, (hpairs q hq).1]
  rw [← hleft, ← hright, List.forall₂_map_left_iff, List.forall₂_map_right_iff, List.forall₂_same]
  exact fun p hp => hpairs p (List.mem_mergeSort.1 hp)

/-- Matching lists are arranged alike. -/
lemma matches_arrange (h : List.Forall₂ (Entry.Matches s t) es fs) :
    List.Forall₂ (Entry.Matches s t) (arrange es) (arrange fs) := by
  rw [arrange, arrange, any_of_keyed h]
  split
  · exact matches_arrangeByRun h
  · exact matches_mergeSort h

/-! Entries -/

/-- Adding matching entries to matching lists gives matching lists. -/
lemma matches_addEntry (h : List.Forall₂ (Entry.Matches s t) es fs) {e f : Entry} (he : Entry.Matches s t e f) :
    List.Forall₂ (Entry.Matches s t) (addEntry es e) (addEntry fs f) := by
  rw [addEntry, addEntry, any_of_keyed h (· == e.1), ← he.1]
  split
  · exact h
  · split
    · refine List.rel_map (fun a b hab => ?_) h
      rw [← hab.1]
      split
      · exact ⟨rfl, hab.2.union he.2⟩
      · exact hab
    · exact List.rel_append h (.cons he .nil)

/-- Diagrams made of matching entries match. -/
lemma matches_ofEntries (h : List.Forall₂ (Entry.Matches s t) es fs) :
    Matches s t (ofEntries s.owner es) (ofEntries t.owner fs) := by
  refine ⟨rfl, rfl, matches_arrange ?_⟩
  exact List.rel_foldl (P := List.Forall₂ (Entry.Matches s t)) (R := Entry.Matches s t)
    (fun _ _ h _ _ he => matches_addEntry h he) .nil h

/-! Operations -/

variable {a b a' b' d d' : Diagram}

/-- The constant diagrams of comparable spaces match. -/
lemma matches_constant (h : s.Comparable t) (v : Binary64) :
    Matches s t (constant s.owner v) (constant t.owner v) := by
  refine ⟨rfl, rfl, ?_⟩
  simp only [constant, ← h.normalize]
  split
  · exact .nil
  · exact .cons ⟨rfl, .const s t true⟩ .nil

/-- The diagrams of matching regions match. -/
lemma matches_ofRegion (hspace : s.Comparable t) {r r' : Region} (h : Region.Matches s t r r') :
    Matches s t (ofRegion s.owner r) (ofRegion t.owner r') := by
  refine ⟨rfl, rfl, ?_⟩
  by_cases hr : r = .empty
  · rw [ofRegion, ofRegion, if_pos hr, if_pos ((h.eq_empty_iff hspace).1 hr)]
    exact .nil
  · rw [ofRegion, ofRegion, if_neg hr, if_neg fun hr' => hr ((h.eq_empty_iff hspace).2 hr')]
    exact .cons ⟨rfl, h⟩ .nil

/-- The negations of matching diagrams match. -/
lemma matches_neg (hspace : s.Comparable t) (h : Matches s t d d') : Matches s t d.neg d'.neg := by
  refine ⟨h.left, h.right, matches_arrange (List.rel_map (fun e f he => ?_) h.regions)⟩
  refine ⟨?_, he.2⟩
  simp only [h.left, h.right, hspace.normalize, he.1]

/-- Where values meet in the one pair of diagrams they meet in the other. -/
def Meeting (s t : FeatureSpace) (p q : Binary64 × Binary64 × Region) : Prop :=
  p.1 = q.1 ∧ p.2.1 = q.2.1 ∧ Region.Matches s t p.2.2 q.2.2

/-- Matching lists of entries meet alike. -/
lemma matches_overlaps (hspace : s.Comparable t) (h : List.Forall₂ (Entry.Matches s t) es es')
    (h' : List.Forall₂ (Entry.Matches s t) fs fs') :
    List.Forall₂ (Meeting s t) (overlaps es fs) (overlaps es' fs') := by
  refine List.rel_flatMap h fun e e' he => List.rel_filterMap (fun f f' hf => ?_) h'
  have hboth := he.2.inter hf.2
  by_cases hempty : e.2.inter f.2 = .empty
  · simp only [hempty, (hboth.eq_empty_iff hspace).1 hempty, if_true]
    exact .none
  · simp only [hempty, mt (hboth.eq_empty_iff hspace).2 hempty, if_false]
    exact .some ⟨he.1, hf.1, hboth⟩

/-- Matching diagrams are nonzero on matching regions. -/
lemma matches_nonzero (h : Matches s t d d') : Region.Matches s t d.nonzero d'.nonzero :=
  List.rel_foldl (P := Region.Matches s t) (R := Entry.Matches s t) (fun _ _ h _ _ he => h.union he.2)
    (.const s t false) h.regions

/-- The covers of matching diagrams match, zeros included. -/
lemma matches_cover (hspace : s.Comparable t) (h : Matches s t d d') :
    List.Forall₂ (Entry.Matches s t) d.cover d'.cover := by
  have hzero := (matches_nonzero h).compl
  refine List.rel_append h.regions ?_
  by_cases hempty : d.nonzero.compl = .empty
  · rw [if_pos hempty, if_pos ((hzero.eq_empty_iff hspace).1 hempty)]
    exact .nil
  · rw [if_neg hempty, if_neg (mt (hzero.eq_empty_iff hspace).2 hempty)]
    exact .cons ⟨rfl, hzero⟩ .nil

/-- The products of matching diagrams match. -/
lemma matches_mul (hspace : s.Comparable t) (ha : Matches s t a a') (hb : Matches s t b b') :
    Matches s t (a.mul b) (a'.mul b') := by
  rw [mul, mul, ha.left, ha.right]
  refine matches_ofEntries (List.rel_map (fun p q hpq => ?_) (matches_overlaps hspace ha.regions hb.regions))
  refine ⟨?_, hpq.2.2⟩
  simp only [hspace.normalize, hpq.1, hpq.2.1]

/-- An operation applied to values that meet fails alike or has the same results on matching regions. -/
lemma matches_mapM (hspace : s.Comparable t) (op : Binary64 → Binary64 → Except Error Binary64)
    {ps qs : List (Binary64 × Binary64 × Region)} (h : List.Forall₂ (Meeting s t) ps qs) :
    Except.Matches (List.Forall₂ (Entry.Matches s t))
      (ps.mapM fun p => (op p.1 p.2.1).map fun u => (s.owner.normalize u, p.2.2))
      (qs.mapM fun p => (op p.1 p.2.1).map fun u => (t.owner.normalize u, p.2.2)) := by
  induction h with
  | nil => exact .ok .nil
  | @cons p q ps qs hpq _ ih =>
    rw [List.mapM_cons, List.mapM_cons, ← hpq.1, ← hpq.2.1]
    cases op p.1 p.2.1 with
    | error e => exact .error
    | ok u =>
      generalize (ps.mapM fun p => (op p.1 p.2.1).map fun u => (s.owner.normalize u, p.2.2)) = x at ih
      generalize (qs.mapM fun p => (op p.1 p.2.1).map fun u => (t.owner.normalize u, p.2.2)) = y at ih
      cases ih with
      | error => exact .error
      | ok hrest => exact .ok (.cons ⟨hspace.normalize u, hpq.2.2⟩ hrest)

/-- Combining matching diagrams fails alike or gives matching diagrams. -/
lemma matches_apply (hspace : s.Comparable t) (op : Binary64 → Binary64 → Except Error Binary64)
    (ha : Matches s t a a') (hb : Matches s t b b') :
    Except.Matches (Matches s t) (apply op a b) (apply op a' b') := by
  rw [apply, apply, applyTo, applyTo, ha.left, ha.right]
  exact (matches_mapM hspace op (matches_overlaps hspace (matches_cover hspace ha) (matches_cover hspace hb))).map
    fun hentries => matches_ofEntries hentries

/-- An operation on matching diagrams fails alike or gives matching diagrams. -/
lemma matches_operate (hspace : s.Comparable t) (op : Operation) (ha : Matches s t a a') (hb : Matches s t b b') :
    Except.Matches (Matches s t) (operate op a b) (operate op a' b') := by
  unfold operate
  rw [if_pos (ha.left.trans hb.left.symm), if_pos (ha.right.trans hb.right.symm)]
  cases op with
  | mul => exact .ok (matches_mul hspace ha hb)
  | _ => exact matches_apply hspace _ ha hb

end Diagram

/-! Expressions -/

/-- Whether two operands are diagrams that match, or the same datum. -/
inductive Operand.Matches (s t : FeatureSpace) : Operand → Operand → Prop where
  | diagram {d d'} : Diagram.Matches s t d d' → Matches s t (.diagram d) (.diagram d')
  | datum {value} : Matches s t (.datum value) (.datum value)

/-- Matching operands go on to match when further features are declared. -/
lemma Operand.Matches.mono {a b : Operand} (h : Operand.Matches s t a b) (hs : s.Extends s') (ht : t.Extends t') :
    Operand.Matches s' t' a b := by
  cases h with
  | diagram h => exact .diagram (h.mono hs ht)
  | datum => exact .datum

/-- Matching operands are refused alike or are matching diagrams. -/
lemma Operand.matches_toDiagram (hspace : s.Comparable t) {a b : Operand} (h : Operand.Matches s t a b) :
    Except.Matches (Diagram.Matches s t) (a.toDiagram s.owner) (b.toDiagram t.owner) := by
  cases h with
  | diagram h =>
    rw [toDiagram, toDiagram, if_pos h.left, if_pos h.right]
    exact .ok h
  | @datum value =>
    simp only [toDiagram]
    split
    · rename_i number _
      cases number with
      | error => exact .error
      | ok v => exact .ok (Diagram.matches_constant hspace v)
    · exact .error

namespace Expression

/-- Whether two lists of bindings bind the same names, in the same order, to operands that match. -/
def Bindings.Matches (s t : FeatureSpace) (b b' : Bindings) : Prop :=
  List.Forall₂ (Keyed (Operand.Matches s t)) b b'

variable {b b' : Bindings}

/-- Matching bindings go on to match when further features are declared. -/
lemma Bindings.Matches.mono (h : Bindings.Matches s t b b') (hs : s.Extends s') (ht : t.Extends t') :
    Bindings.Matches s' t' b b' :=
  h.imp fun _ _ hxy => ⟨hxy.1, hxy.2.mono hs ht⟩

/-- Matching bindings match after a name is bound to matching operands in both. -/
lemma Bindings.Matches.put (h : Bindings.Matches s t b b') {name : String} {v v' : Operand}
    (hv : Operand.Matches s t v v') : Bindings.Matches s t (b.put name v) (b'.put name v') := by
  rw [Bindings.put, Bindings.put, any_of_keyed h (· == name)]
  split
  · refine List.rel_map (fun x y hxy => ?_) h
    rw [← hxy.1]
    split
    · exact ⟨rfl, hv⟩
    · exact hxy
  · exact List.rel_append h (.cons ⟨rfl, hv⟩ .nil)

/-- Matching bindings bind the same names. -/
lemma Bindings.Matches.names (h : Bindings.Matches s t b b') : b.names = b'.names := by
  rw [Bindings.names, Bindings.names, keys_of_keyed h]

/-- An expression is solved alike with bindings that match. -/
theorem matches_solve (hspace : s.Comparable t) (h : Bindings.Matches s t b b') (e : Expression) :
    Except.Matches (Diagram.Matches s t) (e.solve s.owner b) (e.solve t.owner b') := by
  induction e with
  | int n => exact Operand.matches_toDiagram hspace .datum
  | float v => exact .ok (Diagram.matches_constant hspace v)
  | name text =>
    have hget := lookup_of_keyed h text
    rw [solve, solve, h.names, Bindings.get?, Bindings.get?]
    generalize b.lookup text = o at hget
    generalize b'.lookup text = o' at hget
    cases hget with
    | none => exact .error
    | some hv => exact Operand.matches_toDiagram hspace hv
  | neg e ih =>
    rw [solve, solve]
    exact ih.map (Diagram.matches_neg hspace)
  | pos e ih => exact ih
  | binary op left right ihl ihr =>
    rw [solve, solve]
    generalize left.solve s.owner b = x at ihl
    generalize left.solve t.owner b' = y at ihl
    cases ihl with
    | error => exact .error
    | ok hl =>
      simp only
      generalize right.solve s.owner b = x at ihr
      generalize right.solve t.owner b' = y at ihr
      cases ihr with
      | error => exact .error
      | ok hr => exact Diagram.matches_operate hspace op hl hr

end Expression

end

end ProductLine
