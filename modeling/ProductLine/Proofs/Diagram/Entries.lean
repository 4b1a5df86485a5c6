import Mathlib.Data.List.Forall2
import Mathlib.Data.List.Pairwise
import Mathlib.Tactic.Common
import ProductLine.Diagram.Arithmetic

/-!
# Entries of diagrams

What a list of entries says about a product is the values that it takes there (`Diagram.Takes`). Sorting
keeps the entries (`arrange_perm`), adding entries one by one takes the values of all of them but zero
(`takes_ofEntries`), and the overlaps of two lists meet exactly where both take their values
(`takes_overlaps`). None of this needs the regions to be disjoint.
-/

namespace ProductLine

namespace Diagram

/-- Whether some entry has a value at a product. -/
def Takes (es : List Entry) (x : Nat → Bool) (v : Binary64) : Prop := ∃ r, (v, r) ∈ es ∧ r.holds x = true

/-- Without entries no value is taken. -/
@[simp] lemma not_takes_nil (x : Nat → Bool) (v : Binary64) : ¬ Takes [] x v := by
  rintro ⟨r, hr, _⟩
  cases hr

/-- A value is taken by the first entry or by a later one. -/
lemma takes_cons {e : Entry} {es : List Entry} {x : Nat → Bool} {v : Binary64} :
    Takes (e :: es) x v ↔ (e.1 = v ∧ e.2.holds x = true) ∨ Takes es x v := by
  constructor
  · rintro ⟨r, hr, hx⟩
    rcases List.mem_cons.1 hr with rfl | hr
    · exact .inl ⟨rfl, hx⟩
    · exact .inr ⟨r, hr, hx⟩
  · rintro (⟨rfl, hx⟩ | ⟨r, hr, hx⟩)
    · exact ⟨e.2, List.mem_cons_self, hx⟩
    · exact ⟨r, List.mem_cons_of_mem _ hr, hx⟩

/-- A value is taken by two lists of entries together exactly if one of them takes it. -/
lemma takes_append {es fs : List Entry} {x : Nat → Bool} {v : Binary64} :
    Takes (es ++ fs) x v ↔ Takes es x v ∨ Takes fs x v := by
  induction es with
  | nil => simp
  | cons e es ih => rw [List.cons_append, takes_cons, takes_cons, ih, or_assoc]

/-- The order of entries does not matter for which values are taken. -/
lemma Takes.perm {es fs : List Entry} {x : Nat → Bool} {v : Binary64} (h : es.Perm fs) :
    Takes es x v ↔ Takes fs x v :=
  exists_congr fun _ => and_congr_left fun _ => h.mem_iff

/-! Sorting -/

/-- Inserting an entry adds it, at whatever place. -/
lemma insertEntry_perm (sorted : List Entry) (e : Entry) : (insertEntry sorted e).Perm (e :: sorted) := by
  rw [insertEntry]
  refine List.perm_middle.trans (List.Perm.cons _ ?_)
  rw [List.take_append_drop]

/-- Inserting entries one by one adds them all. -/
lemma foldl_insertEntry_perm (rest sorted : List Entry) :
    (rest.foldl insertEntry sorted).Perm (sorted ++ rest) := by
  induction rest generalizing sorted with
  | nil => simp
  | cons e rest ih =>
    refine (ih _).trans (((insertEntry_perm sorted e).append_right rest).trans ?_)
    exact List.perm_middle.symm

/-- An ascending run and what comes behind it are all entries. -/
lemma ascending_append (last : Binary64) (es : List Entry) :
    (ascending last es).1 ++ (ascending last es).2 = es := by
  induction es generalizing last with
  | nil => rfl
  | cons e es ih =>
    rw [ascending]
    split
    · rfl
    · exact congrArg (e :: ·) (ih e.1)

/-- A descending run and what comes behind it are all entries. -/
lemma descending_append (last : Binary64) (es : List Entry) :
    (descending last es).1 ++ (descending last es).2 = es := by
  induction es generalizing last with
  | nil => rfl
  | cons e es ih =>
    rw [descending]
    split
    · exact congrArg (e :: ·) (ih e.1)
    · rfl

/-- Arranging entries by their runs keeps every one of them. -/
lemma arrangeByRun_perm (es : List Entry) : (arrangeByRun es).Perm es := by
  match es with
  | [] => exact .refl _
  | [e] => exact .refl _
  | e :: f :: rest =>
    simp only [arrangeByRun]
    split
    · refine (foldl_insertEntry_perm _ _).trans (((List.reverse_perm _).append_right _).trans ?_)
      rw [List.cons_append, List.cons_append, descending_append]
    · refine (foldl_insertEntry_perm _ _).trans ?_
      rw [List.cons_append, List.cons_append, ascending_append]

/-- Sorting keeps the entries. -/
theorem arrange_perm (es : List Entry) : (arrange es).Perm es := by
  rw [arrange]
  split
  · exact arrangeByRun_perm es
  · exact List.mergeSort_perm es _

/-! Adding entries -/

/-- What stands in a list after an entry was added: what stood there, the entry, or an entry of the same
value with both regions. -/
lemma mem_addEntry {es : List Entry} {e f : Entry} (h : f ∈ addEntry es e) :
    f ∈ es ∨ (e.1 ≠ .zero ∧ (f = e ∨ ∃ g ∈ es, g.1 = e.1 ∧ f = (g.1, g.2.union e.2))) := by
  rw [addEntry] at h
  split at h
  · exact .inl h
  · rename_i hzero
    split at h
    · obtain ⟨g, hg, rfl⟩ := List.mem_map.1 h
      split
      · exact .inr ⟨hzero, .inr ⟨g, hg, ‹_›, rfl⟩⟩
      · exact .inl hg
    · rcases List.mem_append.1 h with h | h
      · exact .inl h
      · exact .inr ⟨hzero, .inl (List.mem_singleton.1 h)⟩

/-- Adding an entry adds its value wherever its region holds, unless the value is zero. -/
lemma takes_addEntry {es : List Entry} {e : Entry} {x : Nat → Bool} {v : Binary64} :
    Takes (addEntry es e) x v ↔ Takes es x v ∨ (v ≠ .zero ∧ e.1 = v ∧ e.2.holds x = true) := by
  rw [addEntry]
  split
  · rename_i hzero
    constructor
    · exact .inl
    · rintro (h | ⟨hv, rfl, _⟩)
      · exact h
      · exact absurd hzero hv
  · rename_i hzero
    split
    · rename_i hthere
      simp only [Bool.and_eq_true, List.any_eq_true, beq_iff_eq] at hthere
      obtain ⟨-, ⟨w, r₀⟩, hmem, rfl⟩ := hthere
      -- the value has an entry, and its region is joined to that of the new one
      constructor
      · rintro ⟨r, hr, hx⟩
        obtain ⟨⟨u, s⟩, hs, heq⟩ := List.mem_map.1 hr
        split at heq
        · rename_i hu
          cases heq
          rcases (by simpa using hx : s.holds x = true ∨ e.2.holds x = true) with hx | hx
          · exact .inl ⟨s, hs, hx⟩
          · exact .inr ⟨fun h => hzero (hu ▸ h), hu.symm, hx⟩
        · cases heq
          exact .inl ⟨_, hs, hx⟩
      · rintro (⟨r, hr, hx⟩ | ⟨_, rfl, hx⟩)
        · by_cases hv : v = e.1
          · exact ⟨r.union e.2, List.mem_map.2 ⟨(v, r), hr, by simp [hv]⟩, by simp [hx]⟩
          · exact ⟨r, List.mem_map.2 ⟨(v, r), hr, by simp [hv]⟩, hx⟩
        · exact ⟨r₀.union e.2, List.mem_map.2 ⟨(e.1, r₀), hmem, by simp⟩, by simp [hx]⟩
    · -- the value is new, and its entry comes last
      rw [takes_append, takes_cons]
      refine or_congr_right ?_
      constructor
      · rintro (⟨rfl, hx⟩ | h)
        · exact ⟨hzero, rfl, hx⟩
        · exact absurd h (not_takes_nil x v)
      · rintro ⟨_, hv, hx⟩
        exact .inl ⟨hv, hx⟩

/-- Adding entries one by one takes the values of all of them, except zero. -/
lemma takes_foldl_addEntry {es acc : List Entry} {x : Nat → Bool} {v : Binary64} :
    Takes (es.foldl addEntry acc) x v ↔ Takes acc x v ∨ (v ≠ .zero ∧ Takes es x v) := by
  induction es generalizing acc with
  | nil => simp
  | cons e es ih =>
    rw [List.foldl_cons, ih, takes_addEntry, takes_cons, or_assoc]
    refine or_congr_right ?_
    rw [← and_or_left]

/-- A diagram made of entries takes their values, apart from zero. -/
theorem takes_ofEntries {owner : Owner} {es : List Entry} {x : Nat → Bool} {v : Binary64} :
    Takes (ofEntries owner es).regions x v ↔ v ≠ .zero ∧ Takes es x v := by
  rw [ofEntries, Takes.perm (arrange_perm _), takes_foldl_addEntry]
  simp

/-! Overlaps -/

/-- Two entries meet on the intersection of their regions, unless this is empty. -/
lemma mem_overlaps {es fs : List Entry} {v w : Binary64} {r : Region} :
    (v, w, r) ∈ overlaps es fs ↔ ∃ r₁ r₂, (v, r₁) ∈ es ∧ (w, r₂) ∈ fs ∧ r = r₁.inter r₂ ∧ r ≠ .empty := by
  simp only [overlaps, List.mem_flatMap, List.mem_filterMap]
  constructor
  · rintro ⟨⟨v', r₁⟩, h₁, ⟨w', r₂⟩, h₂, heq⟩
    split at heq
    · cases heq
    · cases heq
      exact ⟨r₁, r₂, h₁, h₂, rfl, ‹_›⟩
  · rintro ⟨r₁, r₂, h₁, h₂, rfl, hne⟩
    exact ⟨(v, r₁), h₁, (w, r₂), h₂, if_neg hne⟩

/-- Two lists of entries overlap at a product in exactly the values that both take there. -/
theorem takes_overlaps {es fs : List Entry} {x : Nat → Bool} {v w : Binary64} :
    (∃ r, (v, w, r) ∈ overlaps es fs ∧ r.holds x = true) ↔ Takes es x v ∧ Takes fs x w := by
  constructor
  · rintro ⟨r, hr, hx⟩
    obtain ⟨r₁, r₂, h₁, h₂, rfl, -⟩ := mem_overlaps.1 hr
    obtain ⟨hx₁, hx₂⟩ : r₁.holds x = true ∧ r₂.holds x = true := by simpa using hx
    exact ⟨⟨r₁, h₁, hx₁⟩, ⟨r₂, h₂, hx₂⟩⟩
  · rintro ⟨⟨r₁, h₁, hx₁⟩, ⟨r₂, h₂, hx₂⟩⟩
    have hx : (r₁.inter r₂).holds x = true := by simp [hx₁, hx₂]
    refine ⟨r₁.inter r₂, mem_overlaps.2 ⟨r₁, r₂, h₁, h₂, rfl, ?_⟩, hx⟩
    intro hempty
    rw [hempty] at hx
    cases hx

/-! The value at a product -/

/-- A diagram is nonzero exactly where one of its entries has a value. -/
lemma holds_nonzero (d : Diagram) (x : Nat → Bool) : d.nonzero.holds x = true ↔ ∃ v, Takes d.regions x v := by
  suffices h : ∀ (es : List Entry) (r : Region),
      (es.foldl (fun r e => r.union e.2) r).holds x = true ↔ r.holds x = true ∨ ∃ v, Takes es x v by
    simpa [nonzero] using h d.regions .empty
  intro es
  induction es with
  | nil => simp
  | cons e es ih =>
    intro r
    simp only [List.foldl_cons, ih, Region.holds_union, Bool.or_eq_true, takes_cons, exists_or, or_assoc]
    refine or_congr_right (or_congr_left ?_)
    exact ⟨fun h => ⟨e.1, rfl, h⟩, fun ⟨_, _, h⟩ => h⟩

/-- The value at a product is taken there, or it is zero and no value is. -/
lemma takes_valueAt_or (d : Diagram) (x : Nat → Bool) :
    Takes d.regions x (d.valueAt x) ∨ (d.valueAt x = .zero ∧ ∀ v, ¬ Takes d.regions x v) := by
  rw [valueAt]
  split
  · rename_i v r hfind
    have hx := List.find?_some hfind
    exact .inl ⟨r, List.mem_of_find?_eq_some hfind, hx⟩
  · rename_i hfind
    refine .inr ⟨rfl, ?_⟩
    rintro v ⟨r, hr, hx⟩
    exact List.find?_eq_none.1 hfind _ hr hx

end Diagram

end ProductLine
