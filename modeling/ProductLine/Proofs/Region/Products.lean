import Mathlib.Data.List.Nodup
import ProductLine.Proofs.Region.Restriction

/-!
# Products of a region

The assignments of some levels in a region are enumerated by answering the questions in order, and counted by
doubling wherever an answer does not matter. Both agree (`length_products`), no assignment is listed twice
(`nodup_products`), and if the region depends on none but the levels given, those listed are the answers of
its products (`mem_products`).
-/

namespace ProductLine

namespace Region

variable {r : Region} {levels : List Nat}

/-- Answering a question that does not matter changes nothing. -/
lemma restrict_eq_self {level : Nat} (h : r.dependsOn level = false) (answer : Bool) :
    r.restrict level answer = r := by
  refine ext fun x => ?_
  rw [holds_restrict]
  refine holds_congr_of_dependsOn fun m hm => ?_
  have hne : m ≠ level := by
    rintro rfl
    rw [h] at hm
    cases hm
  rw [Function.update_of_ne hne]

/-- Nothing is not everything. -/
lemma empty_ne_full : empty ≠ full := nofun

/-- The empty region has no products. -/
lemma products_empty (levels : List Nat) : empty.products levels = [] := by
  cases levels with
  | nil => exact if_neg empty_ne_full
  | cons level levels => exact if_pos rfl

/-- What is listed goes on with either answer. -/
lemma products_cons (level : Nat) (levels : List Nat) (r : Region) : r.products (level :: levels) =
    ((r.restrict level false).products levels).map (false :: ·) ++
      ((r.restrict level true).products levels).map (true :: ·) := by
  rw [products]
  split
  · rename_i hempty
    have hrestrict (answer : Bool) : empty.restrict level answer = empty := restrict_eq_self rfl answer
    rw [hempty, hrestrict, hrestrict, products_empty]
    rfl
  · rfl

/-- A product goes on with one of the region in which its first answer is given. -/
lemma cons_mem_products {level : Nat} {answer : Bool} {bits : List Bool} :
    answer :: bits ∈ r.products (level :: levels) ↔ bits ∈ (r.restrict level answer).products levels := by
  rw [products_cons, List.mem_append, List.mem_map, List.mem_map]
  cases answer <;> simp

/-- No assignment is listed twice. -/
theorem nodup_products (levels : List Nat) (r : Region) : (r.products levels).Nodup := by
  induction levels generalizing r with
  | nil =>
    rw [products]
    split
    · exact List.nodup_singleton _
    · exact .nil
  | cons level levels ih =>
    rw [products_cons]
    refine ((ih _).map List.cons_injective).append ((ih _).map List.cons_injective) ?_
    intro bits hfalse htrue
    obtain ⟨_, _, rfl⟩ := List.mem_map.1 hfalse
    obtain ⟨_, _, heq⟩ := List.mem_map.1 htrue
    cases heq

/-- As many assignments are listed as are counted. -/
theorem length_products (levels : List Nat) (r : Region) : (r.products levels).length = r.count levels := by
  induction levels generalizing r with
  | nil =>
    rw [products, count]
    split <;> rfl
  | cons level levels ih =>
    rw [products_cons, List.length_append, List.length_map, List.length_map, ih, ih, count]
    split
    · rfl
    · rename_i hdepends
      have hnot : r.dependsOn level = false := by simpa using hdepends
      rw [restrict_eq_self hnot, restrict_eq_self hnot, Nat.two_mul]

/-- The assignments listed are the answers of the products of the region. -/
theorem mem_products (hlevels : levels.Nodup) (h : ∀ level, r.dependsOn level = true → level ∈ levels)
    {bits : List Bool} : bits ∈ r.products levels ↔ ∃ x, r.holds x = true ∧ levels.map x = bits := by
  induction levels generalizing r bits with
  | nil =>
    have hnone : ∀ m, r.dependsOn m = false := fun m => by simpa using mt (h m) List.not_mem_nil
    rw [products]
    constructor
    · intro hbits
      split at hbits
      · rename_i hfull
        obtain rfl := List.mem_singleton.1 hbits
        exact ⟨fun _ => false, by rw [hfull, holds_full], rfl⟩
      · cases hbits
    · rintro ⟨x, hx, rfl⟩
      rw [if_pos (eq_full_of_not_dependsOn hnone hx)]
      exact List.mem_singleton_self _
  | cons level levels ih =>
    obtain ⟨hlevel, hlevels⟩ := List.nodup_cons.1 hlevels
    have hrest (answer : Bool) : ∀ m, (r.restrict level answer).dependsOn m = true → m ∈ levels := by
      intro m hm
      obtain ⟨hne, hdepends⟩ := dependsOn_restrict hm
      exact (List.mem_cons.1 (h m hdepends)).resolve_left hne
    -- the answer given is that of a product, and the other answers are not changed by it
    have hmap (x : Nat → Bool) (answer : Bool) : levels.map (Function.update x level answer) = levels.map x := by
      refine List.map_congr_left fun m hm => Function.update_of_ne ?_ _ _
      rintro rfl
      exact hlevel hm
    cases bits with
    | nil =>
      refine iff_of_false ?_ fun ⟨x, _, hx⟩ => List.cons_ne_nil _ _ hx
      rw [products_cons]
      simp
    | cons answer bits =>
      rw [cons_mem_products, ih hlevels (hrest answer)]
      constructor
      · rintro ⟨x, hx, rfl⟩
        rw [holds_restrict] at hx
        exact ⟨_, hx, by rw [List.map_cons, Function.update_self, hmap]⟩
      · rintro ⟨x, hx, hbits⟩
        obtain ⟨rfl, rfl⟩ := List.cons.inj hbits
        exact ⟨x, by rw [holds_restrict, Function.update_eq_self, hx], rfl⟩

end Region

end ProductLine
