import Mathlib.Data.List.Nodup
import ProductLine.Graph.Validation
import ProductLine.Proofs.FeatureSpace
import ProductLine.Proofs.Graph.Reachability

/-!
# Walks

A walk meets no key twice, and every node that it meets can be reached from where it started. It meets the
keys of all nodes that can be. So the nodes that are collected below a root are there once each and are those
below the root (`nodup_reachable`, `mem_reachable`), and no shared id is found among them exactly if no two of
them have the same id (`sharedIds_eq_nil`).
-/

namespace ProductLine

namespace Graph

variable {g : Graph}

section Walk

variable {κ : Type} [DecidableEq κ] {key : Fin g.size → κ} {next : Fin g.size → List (Fin g.size)}

/-- No node that a walk meets has a key that was seen before. -/
lemma not_mem_of_mem_walk (seen : List κ) (stack : List (Fin g.size)) :
    ∀ i ∈ g.walk key next seen stack, key i ∉ seen := by
  fun_induction walk g key next seen stack with
  | case1 seen => simp
  | case2 seen i stack hi ih => exact ih
  | case3 seen i stack hi ih =>
    intro j hj
    rcases List.mem_cons.1 hj with rfl | hj
    · exact hi
    · exact fun hseen => ih j hj (List.mem_cons_of_mem _ hseen)

/-- A walk meets no key twice. -/
lemma nodup_walk (seen : List κ) (stack : List (Fin g.size)) : ((g.walk key next seen stack).map key).Nodup := by
  fun_induction walk g key next seen stack with
  | case1 seen => exact .nil
  | case2 seen i stack hi ih => exact ih
  | case3 seen i stack hi ih =>
    rw [List.map_cons]
    apply List.nodup_cons.2
    refine ⟨?_, ih⟩
    intro hmem
    obtain ⟨j, hj, hkey⟩ := List.mem_map.1 hmem
    apply not_mem_of_mem_walk _ _ j hj
    rw [hkey]
    exact List.mem_cons_self

/-- What holds where a walk starts and is handed on by its steps holds for every node that it meets. -/
lemma forall_mem_walk {P : Fin g.size → Prop} (hnext : ∀ i, P i → ∀ c ∈ next i, P c) (seen : List κ)
    (stack : List (Fin g.size)) (hstack : ∀ i ∈ stack, P i) : ∀ i ∈ g.walk key next seen stack, P i := by
  fun_induction walk g key next seen stack with
  | case1 seen => simp
  | case2 seen i stack hi ih => exact ih fun j hj => hstack j (List.mem_cons_of_mem i hj)
  | case3 seen i stack hi ih =>
    have hPi := hstack i List.mem_cons_self
    intro j hj
    rcases List.mem_cons.1 hj with rfl | hj
    · exact hPi
    · apply ih _ j hj
      intro c hc
      rcases List.mem_append.1 hc with hc | hc
      · exact hnext i hPi c hc
      · exact hstack c (List.mem_cons_of_mem i hc)

/-- The key of each node that a walk is still to go to was seen before or is met. -/
lemma key_mem_of_mem_stack (seen : List κ) (stack : List (Fin g.size)) :
    ∀ i ∈ stack, key i ∈ seen ++ (g.walk key next seen stack).map key := by
  fun_induction walk g key next seen stack with
  | case1 seen => simp
  | case2 seen i stack hi ih =>
    intro j hj
    rcases List.mem_cons.1 hj with rfl | hj
    · exact List.mem_append_left _ hi
    · exact ih j hj
  | case3 seen i stack hi ih =>
    intro j hj
    rw [List.map_cons]
    rcases List.mem_cons.1 hj with rfl | hj
    · simp
    · exact List.perm_middle.mem_iff.2 (ih j (List.mem_append_right _ hj))

/-- The key of each node that a walk goes on to from one that it meets was seen before or is met. -/
lemma key_mem_of_mem_next (seen : List κ) (stack : List (Fin g.size)) :
    ∀ i ∈ g.walk key next seen stack, ∀ c ∈ next i, key c ∈ seen ++ (g.walk key next seen stack).map key := by
  fun_induction walk g key next seen stack with
  | case1 seen => simp
  | case2 seen i stack hi ih => exact ih
  | case3 seen i stack hi ih =>
    intro j hj c hc
    rw [List.map_cons]
    apply List.perm_middle.mem_iff.2
    rcases List.mem_cons.1 hj with rfl | hj
    · exact key_mem_of_mem_stack (key j :: seen) (next j ++ stack) c (List.mem_append_left _ hc)
    · exact ih j hj c hc

end Walk

/-- The nodes that are collected below a root are there once each. -/
lemma nodup_reachable (g : Graph) (root : Fin g.size) : (g.reachable root).Nodup := by
  have hnodup : ((g.reachable root).map fun i => i).Nodup := nodup_walk [] [root]
  rwa [List.map_id'] at hnodup

/-- The nodes that are collected below a root are below it. -/
lemma reaches_of_mem_reachable {root : Fin g.size} : ∀ i ∈ g.reachable root, g.Reaches root i := by
  apply forall_mem_walk
  · intro i hi c hc
    exact hi.tail (List.mem_reverse.1 hc)
  · intro i hi
    obtain rfl := List.mem_singleton.1 hi
    exact .refl

/-- The nodes that are collected below a root are those that can be reached from it. -/
theorem mem_reachable {root i : Fin g.size} : i ∈ g.reachable root ↔ g.Reaches root i := by
  constructor
  · exact reaches_of_mem_reachable i
  · intro h
    induction h with
    | refl =>
      have hmem : root ∈ [] ++ (g.reachable root).map fun i => i :=
        key_mem_of_mem_stack [] [root] root List.mem_cons_self
      rwa [List.nil_append, List.map_id'] at hmem
    | tail _ hc ih =>
      have hmem := key_mem_of_mem_next [] [root] _ ih _ (List.mem_reverse.2 hc)
      rwa [List.nil_append, List.map_id'] at hmem

/-- No shared id is found among nodes exactly if their ids are distinct. -/
lemma sharedIds_eq_nil {nodes : List (Fin g.size)} : g.sharedIds nodes = [] ↔ (nodes.map g.id).Nodup := by
  simp only [sharedIds, List.map_eq_nil_iff, List.filter_eq_nil_iff, List.mem_mergeSort, decide_eq_true_eq, not_lt,
    Formula.mem_distinct, List.nodup_iff_count_le_one]
  constructor
  · intro h id
    by_cases hid : id ∈ nodes.map g.id
    · exact h id ⟨hid, List.not_mem_nil⟩
    · rw [List.count_eq_zero.2 hid]
      exact Nat.zero_le 1
  · exact fun h id _ => h id

/-- If no two nodes below a root have the same id, no shared id is found there. -/
lemma DistinctIds.sharedIds_eq_nil {root : Fin g.size} (h : g.DistinctIds root) :
    g.sharedIds (g.reachable root) = [] := by
  apply Graph.sharedIds_eq_nil.2
  apply (g.nodup_reachable root).map_on
  intro i hi j hj hid
  exact h i j (reaches_of_mem_reachable i hi) (reaches_of_mem_reachable j hj) hid

end Graph

end ProductLine
