import Mathlib.Order.WellFounded
import Mathlib.Tactic.Common
import ProductLine.Proofs.Graph.Walk

/-!
# Preorder

The walk below a root keeps a stack of the nodes that it is still to go to, on which an id may stand many
times. What it meets is nevertheless what a recursion meets that goes below each node before it goes on to the
next one (`walk_eq_preorder`): the nodes at the top of the stack are done with before those below them
(`preorder_append`). The walk turn by turn (`Tour`) ends because each turn leaves fewer ids to meet or fewer
nodes on the stack, and what it has met so far, continued by the recursion, stays the same
(`Tour.Turn.completion`).
-/

namespace ProductLine

namespace Graph

variable {g : Graph}

section Preorder

variable {κ : Type} [DecidableEq κ]

/-- The nodes met when each node whose key was not seen before is met, then those below it, then the nodes
after it. -/
def preorder (g : Graph) (key : Fin g.size → κ) (next : Fin g.size → List (Fin g.size)) :
    (seen : List κ) → (nodes : List (Fin g.size)) → List (Fin g.size)
  | _, [] => []
  | seen, i :: rest =>
    if _ : key i ∈ seen then preorder g key next seen rest
    else
      let below := preorder g key next (seen ++ [key i]) (next i)
      i :: (below ++ preorder g key next (seen ++ key i :: below.map key) rest)
termination_by seen nodes => (g.unseen key seen, nodes.length)
decreasing_by
  · exact Prod.Lex.right _ (Nat.lt_succ_self _)
  · exact Prod.Lex.left _ _ (g.unseen_lt key ‹_› (by simp) fun _ hk => List.mem_append_left _ hk)
  · exact Prod.Lex.left _ _ (g.unseen_lt key ‹_› (by simp) fun _ hk => List.mem_append_left _ hk)

variable {key : Fin g.size → κ} {next : Fin g.size → List (Fin g.size)}

/-- With no nodes left nothing is met. -/
lemma preorder_nil (seen : List κ) : g.preorder key next seen [] = [] := by
  rw [preorder]

/-- A node whose key was seen is passed over. -/
lemma preorder_of_mem {seen : List κ} {i : Fin g.size} (h : key i ∈ seen) (rest : List (Fin g.size)) :
    g.preorder key next seen (i :: rest) = g.preorder key next seen rest := by
  rw [preorder, dif_pos h]

/-- A new node is met, then the new ones below it, then those after it. -/
lemma preorder_of_not_mem {seen : List κ} {i : Fin g.size} (h : key i ∉ seen) (rest : List (Fin g.size)) :
    g.preorder key next seen (i :: rest) =
      i :: (g.preorder key next (seen ++ [key i]) (next i) ++
        g.preorder key next (seen ++ key i :: (g.preorder key next (seen ++ [key i]) (next i)).map key) rest) := by
  rw [preorder, dif_neg h]

/-- The recursion is done with some nodes before it goes on to those after them. -/
lemma preorder_append (seen : List κ) (nodes more : List (Fin g.size)) :
    g.preorder key next seen (nodes ++ more) =
      g.preorder key next seen nodes ++
        g.preorder key next (seen ++ (g.preorder key next seen nodes).map key) more := by
  fun_induction preorder g key next seen nodes with
  | case1 seen => rw [List.nil_append, List.map_nil, List.append_nil, List.nil_append]
  | case2 seen i rest hi ih => rw [List.cons_append, preorder_of_mem hi, ih]
  | case3 seen i rest hi below _ ih =>
    rw [List.cons_append, preorder_of_not_mem hi, ih]
    simp only [below, List.cons_append, List.append_assoc, List.map_cons, List.map_append]

/-- A node that is met is followed by what a stack with its successors on top leads to. -/
lemma preorder_push {seen : List κ} {i : Fin g.size} (h : key i ∉ seen) (stack : List (Fin g.size)) :
    g.preorder key next seen (i :: stack) = i :: g.preorder key next (seen ++ [key i]) (next i ++ stack) := by
  rw [preorder_of_not_mem h, preorder_append, List.append_assoc, List.singleton_append]

/-- A walk with a stack meets what the recursion meets. -/
theorem walk_eq_preorder (seen : List κ) (stack : List (Fin g.size)) :
    g.walk key next seen stack = g.preorder key next seen.reverse stack := by
  fun_induction walk g key next seen stack with
  | case1 seen => rw [preorder_nil]
  | case2 seen i stack hi ih => rw [ih, preorder_of_mem (List.mem_reverse.2 hi)]
  | case3 seen i stack hi ih =>
    rw [ih, List.reverse_cons]
    apply (preorder_push _ stack).symm
    exact fun hmem => hi (List.mem_reverse.1 hmem)

end Preorder

/-- A walk under way: the nodes met so far, in this order, and those that it is still to go to, the next one
first. -/
structure Tour (g : Graph) where
  met : List (Fin g.size)
  stack : List (Fin g.size)

namespace Tour

variable {t u : Tour g} {root : Fin g.size}

/-- The walk below a root that is about to begin. -/
def start (root : Fin g.size) : Tour g := ⟨[], [root]⟩

/-- One turn of a walk: it passes over a node whose id was met or meets it and goes on to its children. -/
inductive Turn : Tour g → Tour g → Prop where
  | pass {met stack : List (Fin g.size)} {i : Fin g.size} (h : g.id i ∈ met.map g.id) :
    Turn ⟨met, i :: stack⟩ ⟨met, stack⟩
  | meet {met stack : List (Fin g.size)} {i : Fin g.size} (h : g.id i ∉ met.map g.id) :
    Turn ⟨met, i :: stack⟩ ⟨met ++ [i], g.children i ++ stack⟩

/-- What a walk has met and, continued by the recursion, will meet. -/
def completion (t : Tour g) : List (Fin g.size) :=
  t.met ++ g.preorder g.id g.children (t.met.map g.id) t.stack

/-- A turn changes nothing about what a walk meets in the end. -/
lemma Turn.completion (h : Turn t u) : u.completion = t.completion := by
  cases h with
  | pass h => rw [Tour.completion, Tour.completion, preorder_of_mem h]
  | meet h =>
    rw [Tour.completion, Tour.completion, preorder_push h, List.append_assoc, List.singleton_append,
      List.map_append, List.map_singleton]

/-- What a walk meets in the end stays the same with every turn. -/
lemma completion_of_run (h : Relation.ReflTransGen Turn t u) : u.completion = t.completion := by
  induction h with
  | refl => rfl
  | tail _ hturn ih => exact hturn.completion.trans ih

/-- What falls with every turn: meeting a node leaves fewer ids to meet, passing over one fewer nodes on the
stack. -/
def measure (t : Tour g) : Nat × Nat := (g.unseen g.id (t.met.map g.id), t.stack.length)

/-- Every turn leaves less to be done. -/
lemma Turn.measure (h : Turn t u) : Prod.Lex (· < ·) (· < ·) u.measure t.measure := by
  cases h with
  | pass h => exact .right _ (Nat.lt_succ_self _)
  | meet h =>
    apply Prod.Lex.left
    apply g.unseen_lt g.id h
    · simp
    · intro k hk
      rw [List.map_append]
      exact List.mem_append_left _ hk

/-- There is no endless walk. -/
lemma wellFounded : WellFounded fun u t : Tour g => Turn t u :=
  Subrelation.wf (fun h => Turn.measure h) (InvImage.wf measure (Prod.lex Nat.lt_wfRel Nat.lt_wfRel).wf)

/-- Every walk ends with nothing on its stack. -/
lemma exists_end (t : Tour g) : ∃ met, Relation.ReflTransGen Turn t ⟨met, []⟩ := by
  induction t using wellFounded.induction with
  | _ t ih =>
    obtain ⟨met, stack⟩ := t
    cases stack with
    | nil => exact ⟨met, .refl⟩
    | cons i stack =>
      have hturn : ∃ u, Turn ⟨met, i :: stack⟩ u := by
        by_cases hi : g.id i ∈ met.map g.id
        · exact ⟨_, .pass hi⟩
        · exact ⟨_, .meet hi⟩
      obtain ⟨u, hturn⟩ := hturn
      obtain ⟨last, hrun⟩ := ih u hturn
      exact ⟨last, .head hturn hrun⟩

end Tour

variable {root i : Fin g.size}

/-- The nodes collected below a root are those that the recursion meets. -/
lemma descendants_eq_preorder (g : Graph) (root : Fin g.size) :
    g.descendants root = g.preorder g.id g.children [] [root] :=
  walk_eq_preorder [] [root]

/-- A walk that has ended met the nodes below the root. -/
lemma Tour.met_of_run {met : List (Fin g.size)} (h : Relation.ReflTransGen Turn (start root) ⟨met, []⟩) :
    met = g.descendants root := by
  have hend : (Tour.mk met []).completion = met := by
    rw [completion, preorder_nil, List.append_nil]
  calc
    met = (start root).completion := hend.symm.trans (completion_of_run h)
    _ = g.preorder g.id g.children [] [root] := rfl
    _ = g.descendants root := (descendants_eq_preorder g root).symm

/-- Every node collected can be reached from the root. -/
lemma reaches_of_mem_descendants (h : i ∈ g.descendants root) : g.Reaches root i := by
  apply forall_mem_walk _ [] [root] _ i h
  · intro i hi c hc
    exact hi.tail hc
  · intro i hi
    obtain rfl := List.mem_singleton.1 hi
    exact .refl

/-- Below a root where ids are distinct, the nodes met are those that can be reached. -/
lemma DistinctIds.mem_descendants (hdistinct : g.DistinctIds root) : i ∈ g.descendants root ↔ g.Reaches root i := by
  -- a node that is reached has the id of one that is met, which is the same node then
  have hmem {j : Fin g.size} (hj : g.Reaches root j) (hid : g.id j ∈ [] ++ (g.descendants root).map g.id) :
      j ∈ g.descendants root := by
    obtain ⟨k, hk, hkj⟩ := List.mem_map.1 hid
    rwa [hdistinct j k hj (reaches_of_mem_descendants hk) hkj.symm]
  constructor
  · exact reaches_of_mem_descendants
  · intro h
    induction h with
    | refl => exact hmem .refl (key_mem_of_mem_stack [] [root] root List.mem_cons_self)
    | tail hj hc ih => exact hmem (hj.tail hc) (key_mem_of_mem_next [] [root] _ ih _ hc)

/-- On every graph the walk below a root ends and meets what the recursion meets: no id twice, the root first,
and where ids are distinct exactly the nodes that can be reached. -/
theorem descendants_preorder (g : Graph) (root : Fin g.size) :
    (∀ tours : Nat → Tour g, ∃ n, ¬ (tours n).Turn (tours (n + 1))) ∧
    (∀ tour, Relation.ReflTransGen Tour.Turn (.start root) tour →
      Relation.ReflTransGen Tour.Turn tour ⟨g.descendants root, []⟩) ∧
    g.descendants root = g.preorder g.id g.children [] [root] ∧
    ((g.descendants root).map g.id).Nodup ∧
    (g.descendants root).head? = some root ∧
    (g.DistinctIds root → ∀ i, i ∈ g.descendants root ↔ g.Reaches root i) := by
  refine ⟨?_, ?_, descendants_eq_preorder g root, nodup_walk [] [root], ?_, fun h i => h.mem_descendants⟩
  · intro tours
    have : IsWellFounded (Tour g) fun u t => t.Turn u := ⟨Tour.wellFounded⟩
    exact WellFounded.not_rel_apply_succ (r := fun u t : Tour g => t.Turn u) tours
  · intro tour hrun
    obtain ⟨met, hend⟩ := tour.exists_end
    rwa [Tour.met_of_run (hrun.trans hend)] at hend
  · rw [descendants_eq_preorder, preorder_of_not_mem List.not_mem_nil]
    rfl

/-- The walk around a node that is its own child meets this node. -/
theorem descendants_loop :
    (loop "r" (.formula "a") (.datum .null)).DistinctIds (0 : Fin 1) ∧
      (0 : Fin 1) ∈ (loop "r" (.formula "a") (.datum .null)).children (0 : Fin 1) ∧
      ∀ i, i ∈ (loop "r" (.formula "a") (.datum .null)).descendants (0 : Fin 1) ↔
        (loop "r" (.formula "a") (.datum .null)).Reaches (0 : Fin 1) i := by
  have hdistinct : (loop "r" (.formula "a") (.datum .null)).DistinctIds (0 : Fin 1) :=
    fun i j _ _ _ => Subsingleton.elim (α := Fin 1) i j
  obtain ⟨_, _, _, _, _, hreached⟩ := descendants_preorder (loop "r" (.formula "a") (.datum .null)) (0 : Fin 1)
  exact ⟨hdistinct, List.mem_cons_self, hreached hdistinct⟩

end Graph

end ProductLine
