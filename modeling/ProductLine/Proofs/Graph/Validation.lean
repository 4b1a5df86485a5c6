import Mathlib.Data.Set.Card
import Mathlib.Tactic.Common
import ProductLine.Proofs.Graph.Search
import ProductLine.Proofs.Graph.Walk

/-!
# What the structure of a graph is reported for

The structure of a graph is looked at in two ways: nodes are collected as such, cycles are searched by ids. Nothing
is reported exactly if no two nodes below the root share an id, every id can stand in an expression and no node
depends on itself (`structureIssues_eq_nil`). What is reported otherwise is listed by `Defects`: the shared ids in
ascending order, each with the number of its nodes, every node whose id cannot stand in an expression, and one cycle
at most.
-/

namespace ProductLine

/-- Among values at distinct places, one is as frequent as there are places of it. -/
lemma count_map_eq_ncard {α β : Type} [DecidableEq β] {l : List α} (hl : l.Nodup) (f : α → β) (b : β) :
    (l.map f).count b = {a | a ∈ l ∧ f a = b}.ncard := by
  classical
  have hset : {a | a ∈ l ∧ f a = b} = ((l.filter (f · = b)).toFinset : Set α) := by
    ext a
    simp
  rw [hset, Set.ncard_coe_finset, List.toFinset_card_of_nodup (hl.filter _), List.count, List.countP_map,
    List.countP_eq_length_filter]
  congr 1

/-- Sorted distinct texts ascend. -/
lemma pairwise_lt_mergeSort {names : List String} (h : names.Nodup) : names.mergeSort.Pairwise (· < ·) := by
  have hle : names.mergeSort.Pairwise fun a b => decide (a ≤ b) = true := by
    apply List.pairwise_mergeSort
    · intro a b c hab hbc
      exact decide_eq_true (String.le_trans (of_decide_eq_true hab) (of_decide_eq_true hbc))
    · intro a b
      simpa using String.le_total a b
  apply hle.imp₂ _ (List.nodup_mergeSort.2 h)
  intro a b hab hne
  apply String.not_le.1
  exact fun hba => hne (String.le_antisymm (of_decide_eq_true hab) hba)

namespace Graph

variable {g : Graph} {root : Fin g.size} {support : Diagram → List String} {features : List String}

/-- The nodes below a root that have an id. -/
def holders (g : Graph) (root : Fin g.size) (id : String) : Set (Fin g.size) := {i | g.Reaches root i ∧ g.id i = id}

/-- What the structure of the graph below a root is reported for. -/
def structureIssues (g : Graph) (root : Fin g.size) : List Issue :=
  g.sharedIds (g.reachable root) ++ g.badIds (g.reachable root) ++ g.cycleIssue root

/-- Without features and without a checker only the structure is validated. -/
lemma validate_structure : g.validate support root none none = .ok (g.structureIssues root) := by
  simp [validate, structureIssues]

/-- What the presence conditions of the nodes below a root are reported for. -/
def presenceIssues (g : Graph) (support : Diagram → List String) (features : List String) (root : Fin g.size) :
    List Issue :=
  (g.reachable root).flatMap fun i => presenceIssue support features (g.node i)

/-- With features the presence conditions are validated after the structure. -/
lemma validate_presences : g.validate support root (some features) none =
    .ok (g.structureIssues root ++ g.presenceIssues support features root) := by
  simp [validate, structureIssues, presenceIssues]

/-- Nothing is reported exactly if neither the structure nor a presence condition is. -/
lemma validate_presences_eq_nil : g.validate support root (some features) none = .ok [] ↔
    g.structureIssues root = [] ∧ g.presenceIssues support features root = [] := by
  rw [validate_presences, Except.ok.injEq, List.append_eq_nil_iff]

/-- No presence condition is reported exactly if that of no node below the root is. -/
lemma presenceIssues_eq_nil : g.presenceIssues support features root = [] ↔
    ∀ i, g.Reaches root i → presenceIssue support features (g.node i) = [] := by
  simp [presenceIssues, mem_reachable]

/-! Shared ids -/

/-- An id stands among the ids as often as there are nodes with it. -/
lemma count_ids (id : String) : ((g.reachable root).map g.id).count id = (g.holders root id).ncard := by
  rw [count_map_eq_ncard (g.nodup_reachable root), holders]
  simp only [mem_reachable]

/-- No shared id is found below a root exactly if no two nodes there have the same id. -/
lemma sharedIds_reachable_eq_nil : g.sharedIds (g.reachable root) = [] ↔ g.DistinctIds root := by
  rw [sharedIds_eq_nil, List.nodup_map_iff_inj_on (g.nodup_reachable root)]
  simp only [mem_reachable]
  exact ⟨fun h i j hi hj => h i hi j hj, fun h i hi j hj => h i j hi hj⟩

/-- The ids that several nodes below a root share, with the number of these nodes. -/
def shared (g : Graph) (root : Fin g.size) : List (String × Nat) :=
  let ids := (g.reachable root).map g.id
  ((Formula.distinct [] ids).mergeSort.filter (1 < ids.count ·)).map fun id => (id, ids.count id)

/-- The shared ids are reported in the order in which they are listed, with their numbers. -/
lemma sharedIds_eq_map : g.sharedIds (g.reachable root) = (g.shared root).map fun s => .sharedId s.1 s.2 := by
  simp [sharedIds, shared]

/-- Shared ids are listed in ascending order. -/
lemma ascending_shared : ((g.shared root).map Prod.fst).Pairwise (· < ·) := by
  simp only [shared, List.map_map, Function.comp_def, List.map_id']
  exact (pairwise_lt_mergeSort (FeatureSpace.nodup_distinct _ _)).filter _

/-- An id is listed with a number exactly if this many nodes have it, and at least two. -/
lemma mem_shared (id : String) (count : Nat) :
    (id, count) ∈ g.shared root ↔ count = (g.holders root id).ncard ∧ 2 ≤ count := by
  simp only [shared, List.mem_map, List.mem_filter, List.mem_mergeSort, Formula.mem_distinct, Prod.mk.injEq,
    decide_eq_true_eq]
  constructor
  · rintro ⟨_, ⟨_, hmany⟩, rfl, rfl⟩
    exact ⟨count_ids _, hmany⟩
  · rintro ⟨rfl, hmany⟩
    rw [← count_ids] at hmany ⊢
    have hmem : id ∈ (g.reachable root).map g.id := List.count_pos_iff.1 (by omega)
    exact ⟨id, ⟨⟨by simpa using hmem, List.not_mem_nil⟩, hmany⟩, rfl, rfl⟩

/-! Bad ids and cycles -/

/-- The nodes below a root whose id cannot stand in an expression. -/
def bad (g : Graph) (root : Fin g.size) : List (Fin g.size) :=
  (g.reachable root).filter fun i => !isVariable (g.id i)

/-- The bad ids are reported in the order in which their nodes are listed. -/
lemma badIds_eq_map : g.badIds (g.reachable root) = (g.bad root).map fun i => .badId (g.id i) := by
  rw [badIds, bad, List.filter_map, List.map_map]
  rfl

/-- The nodes with bad ids are those below the root whose id is no variable. -/
lemma mem_bad (i : Fin g.size) : i ∈ g.bad root ↔ g.Reaches root i ∧ isVariable (g.id i) = false := by
  simp [bad, mem_reachable]

/-- No bad id is reported exactly if every id below the root is a variable. -/
lemma badIds_reachable_eq_nil :
    g.badIds (g.reachable root) = [] ↔ ∀ i, g.Reaches root i → isVariable (g.id i) = true := by
  rw [badIds_eq_map, List.map_eq_nil_iff, List.eq_nil_iff_forall_not_mem]
  simp [mem_bad]

/-- The edge that is reported for a cycle leads from a node below the root to a child of it. -/
lemma idEdge_of_closingEdge (colours : List (String × Colour)) (stack : List (Fin g.size × List (Fin g.size)))
    (hstack : ∀ entry ∈ stack, g.Reaches root entry.1 ∧ ∀ c ∈ entry.2, c ∈ g.children entry.1) :
    ∀ e ∈ g.closingEdge colours stack, g.IdEdge root e.1 e.2 := by
  fun_induction closingEdge g colours stack with
  | case1 colours => simp
  | case2 colours i stack ih => exact ih (List.forall_mem_cons.1 hstack).2
  | case3 colours i c rest stack hgrey =>
    obtain ⟨hi, hchildren⟩ := hstack _ List.mem_cons_self
    intro e he
    obtain rfl := Option.mem_some.1 he
    exact ⟨i, c, hi, hchildren c List.mem_cons_self, rfl, rfl⟩
  | case4 colours i c rest stack hblack ih =>
    obtain ⟨⟨hi, hchildren⟩, hstack⟩ := List.forall_mem_cons.1 hstack
    exact ih (List.forall_mem_cons.2 ⟨⟨hi, fun d hd => hchildren d (List.mem_cons_of_mem c hd)⟩, hstack⟩)
  | case5 colours i c rest stack hwhite ih =>
    obtain ⟨⟨hi, hchildren⟩, hstack⟩ := List.forall_mem_cons.1 hstack
    have hc : g.Reaches root c := hi.tail (hchildren c List.mem_cons_self)
    have hrest : ∀ d ∈ rest, d ∈ g.children i := fun d hd => hchildren d (List.mem_cons_of_mem c hd)
    exact ih (List.forall_mem_cons.2 ⟨⟨hc, fun d hd => hd⟩, List.forall_mem_cons.2 ⟨⟨hi, hrest⟩, hstack⟩⟩)

/-- The edge reported as a cycle leads from the id of a node to that of one of its children. -/
lemma idEdge_closing : ∀ e ∈ g.closingEdge? root, g.IdEdge root e.1 e.2 := by
  apply idEdge_of_closingEdge
  intro entry hentry
  obtain rfl := List.mem_singleton.1 hentry
  exact ⟨.refl, fun c hc => hc⟩

/-- A cycle is reported as the edge that closes it. -/
lemma cycleIssue_eq_map : g.cycleIssue root = (g.closingEdge? root).toList.map fun e => .cycle e.1 e.2 := by
  rw [cycleIssue]
  cases g.closingEdge? root with
  | none => rfl
  | some e => rfl

/-! The report as a whole -/

/-- Nothing is reported for the structure exactly if no two nodes share an id, all ids can stand in an
expression and no node depends on itself. -/
lemma structureIssues_eq_nil :
    g.structureIssues root = [] ↔
      g.DistinctIds root ∧ (∀ i, g.Reaches root i → isVariable (g.id i) = true) ∧ g.Acyclic root := by
  rw [structureIssues, List.append_eq_nil_iff, List.append_eq_nil_iff, sharedIds_reachable_eq_nil,
    badIds_reachable_eq_nil, and_assoc]
  apply and_congr_right
  intro hdistinct
  rw [cycleIssue_eq_nil, acyclic_iff_explored hdistinct]

/-- Nothing is wrong with the structure of one node if its id can stand in an expression. -/
lemma structureIssues_single {id : String} {presence : Presence} {model : Model} (h : isVariable id = true)
    (i : Fin (single id presence model).size) : (single id presence model).structureIssues i = [] := by
  apply structureIssues_eq_nil.2
  refine ⟨fun j k _ _ _ => Subsingleton.elim (α := Fin 1) j k, fun j _ => ?_, acyclic_of_leaf ?_⟩
  · rw [Graph.id, node_single]
    exact h
  · rw [children, node_single]

/-- What is wrong with the structure of the graph below a root. -/
structure Defects (g : Graph) (root : Fin g.size) where
  /-- Ids with the number of nodes that have them. -/
  shared : List (String × Nat)
  /-- The nodes whose id cannot stand in an expression. -/
  bad : List (Fin g.size)
  /-- The ids of a node and of a child of it that lead into a cycle. -/
  closing : Option (String × String)
  ascending : (shared.map Prod.fst).Pairwise (· < ·)
  mem_shared : ∀ id count, (id, count) ∈ shared ↔ count = (g.holders root id).ncard ∧ 2 ≤ count
  nodup_bad : bad.Nodup
  mem_bad : ∀ i, i ∈ bad ↔ g.Reaches root i ∧ isVariable (g.id i) = false
  edge : ∀ e ∈ closing, g.IdEdge root e.1 e.2

/-- The issues that report what is wrong with the structure. -/
def Defects.issues (d : g.Defects root) : List Issue :=
  d.shared.map (fun s => .sharedId s.1 s.2) ++ d.bad.map (fun i => .badId (g.id i)) ++
    d.closing.toList.map fun e => .cycle e.1 e.2

/-- What is wrong with the structure as it is found. -/
def defects (g : Graph) (root : Fin g.size) : g.Defects root where
  shared := g.shared root
  bad := g.bad root
  closing := g.closingEdge? root
  ascending := ascending_shared
  mem_shared := mem_shared
  nodup_bad := (g.nodup_reachable root).filter _
  mem_bad := mem_bad
  edge := idEdge_closing

/-- The defects of a graph are what is reported for its structure. -/
lemma issues_defects : (g.defects root).issues = g.structureIssues root := by
  rw [Defects.issues, structureIssues, sharedIds_eq_map, badIds_eq_map, cycleIssue_eq_map]
  rfl

/-- The structure of a graph passes exactly if no two nodes below the root share an id, all ids there are names that
are no keywords and no node depends on itself; otherwise exactly what is wrong with it is reported. -/
theorem validate_structure_exact (g : Graph) (support : Diagram → List String) (root : Fin g.size) :
    (g.validate support root none none = .ok [] ↔
      g.DistinctIds root ∧
        (∀ i, g.Reaches root i →
          Text.isName (g.id i).toList = true ∧ Expression.isKeyword (g.id i).toList = false) ∧
        g.Acyclic root) ∧
    ∃ d : g.Defects root, g.validate support root none none = .ok d.issues := by
  constructor
  · rw [validate_structure, Except.ok.injEq, structureIssues_eq_nil]
    simp only [isVariable, Bool.and_eq_true, Bool.not_eq_true']
  · refine ⟨g.defects root, ?_⟩
    rw [validate_structure, issues_defects]

end Graph

end ProductLine
