import Mathlib.Data.List.Chain
import Mathlib.Data.List.Nodup
import Mathlib.Logic.Relation
import Mathlib.Tactic.Common
import ProductLine.Graph.Basic

/-!
# Reachability in dependency graphs

Nodes are reached from a root along children. A trail lists the nodes on one way from the root to a node; a
node whose id stands on a trail to it closes a cycle of ids (`Trail.isCycle`), and a cycle of nodes if ids are
distinct (`Trail.not_acyclic`).
-/

namespace ProductLine

/-- A path without repetitions goes on with a new id. -/
lemma nodup_append_id {path : List String} {id : String} (h : path.Nodup) (hid : id ∉ path) :
    (path ++ [id]).Nodup := by
  rw [← List.concat_eq_append]
  exact List.Nodup.concat hid h

namespace Graph

variable {g : Graph} {root : Fin g.size}

/-- Whether a node depends on another one directly. -/
def Child (g : Graph) (i c : Fin g.size) : Prop := c ∈ g.children i

/-- Whether a node is another one or depends on it. -/
def Reaches (g : Graph) : Fin g.size → Fin g.size → Prop := Relation.ReflTransGen g.Child

/-- Whether no node below a root depends on itself. -/
def Acyclic (g : Graph) (root : Fin g.size) : Prop := ∀ i, g.Reaches root i → ¬ Relation.TransGen g.Child i i

/-- Whether no two nodes below a root have the same id. -/
def DistinctIds (g : Graph) (root : Fin g.size) : Prop :=
  ∀ i j, g.Reaches root i → g.Reaches root j → g.id i = g.id j → i = j

/-- The graph of one node without children. -/
def single (id : String) (presence : Presence) (model : Model) : Graph := ⟨1, #v[⟨id, [], presence, model⟩]⟩

/-- The graph of one node has this node everywhere. -/
lemma node_single {id : String} {presence : Presence} {model : Model} (i : Fin (single id presence model).size) :
    (single id presence model).node i = ⟨id, [], presence, model⟩ := by
  rw [Subsingleton.elim (α := Fin 1) i 0]
  rfl

/-- The graph of one node that is its own child. -/
def loop (id : String) (presence : Presence) (model : Model) : Graph := ⟨1, #v[⟨id, [0], presence, model⟩]⟩

/-- Two roots and two nodes without children, the second of which they share: the first root names the node
that is its own, the second root the shared one. -/
abbrev twin : Graph :=
  ⟨4, #v[⟨"r", [2, 3], .formula "a", .datum (.text "c")⟩, ⟨"q", [3], .formula "a", .datum (.text "d")⟩,
    ⟨"c", [], .formula "a", .datum (.text "0.5")⟩, ⟨"d", [], .formula "b", .datum (.text "0.5")⟩]⟩

/-- The four nodes of the graph with two roots. -/
lemma cases_twin (i : Fin 4) : i = 0 ∨ i = 1 ∨ i = 2 ∨ i = 3 := by
  revert i
  decide

/-- Children have higher numbers than their parents. -/
lemma lt_of_child_twin {i c : Fin 4} (h : c ∈ twin.children i) : i < c := by
  have hall : ∀ i : Fin 4, ∀ c ∈ twin.children i, i < c := by decide
  exact hall i c h

/-- Descendants have higher numbers than their ancestors. -/
lemma le_of_reaches_twin {i j : Fin 4} (h : twin.Reaches i j) : i.val ≤ j.val := by
  induction h with
  | refl => exact Nat.le_refl _
  | tail _ hc ih => exact ih.trans (Nat.le_of_lt (lt_of_child_twin hc))

/-- None of these nodes depends on itself. -/
lemma not_transGen_twin (i : Fin 4) : ¬ Relation.TransGen twin.Child i i := by
  intro hcycle
  obtain ⟨c, hc, hback⟩ := Relation.TransGen.head'_iff.1 hcycle
  exact absurd (lt_of_child_twin hc) (Nat.not_lt.2 (le_of_reaches_twin hback))

/-- No two nodes of the graph with two roots have the same id. -/
lemma id_twin_injective : Function.Injective twin.id := by
  have hids : ∀ i j : Fin 4, twin.id i = twin.id j → i = j := by decide
  exact fun i j => hids i j

/-- Nothing below a node without children depends on itself. -/
lemma acyclic_of_leaf (h : g.children root = []) : g.Acyclic root := by
  intro i hi hcycle
  rcases hi.cases_head with rfl | ⟨c, hc, _⟩
  · obtain ⟨c, hc, _⟩ := Relation.TransGen.head'_iff.1 hcycle
    rw [Child, h] at hc
    cases hc
  · rw [Child, h] at hc
    cases hc

/-- Whether two ids are those of a node below a root and of one of its children. -/
def IdEdge (g : Graph) (root : Fin g.size) (a b : String) : Prop :=
  ∃ i c, g.Reaches root i ∧ c ∈ g.children i ∧ g.id i = a ∧ g.id c = b

/-- Whether ids lead from one through children back to it and to no other one twice. -/
structure IsCycle (g : Graph) (root : Fin g.size) (path : List String) : Prop where
  long : 2 ≤ path.length
  closed : path.head? = path.getLast?
  distinct : path.dropLast.Nodup
  edges : path.IsChain (g.IdEdge root)

/-- What is left of a list from an element on begins with it. -/
lemma exists_dropWhile {path : List String} {id : String} (h : id ∈ path) :
    ∃ rest, path.dropWhile (· ≠ id) = id :: rest := by
  induction path with
  | nil => cases h
  | cons a path ih =>
    by_cases ha : a = id
    · exact ⟨path, by simp [ha]⟩
    · obtain ⟨rest, hrest⟩ := ih (by simpa [Ne.symm ha] using h)
      exact ⟨rest, by simpa [ha] using hrest⟩

/-- Whether ids lead from one along a relation back to it and to no other one twice. -/
structure IsCircuit (R : String → String → Prop) (path : List String) : Prop where
  long : 2 ≤ path.length
  closed : path.head? = path.getLast?
  distinct : path.dropLast.Nodup
  edges : path.IsChain R

/-- A way without repetitions that comes back to one of its ids closes a circuit from there on. -/
lemma IsCircuit.of_isChain {R : String → String → Prop} {path : List String} {id : String}
    (hchain : (path ++ [id]).IsChain R) (hpath : path.Nodup) (hid : id ∈ path) :
    IsCircuit R (path.dropWhile (· ≠ id) ++ [id]) := by
  obtain ⟨rest, hrest⟩ := exists_dropWhile hid
  refine ⟨?_, ?_, ?_, ?_⟩
  · rw [hrest]
    simp
  · rw [List.getLast?_concat, hrest]
    rfl
  · rw [List.dropLast_concat]
    exact hpath.sublist (List.dropWhile_sublist _)
  · obtain ⟨front, hfront⟩ := List.dropWhile_suffix (l := path) (· ≠ id)
    refine hchain.suffix ⟨front, ?_⟩
    rw [← List.append_assoc, hfront]

/-- Whether some nodes are those on a way from a root to a node, the node itself left out. -/
inductive Trail (g : Graph) (root : Fin g.size) : List (Fin g.size) → Fin g.size → Prop where
  | start : Trail g root [] root
  | next {trail : List (Fin g.size)} {i c : Fin g.size} (h : Trail g root trail i) (hc : c ∈ g.children i) :
    Trail g root (trail ++ [i]) c

namespace Trail

variable {trail : List (Fin g.size)} {i : Fin g.size}

/-- A trail from the root begins at the root. -/
lemma of_root : ∀ j ∈ [root], g.Trail root [] j := by
  intro j hj
  obtain rfl := List.mem_singleton.1 hj
  exact .start

/-- The end of a trail can be reached from the root. -/
lemma reaches (h : Trail g root trail i) : g.Reaches root i := by
  induction h with
  | start => exact .refl
  | next _ hc ih => exact .tail ih hc

/-- A node on a trail is below the root and above the end of the trail. -/
lemma of_mem (h : Trail g root trail i) {j : Fin g.size} (hj : j ∈ trail) :
    g.Reaches root j ∧ Relation.TransGen g.Child j i := by
  induction h with
  | start => cases hj
  | next h hc ih =>
    rcases List.mem_append.1 hj with hj | hj
    · exact ⟨(ih hj).1, .tail (ih hj).2 hc⟩
    · obtain rfl := List.mem_singleton.1 hj
      exact ⟨h.reaches, .single hc⟩

/-- The ids along a trail are those of nodes and their children. -/
lemma isChain (h : Trail g root trail i) : ((trail ++ [i]).map g.id).IsChain (g.IdEdge root) := by
  induction h with
  | start => exact .singleton _
  | @next trail i c h hc ih =>
    rw [List.map_append, List.isChain_append]
    refine ⟨ih, .singleton _, ?_⟩
    intro a ha b hb
    have hlast : g.id i = a := by simpa using ha
    have hfirst : g.id c = b := by simpa using hb
    exact ⟨i, c, h.reaches, hc, hlast, hfirst⟩

/-- A node whose id stands on a trail to it closes a cycle of ids. -/
theorem isCycle (h : Trail g root trail i) (hpath : (trail.map g.id).Nodup) (hi : g.id i ∈ trail.map g.id) :
    g.IsCycle root ((trail.map g.id).dropWhile (· ≠ g.id i) ++ [g.id i]) := by
  have hchain := h.isChain
  rw [List.map_append, List.map_singleton] at hchain
  have hcircuit := IsCircuit.of_isChain hchain hpath hi
  exact ⟨hcircuit.long, hcircuit.closed, hcircuit.distinct, hcircuit.edges⟩

/-- If ids are distinct, a node whose id stands on a trail to it depends on itself. -/
theorem not_acyclic (h : Trail g root trail i) (hdistinct : g.DistinctIds root) (hi : g.id i ∈ trail.map g.id) :
    ¬ g.Acyclic root := by
  obtain ⟨j, hj, hid⟩ := List.mem_map.1 hi
  obtain ⟨hreach, hbelow⟩ := h.of_mem hj
  obtain rfl := hdistinct j i hreach h.reaches hid
  exact fun hacyclic => hacyclic j hreach hbelow

end Trail

end Graph

end ProductLine
