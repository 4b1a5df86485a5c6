import Mathlib.Data.List.Chain
import ProductLine.Graph.Cycle
import ProductLine.Proofs.Graph.Search

/-!
# Searches for cycles

A search in depth through a whole graph either is done with all nodes or comes back to an id that it is below
(`searchAll_spec`). In the first case every id is done after those of its children (`Finished`). In the second
case the part of the path between the two visits is a circuit and, if no two nodes have the same id, a node
depends on itself (`findCycle?_spec`).
-/

namespace ProductLine

namespace Graph

variable {g : Graph} {path done : List String} {trail nodes rest : List (Fin g.size)} {i : Fin g.size}

/-- Whether a way along children is closed by a node whose id stands on it, for the first time. -/
structure Closes (g : Graph) (trail : List (Fin g.size)) (i : Fin g.size) : Prop where
  chain : (trail ++ [i]).IsChain g.Child
  distinct : (trail.map g.id).Nodup
  closed : g.id i ∈ trail.map g.id

/-- Whether ids are done, the last one first, each once and after the ids of its children. -/
def Finished (g : Graph) : List String → Prop
  | [] => True
  | id :: done => id ∉ done ∧ (∃ i, g.id i = id ∧ ∀ c ∈ g.children i, g.id c ∈ done) ∧ Finished g done

/-! One step of a search -/

/-- With no nodes left the search is done. -/
lemma searchAll_nil : g.searchAll path done [] = .ok done := by rw [searchAll]

/-- A node whose id is done is passed over. -/
lemma searchAll_seen (h : g.id i ∈ done) : g.searchAll path done (i :: rest) = g.searchAll path done rest := by
  rw [searchAll, if_pos h]

/-- A node whose id is on the path closes it. -/
lemma searchAll_closing (h : g.id i ∉ done) (hpath : g.id i ∈ path) :
    g.searchAll path done (i :: rest) = .error (path ++ [g.id i]) := by
  rw [searchAll, if_neg h, search, dif_pos hpath]

/-- A cycle below a new node ends the search. -/
lemma searchAll_new_error {closed : List String} (h : g.id i ∉ done) (hpath : g.id i ∉ path)
    (hbelow : g.searchAll (path ++ [g.id i]) done (g.children i) = .error closed) :
    g.searchAll path done (i :: rest) = .error closed := by
  rw [searchAll, if_neg h, search, dif_neg hpath, hbelow]

/-- After what is below a new node the node is done. -/
lemma searchAll_new_ok {below : List String} (h : g.id i ∉ done) (hpath : g.id i ∉ path)
    (hbelow : g.searchAll (path ++ [g.id i]) done (g.children i) = .ok below) :
    g.searchAll path done (i :: rest) = g.searchAll path (g.id i :: below) rest := by
  rw [searchAll, if_neg h, search, dif_neg hpath, hbelow]

/-- A way may be continued to a child of its last node. -/
lemma isChain_concat {c : Fin g.size} (h : (trail ++ [i]).IsChain g.Child) (hc : c ∈ g.children i) :
    (trail ++ [i] ++ [c]).IsChain g.Child := by
  rw [List.isChain_append]
  refine ⟨h, .singleton c, ?_⟩
  intro a ha b hb
  rw [List.getLast?_concat, Option.mem_some_iff] at ha
  rw [List.head?_singleton, Option.mem_some_iff] at hb
  rw [← ha, ← hb]
  exact hc

/-- A search is done with its nodes and keeps the order in which ids are done, or it stops at a way that is
closed. -/
theorem searchAll_spec (path done : List String) (nodes : List (Fin g.size)) {trail : List (Fin g.size)}
    (htrail : ∀ i ∈ nodes, (trail ++ [i]).IsChain g.Child) (hpath : trail.map g.id = path) (hnodup : path.Nodup)
    (hdone : g.Finished done) (hapart : Apart path done) :
    (∃ done', g.searchAll path done nodes = .ok done' ∧ g.Finished done' ∧ Apart path done' ∧ done ⊆ done' ∧
      ∀ i ∈ nodes, g.id i ∈ done') ∨
    ∃ trail i, g.searchAll path done nodes = .error ((trail ++ [i]).map g.id) ∧ g.Closes trail i := by
  induction path, done, nodes using search_induction generalizing trail with
  | nil path done => exact .inl ⟨done, searchAll_nil, hdone, hapart, List.Subset.refl done, by simp⟩
  | seen path done i rest hi ih =>
    rw [searchAll_seen hi]
    rcases ih (fun j hj => htrail j (List.mem_cons_of_mem i hj)) hpath hnodup hdone hapart with
      ⟨done', hok, hfinished, hapart', hsubset, hrest⟩ | hclosed
    · refine .inl ⟨done', hok, hfinished, hapart', hsubset, ?_⟩
      exact List.forall_mem_cons.2 ⟨hsubset hi, hrest⟩
    · exact .inr hclosed
  | closing path done i rest hi hmem =>
    refine .inr ⟨trail, i, ?_, htrail i List.mem_cons_self, by rwa [hpath], by rwa [hpath]⟩
    rw [searchAll_closing hi hmem, List.map_append, hpath, List.map_singleton]
  | new path done i rest hi hmem ihbelow ihrest =>
    have hway := htrail i List.mem_cons_self
    rcases ihbelow (fun c hc => isChain_concat hway hc) (by simp [hpath]) (nodup_append_id hnodup hmem) hdone
      (hapart.push hi) with ⟨below, hbelow, hfinished, hapart', hsubset, hchildren⟩ | ⟨trail', j, herror, hclosed⟩
    · -- the children are done by now, so the node is done after them
      have hnode : g.Finished (g.id i :: below) :=
        ⟨hapart' _ (List.mem_append_right path (List.mem_singleton_self _)), ⟨i, rfl, hchildren⟩, hfinished⟩
      have hnext : Apart path (g.id i :: below) := by
        intro id hid hmem'
        rcases List.mem_cons.1 hmem' with rfl | hmem'
        · exact hmem hid
        · exact hapart' id (List.mem_append_left _ hid) hmem'
      rw [searchAll_new_ok hi hmem hbelow]
      rcases ihrest (g.id i :: below) (fun j hj => htrail j (List.mem_cons_of_mem i hj)) hpath
          hnodup hnode hnext with
        ⟨done', hok, hfinished', hapart', hsubset', hrest⟩ | hclosed
      · have hmore := List.cons_subset.1 hsubset'
        refine .inl ⟨done', hok, hfinished', hapart', List.Subset.trans hsubset hmore.2, ?_⟩
        exact List.forall_mem_cons.2 ⟨hmore.1, hrest⟩
      · exact .inr hclosed
    · exact .inr ⟨trail', j, searchAll_new_error hi hmem herror, hclosed⟩

/-! What a search says about cycles -/

namespace Finished

/-- No id is done twice. -/
lemma nodup (h : g.Finished done) : done.Nodup := by
  induction done with
  | nil => exact .nil
  | cons id done ih => exact List.nodup_cons.2 ⟨h.1, ih h.2.2⟩

/-- Only nodes are done. -/
lemma exists_of_mem (h : g.Finished done) {id : String} (hid : id ∈ done) : ∃ i, g.id i = id := by
  induction done with
  | nil => cases hid
  | cons other done ih =>
    obtain ⟨-, ⟨i, hi, -⟩, hdone⟩ := h
    rcases List.mem_cons.1 hid with rfl | hid
    · exact ⟨i, hi⟩
    · exact ih hdone hid

/-- Among what is done, the children of a node come behind it. -/
lemma sublist (hid : Function.Injective g.id) (h : g.Finished done) (hi : g.id i ∈ done) {c : Fin g.size}
    (hc : c ∈ g.children i) : [g.id i, g.id c].Sublist done := by
  induction done with
  | nil => cases hi
  | cons id done ih =>
    obtain ⟨-, ⟨j, hj, hchildren⟩, hdone⟩ := h
    rcases List.mem_cons.1 hi with heq | hi
    · obtain rfl := hid (heq.trans hj.symm)
      rw [heq]
      exact (List.singleton_sublist.2 (hchildren c hc)).cons_cons id
    · exact (ih hdone hi).cons id

end Finished

namespace Closes

/-- The cycle of a way that is closed begins where its last id was met first. -/
lemma cycleOf_eq (h : g.Closes trail i) :
    cycleOf ((trail ++ [i]).map g.id) = (trail.map g.id).dropWhile (· ≠ g.id i) ++ [g.id i] := by
  obtain ⟨rest, hrest⟩ := exists_dropWhile h.closed
  rw [List.map_append, List.map_singleton, cycleOf, List.getLast?_concat]
  simp only [List.dropWhile_append, hrest, List.isEmpty_cons, Bool.false_eq_true, if_false]

/-- The part of a closed way between the two times its last id stands on it is a circuit. -/
lemma isCircuit {R : String → String → Prop} (h : g.Closes trail i)
    (hR : ∀ j c, c ∈ g.children j → R (g.id j) (g.id c)) : IsCircuit R (cycleOf ((trail ++ [i]).map g.id)) := by
  rw [h.cycleOf_eq]
  have hchain := List.isChain_map_of_isChain g.id (S := R) hR h.chain
  rw [List.map_append, List.map_singleton] at hchain
  exact .of_isChain hchain h.distinct h.closed

/-- If ids are distinct, the node that closes a way depends on itself. -/
lemma transGen (hid : Function.Injective g.id) (h : g.Closes trail i) : Relation.TransGen g.Child i i := by
  obtain ⟨j, hj, hji⟩ := List.mem_map.1 h.closed
  obtain rfl := hid hji
  have hpairwise := (h.chain.imp fun a b hab => Relation.TransGen.single hab).pairwise
  exact (List.pairwise_append.1 hpairwise).2.2 j hj j (List.mem_singleton_self j)

end Closes

/-- If ids are distinct, either no cycle is found, and all ids can be put into an order in which each comes
before the ids of its children, or a circuit is found, and a node depends on itself. -/
theorem findCycle?_spec (hid : Function.Injective g.id) {R : String → String → Prop}
    (hR : ∀ j c, c ∈ g.children j → R (g.id j) (g.id c)) :
    (g.findCycle? = none ∧ ∃ order, g.Finished order ∧ ∀ i, g.id i ∈ order) ∨
    ∃ path i, g.findCycle? = some path ∧ IsCircuit R path ∧ Relation.TransGen g.Child i i := by
  have hstart : ∀ i ∈ g.indices, ([] ++ [i]).IsChain g.Child := fun i _ => .singleton i
  rw [findCycle?]
  rcases searchAll_spec [] [] g.indices hstart rfl .nil trivial (by simp [Apart]) with
    ⟨order, hok, hfinished, -, -, hmem⟩ | ⟨trail, i, herror, hclosed⟩
  · rw [hok]
    exact .inl ⟨rfl, order, hfinished, fun i => hmem i (List.mem_finRange i)⟩
  · rw [herror]
    exact .inr ⟨_, i, rfl, hclosed.isCircuit hR, hclosed.transGen hid⟩

end Graph

end ProductLine
